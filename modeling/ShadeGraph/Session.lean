import ShadeGraph.Editor
import ShadeGraph.Node.InPlace

/-!
# Sessions

In a session an editor is one object that edits change in place. An edit makes its checks and writes its changes
one after the other.
-/

namespace ShadeGraph

inductive Request (ν : Type)
  | edit (edit : Edit ν)
  /-- Adds a new node of a kind, with parameters. -/
  | addOfKind (registry : Registry ν) (stage : Stage) (kind : String) (bag : ParamBag) (id : NodeId)
      (position : Position)

abbrev Session (ν α : Type) := InPlace (Editor ν) GraphError α

namespace Session

variable {ν : Type}

def markStale : Session ν Unit := modify fun e => { e with stale := true }

def onDesign (f : Design ν → Design ν) : Session ν Unit := modify fun e => { e with design := f e.design }

def onGraph (stage : Stage) (f : StageGraph ν → StageGraph ν) : Session ν Unit :=
  onDesign fun d => d.withGraph stage (f (d.graph stage))

def onPlaced (stage : Stage) (id : NodeId) (f : PlacedNode ν → PlacedNode ν) : Session ν Unit :=
  onGraph stage (·.modify id f)

def clearDefault (stage : Stage) (id : NodeId) (port : Nat) : Session ν Unit := do
  if ((← get).design.placed? stage id).any (·.overrides.contains port) then
    onPlaced stage id fun placed => { placed with overrides := placed.overrides.erase port }
    markStale

def disconnect (stage : Stage) (edge : Edge) : Session ν Unit := do
  if ((← get).design.graph stage).edges.contains edge then
    onGraph stage (·.disconnect edge)
    markStale

def setOption (group : String) (option : Nat) : Session ν Unit := do
  let mode := (← get).design.mode
  if !mode.hasOption group option then throw (.notPermitted (group ++ "[" ++ Nat.repr option ++ "]") mode)
  onDesign fun d => { d with settings := { d.settings with options := d.settings.options.insert group option } }
  markStale

def clearOption (group : String) : Session ν Unit := do
  if (← get).design.settings.options.contains group then
    onDesign (·.clearOption group)
    markStale

def setFlag (flag : String) (on : Bool) : Session ν Unit := do
  let d := (← get).design
  if !d.mode.hasFlag flag then throw (.notPermitted flag d.mode)
  onDesign fun d => { d with settings := if on then d.settings.enable flag else d.settings.disable flag }
  if d.settings.flags.contains flag ≠ on then markStale

variable [NodeModel ν]

def setMode (mode : Mode) : Session ν Unit := do
  if mode ≠ (← get).design.mode then
    onDesign (·.setMode mode)
    markStale

def add (stage : Stage) (id : NodeId) (position : Position) (n : ν) : Session ν Unit := do
  let d := (← get).design
  if id < NodeId.firstUser then throw (.reserved id)
  if (d.graph stage).contains id then throw (.idInUse stage id)
  if !NodeModel.isPermitted n d.mode stage then throw (.notPermitted (NodeModel.kind n) d.mode)
  let n ← d.named (NodeModel.bind d.mode stage n)
  onGraph stage (·.insert id ⟨n, position, .empty⟩)
  markStale

def remove (stage : Stage) (id : NodeId) : Session ν Unit := do
  if id = .output then throw (.reserved id)
  let _ ← ((← get).design.graph stage).checkNode stage id
  onGraph stage (·.erase id)
  markStale

def move (stage : Stage) (id : NodeId) (position : Position) : Session ν Unit := do
  let _ ← ((← get).design.graph stage).checkNode stage id
  onPlaced stage id fun placed => { placed with position }

/-- Sets a parameter of the node itself; then come the things that hang on its ports. -/
def setParam [Settable ν] (stage : Stage) (id : NodeId) (name : String) (value : ParamValue) : Session ν Unit := do
  let d := (← get).design
  let n ← (d.graph stage).checkNode stage id
  let putBack (n : ν) (e : Editor ν) : Editor ν :=
    { e with design := e.design.withGraph stage ((e.design.graph stage).modify id fun placed =>
        { placed with node := n }) }
  InPlace.onPart n putBack .param (storeParam name (d.resolve stage id name value))
  onPlaced stage id fun placed => { placed with node := NodeModel.bind d.mode stage placed.node }
  onPlaced stage id PlacedNode.prune
  onGraph stage (·.pruneEdges id)
  markStale

def setDefault (stage : Stage) (id : NodeId) (port : Nat) (value : PortValue) : Session ν Unit := do
  let n ← ((← get).design.graph stage).checkNode stage id
  let p ← StageGraph.checkPort n id .input port
  if p.type ≠ value.type then throw (.typeMismatch value.type p.type)
  let _ ← value.literal.mapError GraphError.literal
  onPlaced stage id fun placed => { placed with overrides := placed.overrides.insert port value }
  markStale

def connect (stage : Stage) (edge : Edge) : Session ν Unit := do
  ((← get).design.graph stage).checkEdge stage edge
  onGraph stage fun g => { g with edges := g.edges ++ [edge] }
  markStale

def addOfKind (registry : Registry ν) (stage : Stage) (kind : String) (bag : ParamBag) (id : NodeId)
    (position : Position) : Session ν Unit := do
  let n ← registry.instantiate kind bag
  add stage id position n

def run [Settable ν] : Edit ν → Session ν Unit
  | .setMode mode => setMode mode
  | .add stage id position node => add stage id position node
  | .remove stage id => remove stage id
  | .move stage id position => move stage id position
  | .setParam stage id name value => setParam stage id name value
  | .setDefault stage id port value => setDefault stage id port value
  | .clearDefault stage id port => clearDefault stage id port
  | .connect stage edge => connect stage edge
  | .disconnect stage edge => disconnect stage edge
  | .setOption group option => setOption group option
  | .clearOption group => clearOption group
  | .setFlag flag on => setFlag flag on
  | .scroll offset => onDesign (·.scroll offset)

def serve [Settable ν] : Request ν → Session ν Unit
  | .edit edit => run edit
  | .addOfKind registry stage kind bag id position => addOfKind registry stage kind bag id position

end Session

end ShadeGraph
