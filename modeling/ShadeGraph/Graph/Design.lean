import ShadeGraph.Graph.Connect
import ShadeGraph.Node.Registry
import ShadeGraph.Node.Uniform

/-!
# Designs

A design is what a shader is made from: a mode, render settings and the graphs of the three stages. An edit
either yields a new design or an error.
-/

namespace ShadeGraph

structure Design (ν : Type) where
  mode : Mode
  settings : RenderSettings := .empty
  /-- Where the editor looks. -/
  offset : Position := .origin
  stages : PerStage (StageGraph ν)

namespace Design

variable {ν : Type}

def graph (d : Design ν) (stage : Stage) : StageGraph ν := d.stages.get stage

def withGraph (d : Design ν) (stage : Stage) (g : StageGraph ν) : Design ν :=
  { d with stages := d.stages.set stage g }

def node? (d : Design ν) (stage : Stage) (id : NodeId) : Option ν := (d.graph stage).node? id

def placed? (d : Design ν) (stage : Stage) (id : NodeId) : Option (PlacedNode ν) := (d.graph stage).placed? id

def clearDefault (d : Design ν) (stage : Stage) (id : NodeId) (port : Nat) : Design ν :=
  d.withGraph stage ((d.graph stage).modify id fun placed =>
    { placed with overrides := placed.overrides.erase port })

def disconnect (d : Design ν) (stage : Stage) (e : Edge) : Design ν :=
  d.withGraph stage ((d.graph stage).disconnect e)

def setOption (d : Design ν) (group : String) (option : Nat) : Except GraphError (Design ν) :=
  if d.mode.hasOption group option then
    .ok { d with settings := { d.settings with options := d.settings.options.insert group option } }
  else .error (.notPermitted (group ++ "[" ++ Nat.repr option ++ "]") d.mode)

def clearOption (d : Design ν) (group : String) : Design ν :=
  { d with settings := { d.settings with options := d.settings.options.erase group } }

def setFlag (d : Design ν) (flag : String) (on : Bool) : Except GraphError (Design ν) :=
  if d.mode.hasFlag flag then
    .ok { d with settings := if on then d.settings.enable flag else d.settings.disable flag }
  else .error (.notPermitted flag d.mode)

def scroll (d : Design ν) (offset : Position) : Design ν := { d with offset }

variable [NodeModel ν]

def empty [HasTerminal ν] (mode : Mode) : Design ν where
  mode
  stages := .ofFn (StageGraph.empty mode)

def param? (d : Design ν) (stage : Stage) (id : NodeId) (name : String) : Option ParamValue :=
  (d.node? stage id).bind (NodeModel.param? · name)

/-- The value that an input port has when nothing feeds it. -/
def default? (d : Design ν) (stage : Stage) (id : NodeId) (port : Nat) : Option PortValue :=
  (d.placed? stage id).bind (·.default? port)

/-- The names of the uniforms of all stages, apart from one node's. -/
def uniformNames (d : Design ν) (apart : Option Site) : List String :=
  Stage.all.flatMap fun stage =>
    (d.graph stage).nodes.entries.filterMap fun (id, n) =>
      if apart = some ⟨stage, id⟩ then none else NodeModel.uniformName? n.node

/-- The name a uniform gets when one is wanted: an identifier that no other uniform has. -/
def uniformNameFor (d : Design ν) (apart : Option Site) (wanted : String) : String :=
  UniformName.unique (UniformName.sanitize wanted) (d.uniformNames apart)

/-- Whether a node's ports follow the mode. -/
def isBuiltin (n : ν) : Bool :=
  match NodeModel.category n with
  | .input | .output => true
  | _ => false

/-- Binds the nodes of a stage to a mode; edges at the built-ins of the old one are dropped. -/
def rebind (g : StageGraph ν) (mode : Mode) (stage : Stage) : StageGraph ν :=
  let stays (id : NodeId) : Bool := !(g.node? id).any isBuiltin
  { g with
    nodes := g.nodes.mapValues fun _ n => { n with node := NodeModel.bind mode stage n.node }
    edges := g.edges.filter fun e => stays e.source && stays e.target }

/-- Another mode has other render settings, so none are kept. -/
def setMode (d : Design ν) (mode : Mode) : Design ν :=
  if mode = d.mode then d
  else { d with
    mode
    settings := .empty
    stages := .ofFn fun stage => rebind (d.graph stage) mode stage }

/-- Gives a node that has a uniform's name one that is free. -/
def named (d : Design ν) (n : ν) : Except GraphError ν :=
  match NodeModel.uniformName? n with
  | none => .ok n
  | some current =>
    let name := d.uniformNameFor none current
    if name = current then .ok n
    else (NodeModel.applyParam n uniformNameParam (.text name)).mapError .param

def add (d : Design ν) (stage : Stage) (id : NodeId) (position : Position) (n : ν) :
    Except GraphError (Design ν) := do
  let g := d.graph stage
  if id < NodeId.firstUser then throw (.reserved id)
  if g.contains id then throw (.idInUse stage id)
  if !NodeModel.isPermitted n d.mode stage then throw (.notPermitted (NodeModel.kind n) d.mode)
  let n ← d.named (NodeModel.bind d.mode stage n)
  return d.withGraph stage (g.insert id ⟨n, position, .empty⟩)

def remove (d : Design ν) (stage : Stage) (id : NodeId) : Except GraphError (Design ν) := do
  if id = .output then throw (.reserved id)
  let _ ← (d.graph stage).checkNode stage id
  return d.withGraph stage ((d.graph stage).erase id)

def move (d : Design ν) (stage : Stage) (id : NodeId) (position : Position) : Except GraphError (Design ν) := do
  let _ ← (d.graph stage).checkNode stage id
  return d.withGraph stage ((d.graph stage).modify id fun n => { n with position })

/-- A text for the name of a uniform is turned into a free name first. -/
def resolve (d : Design ν) (stage : Stage) (id : NodeId) (name : String) (value : ParamValue) : ParamValue :=
  match value with
  | .text wanted => if name = uniformNameParam then .text (d.uniformNameFor (some ⟨stage, id⟩) wanted) else value
  | _ => value

/-- Sets a parameter of a node. Overrides and edges that its new ports do not fit are dropped. -/
def setParam (d : Design ν) (stage : Stage) (id : NodeId) (name : String) (value : ParamValue) :
    Except GraphError (Design ν) := do
  let g := d.graph stage
  let n ← g.checkNode stage id
  let n ← (NodeModel.applyParam n name (d.resolve stage id name value)).mapError .param
  let changed := g.modify id fun placed => { placed with node := NodeModel.bind d.mode stage n }.prune
  return d.withGraph stage (changed.pruneEdges id)

/-- Overrides the default of an input port, by a value of its type that has a literal. -/
def setDefault (d : Design ν) (stage : Stage) (id : NodeId) (port : Nat) (value : PortValue) :
    Except GraphError (Design ν) := do
  let g := d.graph stage
  let n ← g.checkNode stage id
  let p ← StageGraph.checkPort n id .input port
  if p.type ≠ value.type then throw (.typeMismatch value.type p.type)
  let _ ← value.literal.mapError .literal
  return d.withGraph stage (g.modify id fun placed =>
    { placed with overrides := placed.overrides.insert port value })

def connect (d : Design ν) (stage : Stage) (e : Edge) : Except GraphError (Design ν) := do
  return d.withGraph stage (← (d.graph stage).connect stage e)

/-- Connects without regard to types, occupied inputs and cycles. -/
def join (d : Design ν) (stage : Stage) (e : Edge) : Except GraphError (Design ν) := do
  return d.withGraph stage (← (d.graph stage).join stage e)

end Design

end ShadeGraph
