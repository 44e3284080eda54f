import ShadeGraph.Document.Entry
import ShadeGraph.Graph.Design

/-!
# Loading designs

All lines are read before anything is built. Then come the render settings, the nodes in the order in which
they were first mentioned, and the edges. Edges need not pass the checks of the editor.
-/

namespace ShadeGraph

/-- Something with the number of its line, from 1 on. -/
structure OnLine (α : Type) where
  line : Nat
  value : α
  deriving DecidableEq, Repr

inductive LoadCause
  | malformed (cause : Malformed)
  /-- The design refused an edit. -/
  | refused (cause : GraphError)
  deriving DecidableEq, Repr

abbrev LoadError := OnLine LoadCause

def LoadCause.message : LoadCause → String
  | .malformed cause => cause.message
  | .refused cause => cause.message

def LoadError.message (e : LoadError) : String :=
  "line " ++ Nat.repr e.line ++ ": " ++ e.value.message

def malformedOn {α : Type} (line : Nat) (result : Except Malformed α) : Except LoadError α :=
  result.mapError fun cause => ⟨line, .malformed cause⟩

def refusedOn {α : Type} (line : Nat) (result : Except GraphError α) : Except LoadError α :=
  result.mapError fun cause => ⟨line, .refused cause⟩

/-- What a document says about one node. -/
structure NodeRecord where
  kind? : Option (OnLine String) := none
  position? : Option (OnLine Position) := none
  params : List (OnLine (String × String)) := []
  defaults : List (OnLine (Nat × String)) := []

namespace NodeRecord

/-- A line that mentions the node. -/
def line (r : NodeRecord) : Nat :=
  ((r.position?.map OnLine.line).or
    ((r.params.head?.map OnLine.line).or (r.defaults.head?.map OnLine.line))).getD 0

end NodeRecord

structure Document where
  mode : Mode := .spatial
  options : List (OnLine (String × Nat)) := []
  flags : List (OnLine String) := []
  offset : Position := .origin
  nodes : Table Site NodeRecord := .empty
  edges : List (OnLine (Stage × EdgeNumbers)) := []

namespace Document

def record (doc : Document) (site : Site) : NodeRecord := (doc.nodes.get? site).getD {}

def withRecord (doc : Document) (site : Site) (f : NodeRecord → NodeRecord) : Document :=
  { doc with nodes := doc.nodes.insert site (f (doc.record site)) }

/-- Adds an entry. Later modes, offsets, kinds and positions replace earlier ones; all else is gathered. -/
def add (doc : Document) (entry : OnLine Entry) : Document :=
  let here {α : Type} (value : α) : OnLine α := ⟨entry.line, value⟩
  match entry.value with
  | .mode mode => { doc with mode }
  | .options choices => { doc with options := doc.options ++ choices.map here }
  | .flags flags => { doc with flags := doc.flags ++ flags.map here }
  | .offset offset => { doc with offset }
  | .kind site kind => doc.withRecord site fun r => { r with kind? := some (here kind) }
  | .position site position => doc.withRecord site fun r => { r with position? := some (here position) }
  | .param site name text => doc.withRecord site fun r => { r with params := r.params ++ [here (name, text)] }
  | .default site port text =>
    doc.withRecord site fun r => { r with defaults := r.defaults ++ [here (port, text)] }
  | .edges stage edges => { doc with edges := doc.edges ++ edges.map fun e => here (stage, e) }

def readLine (doc : Document) (line : OnLine (List Char)) : Except LoadError Document := do
  match ← malformedOn line.line (Entry.readLine line.value) with
  | none => return doc
  | some entry => return doc.add ⟨line.line, entry⟩

def numberedLines (text : String) : List (OnLine (List Char)) :=
  ((Text.lines text.toList).zipIdx 1).map fun (line, number) => ⟨number, line⟩

def read (text : String) : Except LoadError Document :=
  (numberedLines text).foldlM readLine {}

end Document

namespace Design

variable {ν : Type} [NodeModel ν]

def loadParam (kind : String) (n : ν) (param : OnLine (String × String)) : Except LoadError ν := do
  let (name, text) := param.value
  let spec ← malformedOn param.line
    (Entry.orMalformed ((NodeModel.schema n).find? (·.name = name)) (.noParam kind name))
  let value ← malformedOn param.line ((ParamValue.read spec.kind text.toList).mapError .value)
  refusedOn param.line ((NodeModel.applyParam n name value).mapError .param)

def loadDefault (site : Site) (d : Design ν) (default : OnLine (Nat × String)) :
    Except LoadError (Design ν) := do
  let (port, text) := default.value
  let type ← malformedOn default.line
    (Entry.orMalformed ((d.node? site.stage site.id).bind (NodeModel.portType? · .input port))
      (.noInput site.id port))
  let value ← malformedOn default.line ((PortValue.read type text.toList).mapError .value)
  refusedOn default.line (d.setDefault site.stage site.id port value)

def loadTerminal (d : Design ν) (stage : Stage) (r : NodeRecord) : Except LoadError (Design ν) :=
  match r.position? with
  | none => .ok d
  | some position => refusedOn position.line (d.move stage .output position.value)

def loadNode (registry : Registry ν) (d : Design ν) (entry : Site × NodeRecord) : Except LoadError (Design ν) := do
  let (site, r) := entry
  if site.id = .output then d.loadTerminal site.stage r
  else
    let kind ← match r.kind? with
      | some kind => pure kind
      | none => throw ⟨r.line, .malformed (.noKind site)⟩
    let n ← refusedOn kind.line (registry.instantiate kind.value .empty)
    let n ← r.params.foldlM (loadParam kind.value) n
    let position := (r.position?.map OnLine.value).getD .origin
    let d ← refusedOn kind.line (d.add site.stage site.id position n)
    r.defaults.foldlM (loadDefault site) d

/-- A number that a node can have. -/
def loadNodeId (id : Nat) : Except Malformed NodeId :=
  if id ≤ NodeId.greatest.toNat then .ok (UInt32.ofNat id) else .error (.idOutOfRange id)

def loadEdge (d : Design ν) (edge : OnLine (Stage × EdgeNumbers)) : Except LoadError (Design ν) := do
  let (stage, numbers) := edge.value
  let source ← malformedOn edge.line (loadNodeId numbers.source)
  let target ← malformedOn edge.line (loadNodeId numbers.target)
  refusedOn edge.line (d.join stage ⟨source, numbers.output, target, numbers.input⟩)

def ofDocument [HasTerminal ν] (registry : Registry ν) (doc : Document) : Except LoadError (Design ν) := do
  let d : Design ν := (empty doc.mode).scroll doc.offset
  let d ← doc.options.foldlM (fun d o => refusedOn o.line (d.setOption o.value.1 o.value.2)) d
  let d ← doc.flags.foldlM (fun d f => refusedOn f.line (d.setFlag f.value true)) d
  let d ← doc.nodes.entries.foldlM (loadNode registry) d
  doc.edges.foldlM loadEdge d

def load [HasTerminal ν] (registry : Registry ν) (text : String) : Except LoadError (Design ν) := do
  ofDocument registry (← Document.read text)

end Design

end ShadeGraph
