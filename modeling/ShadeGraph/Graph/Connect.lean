import ShadeGraph.Graph.Error
import ShadeGraph.Graph.Order

/-!
# Drawing edges

A new edge must have both its ends, types that fit, an input that nothing feeds yet, and it must not close a
cycle. The checks are made in this order.
-/

namespace ShadeGraph.StageGraph

variable {ν : Type}

/-- Whether an edge between two nodes would close a cycle: the target already leads to the source. -/
def closesCycle (g : StageGraph ν) (source target : NodeId) : Bool :=
  source = target || anyLeadsTo g.edges [target] source

def disconnect (g : StageGraph ν) (e : Edge) : StageGraph ν :=
  { g with edges := g.edges.erase e }

variable [NodeModel ν]

def checkNode (g : StageGraph ν) (stage : Stage) (id : NodeId) : Except GraphError ν :=
  match g.node? id with
  | some n => .ok n
  | none => .error (.missingNode stage id)

def checkPort (n : ν) (id : NodeId) (direction : Direction) (port : Nat) : Except GraphError Port :=
  match NodeModel.port? n direction port with
  | some p => .ok p
  | none => .error (.missingPort id direction port)

/-- Both nodes exist, and both have the port. -/
def checkEnds (g : StageGraph ν) (stage : Stage) (e : Edge) : Except GraphError Unit := do
  let source ← g.checkNode stage e.source
  let target ← g.checkNode stage e.target
  let _ ← checkPort source e.source .output e.output
  let _ ← checkPort target e.target .input e.input

/-- The input accepts the type of the output. -/
def checkTypes (g : StageGraph ν) (e : Edge) : Except GraphError Unit :=
  match g.outputType? e.source e.output, g.inputPort? e.target e.input with
  | some type, some port =>
    if port.accepts type then .ok () else .error (.typeMismatch type port.type)
  | _, _ => .error (.missingEdge e)

/-- Whether an edge has both its ends, of types that fit. -/
def isSound (g : StageGraph ν) (e : Edge) : Bool :=
  match g.outputType? e.source e.output, g.inputPort? e.target e.input with
  | some type, some port => port.accepts type
  | _, _ => false

def checkEdge (g : StageGraph ν) (stage : Stage) (e : Edge) : Except GraphError Unit := do
  g.checkEnds stage e
  g.checkTypes e
  if (g.incoming? e.target e.input).isSome then throw (.alreadyConnected e.target e.input)
  if g.closesCycle e.source e.target then throw (.cycle e.source e.target)

def connect (g : StageGraph ν) (stage : Stage) (e : Edge) : Except GraphError (StageGraph ν) := do
  g.checkEdge stage e
  return { g with edges := g.edges ++ [e] }

def canConnect (g : StageGraph ν) (stage : Stage) (e : Edge) : Bool :=
  (g.checkEdge stage e).isOk

/-- Adds an edge that has both its ends, in place of any other into the same input. -/
def join (g : StageGraph ν) (stage : Stage) (e : Edge) : Except GraphError (StageGraph ν) := do
  g.checkEnds stage e
  return { g with edges := g.edges.filter (!·.feeds e.target e.input) ++ [e] }

/-- Drops the edges at a node that are no longer sound. -/
def pruneEdges (g : StageGraph ν) (id : NodeId) : StageGraph ν :=
  { g with edges := g.edges.filter fun e => !e.touches id || g.isSound e }

end ShadeGraph.StageGraph
