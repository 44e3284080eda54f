import ShadeGraph.Graph.Edge
import ShadeGraph.Graph.Reach

/-!
# The graph of one stage

Nodes by number, in the order in which they came, and edges in the order in which they were drawn. Node 0 is
the terminal.
-/

namespace ShadeGraph

/-- A node with its place in the editor and the defaults of its inputs that the user changed. -/
structure PlacedNode (ν : Type) where
  node : ν
  position : Position
  overrides : Table Nat PortValue := .empty

namespace PlacedNode

variable {ν : Type} [NodeModel ν]

/-- The value of an input port that nothing feeds: the user's, else the one of the kind. -/
def default? (n : PlacedNode ν) (port : Nat) : Option PortValue :=
  (n.overrides.get? port).or (NodeModel.inputDefault? n.node port)

/-- Drops the overrides whose port vanished or changed its type. -/
def prune (n : PlacedNode ν) : PlacedNode ν :=
  { n with overrides := n.overrides.filter fun port value =>
      NodeModel.portType? n.node .input port = some value.type }

end PlacedNode

structure StageGraph (ν : Type) where
  nodes : Table NodeId (PlacedNode ν)
  edges : List Edge := []
  /-- The greatest number that any node ever had. -/
  lastId : NodeId := .output

namespace StageGraph

variable {ν : Type}

/-- Where the terminal of a new graph stands: 400 to the right and 150 down. -/
def terminalPosition : Position := ⟨.ofBits 0x43C80000, .ofBits 0x43160000⟩

/-- The graph of a stage in which there is only the terminal. -/
def empty [NodeModel ν] [HasTerminal ν] (mode : Mode) (stage : Stage) : StageGraph ν where
  nodes := Table.empty.insert .output ⟨NodeModel.bind mode stage HasTerminal.terminal, terminalPosition, .empty⟩

def placed? (g : StageGraph ν) (id : NodeId) : Option (PlacedNode ν) := g.nodes.get? id

def node? (g : StageGraph ν) (id : NodeId) : Option ν := (g.placed? id).map PlacedNode.node

def contains (g : StageGraph ν) (id : NodeId) : Bool := g.nodes.contains id

def ids (g : StageGraph ν) : List NodeId := g.nodes.keys

/-- The edge that feeds an input port: of several the first. -/
def incoming? (g : StageGraph ν) (id : NodeId) (port : Nat) : Option Edge :=
  g.edges.find? (·.feeds id port)

/-- The edge that an input port reads: of several the last. -/
def reading? (g : StageGraph ν) (id : NodeId) (port : Nat) : Option Edge :=
  g.edges.reverse.find? (·.feeds id port)

/-- The least number from 2 on that no node has. Among one more number than there are nodes, one is free. -/
def lowestFree? (g : StageGraph ν) : Option NodeId :=
  (((List.range (g.nodes.size + 1)).map (· + NodeId.firstUser.toNat)).find? fun n =>
    n ≤ NodeId.greatest.toNat && !g.contains (UInt32.ofNat n)).map UInt32.ofNat

/-- The number for a new node: one more than any node ever had; when the greatest number has been used, the
lowest free one. -/
def nextId (g : StageGraph ν) : NodeId :=
  if g.lastId < NodeId.greatest then max NodeId.firstUser (g.lastId + 1)
  else g.lowestFree?.getD NodeId.greatest

def outputType? [NodeModel ν] (g : StageGraph ν) (id : NodeId) (port : Nat) : Option PortType :=
  (g.node? id).bind (NodeModel.portType? · .output port)

def inputPort? [NodeModel ν] (g : StageGraph ν) (id : NodeId) (port : Nat) : Option Port :=
  (g.node? id).bind (NodeModel.port? · .input port)

/-- Whether both ends of an edge exist. -/
def inRange [NodeModel ν] (g : StageGraph ν) (e : Edge) : Bool :=
  (g.outputType? e.source e.output).isSome && (g.inputPort? e.target e.input).isSome

def insert (g : StageGraph ν) (id : NodeId) (n : PlacedNode ν) : StageGraph ν :=
  { g with nodes := g.nodes.insert id n, lastId := max g.lastId id }

/-- Takes a node away with every edge at it. -/
def erase (g : StageGraph ν) (id : NodeId) : StageGraph ν :=
  { g with nodes := g.nodes.erase id, edges := g.edges.filter (!·.touches id) }

def modify (g : StageGraph ν) (id : NodeId) (f : PlacedNode ν → PlacedNode ν) : StageGraph ν :=
  { g with nodes := g.nodes.modify id f }

end StageGraph

end ShadeGraph
