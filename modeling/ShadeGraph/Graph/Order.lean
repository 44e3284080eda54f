import ShadeGraph.Graph.StageGraph

/-!
# Order of emission

The closure of a node is what it reads from, directly or not. It is put in an order in which every node
follows those it reads from, and the least number comes first wherever there is a choice.
-/

namespace ShadeGraph

inductive OrderError
  /-- A cycle runs through the node. -/
  | cycle (id : NodeId)
  /-- An edge without one of its ends. -/
  | dangling (edge : Edge)
  deriving DecidableEq, Repr

def OrderError.message : OrderError → String
  | .cycle id => "graph contains a cycle through node " ++ id.text
  | .dangling edge => "connection " ++ edge.text ++ " references a missing node or port"

def least? : List NodeId → Option NodeId
  | [] => none
  | id :: rest => some (rest.foldl min id)

namespace StageGraph

variable {ν : Type}

/-- The targets of the edges from a node. -/
def readers (edges : List Edge) (id : NodeId) : List NodeId :=
  (edges.filter (·.source = id)).map Edge.target

/-- The sources of the edges into a node. -/
def sources (edges : List Edge) (id : NodeId) : List NodeId :=
  (edges.filter (·.target = id)).map Edge.source

/-- Depth-first search for a goal along edges. What is on top of the stack comes next, and a node that was visited
is not followed again. -/
def search (edges : List Edge) (goal : NodeId) : Nat → List NodeId → List NodeId → Bool
  | 0, _, _ => false
  | _ + 1, _, [] => false
  | steps + 1, visited, id :: stack =>
    if id = goal then true
    else if visited.contains id then search edges goal steps visited stack
    else search edges goal steps (id :: visited) ((readers edges id).reverse ++ stack)

/-- Whether one of some nodes is a goal or leads to it. Every edge is followed at most once, so the steps suffice. -/
def anyLeadsTo (edges : List Edge) (starts : List NodeId) (goal : NodeId) : Bool :=
  search edges goal (starts.length + edges.length) [] starts.reverse

/-- A node and what it reads from, in the order found; edges without an end are not followed. -/
def ancestry [NodeModel ν] (g : StageGraph ν) (root : NodeId) : List NodeId :=
  let edges := g.edges.filter g.inRange
  if g.contains root then Reach.grow (sources edges) edges.length [root] else []

/-- The closure of a node; the first edge into it without an end is an error. -/
def closure [NodeModel ν] (g : StageGraph ν) (root : NodeId) : Except OrderError (List NodeId) :=
  let found := g.ancestry root
  match (found.flatMap fun id => g.edges.filter (·.target = id)).find? (!g.inRange ·) with
  | some edge => .error (.dangling edge)
  | none => .ok found

def within (edges : List Edge) (among : List NodeId) : List Edge :=
  edges.filter fun e => among.contains e.source && among.contains e.target

/-- Nodes that are being put in order. A node waits for the edges into it from nodes that are not placed, and is
ready when it has none to wait for. -/
structure Countdown where
  /-- How many edges a node waits for. -/
  waiting : Table NodeId Nat
  ready : List NodeId
  placed : List NodeId := []

namespace Countdown

/-- Nothing is placed, so a node waits for every edge into it. -/
def start (edges : List Edge) (nodes : List NodeId) : Countdown where
  waiting := .ofList (nodes.map fun id => (id, (sources edges id).length))
  ready := nodes.filter fun id => (sources edges id).length = 0

/-- Counts off one edge into a node. The last one makes the node ready. -/
def countOff (c : Countdown) (id : NodeId) : Countdown :=
  match c.waiting.get? id with
  | none => c
  | some count =>
    { c with
      waiting := c.waiting.insert id (count - 1)
      ready := if count - 1 = 0 then c.ready ++ [id] else c.ready }

def append (c : Countdown) (id : NodeId) : Countdown :=
  { c with ready := c.ready.erase id, placed := c.placed ++ [id] }

/-- Places a node and counts off every edge from it. -/
def place (edges : List Edge) (c : Countdown) (id : NodeId) : Countdown :=
  (readers edges id).foldl countOff (c.append id)

/-- Places nodes one after the other, always the least that is ready. -/
def run (edges : List Edge) : Nat → Countdown → Countdown
  | 0, c => c
  | steps + 1, c =>
    match least? c.ready with
    | none => c
    | some id => run edges steps (c.place edges id)

end Countdown

/-- Whether a node leads to itself. Only the edges from given nodes are followed. -/
def isOnCycle (edges : List Edge) (among : List NodeId) (id : NodeId) : Bool :=
  let followed := edges.filter (among.contains ·.source)
  anyLeadsTo followed (readers followed id) id

/-- The least of some nodes that lies on a cycle among them. -/
def lowestOnCycle? (edges : List Edge) (among : List NodeId) : Option NodeId :=
  least? (among.filter (isOnCycle edges among))

/-- The closure of a node in the order of emission. What cannot be placed lies on a cycle or follows one. -/
def order [NodeModel ν] (g : StageGraph ν) (root : NodeId) : Except OrderError (List NodeId) := do
  let closure ← g.closure root
  let edges := within g.edges closure
  let placed := (Countdown.run edges closure.length (.start edges closure)).placed
  if placed.length < closure.length then
    throw (.cycle ((lowestOnCycle? g.edges (closure.filter (!placed.contains ·))).getD root))
  return placed

end StageGraph

end ShadeGraph
