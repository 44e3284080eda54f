import ShadeGraph.Node.Model

/-! # Sites and edges -/

namespace ShadeGraph

/-- A node of a stage. -/
structure Site where
  stage : Stage
  id : NodeId
  deriving DecidableEq, Repr

/-- An edge leads from an output port of one node to an input port of another. -/
structure Edge where
  source : NodeId
  output : Nat
  target : NodeId
  input : Nat
  deriving DecidableEq, Repr

namespace Edge

def touches (e : Edge) (id : NodeId) : Bool := e.source = id || e.target = id

def feeds (e : Edge) (id : NodeId) (port : Nat) : Bool := e.target = id && e.input = port

def text (e : Edge) : String :=
  e.source.text ++ ":" ++ Nat.repr e.output ++ " -> " ++ e.target.text ++ ":" ++ Nat.repr e.input

end Edge

end ShadeGraph
