import ShadeGraph.Text.Basic

/-! # Statements of a node's body -/

namespace ShadeGraph

/-- A statement, at some depth of nested scopes. -/
inductive Statement
  /-- `target = value;` -/
  | assign (depth : Nat) (target value : String)
  /-- `type name = value;` -/
  | define (depth : Nat) (type name value : String)
  /-- A line that opens, closes or fills a scope. -/
  | line (depth : Nat) (text : String)
  /-- Text pasted as it stands. -/
  | pasted (text : String)
  deriving DecidableEq, Repr

namespace Statement

def indent (depth : Nat) : String :=
  String.ofList (List.replicate depth '\t')

def render : Statement → String
  | .assign depth target value => indent depth ++ target ++ " = " ++ value ++ ";\n"
  | .define depth type name value => indent depth ++ type ++ " " ++ name ++ " = " ++ value ++ ";\n"
  | .line depth text => indent depth ++ text ++ "\n"
  | .pasted text => text

def renderAll (body : List Statement) : String :=
  Text.concat (body.map render)

def opening : Statement := .line 0 "\x7b"

def closing : Statement := .line 0 "\x7d"

/-- A scope around statements that already stand one step deeper. -/
def scope (body : List Statement) : List Statement :=
  opening :: body ++ [closing]

end Statement

end ShadeGraph
