/-!
# Search

Breadth-first search by rounds, for any successor function.
-/

namespace ShadeGraph.Reach

variable {α : Type} [DecidableEq α]

/-- What lies one step beyond the members of a list and is not among them, each once. -/
def fresh (next : α → List α) (found : List α) : List α :=
  ((found.flatMap next).filter (· ∉ found)).eraseDups

/-- What is found within a number of rounds, in the order found. -/
def grow (next : α → List α) : Nat → List α → List α
  | 0, found => found
  | rounds + 1, found =>
    match fresh next found with
    | [] => found
    | new => grow next rounds (found ++ new)

end ShadeGraph.Reach
