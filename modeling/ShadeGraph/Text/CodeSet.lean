/-! # Sets of characters -/

namespace ShadeGraph.Text

/-- A set of characters, as the ascending numbers at which it begins and stops, in turn. -/
structure CodeSet where
  turns : List Nat

/-- A character is in the set after an odd number of turns. -/
def CodeSet.contains (s : CodeSet) (c : Char) : Bool :=
  (s.turns.takeWhile (· ≤ c.toNat)).length % 2 = 1

end ShadeGraph.Text
