import ShadeGraph.Number.Rounding
import ShadeGraph.Text.Numeral

/-!
# Decimal text of numbers

`Single.text` writes the fewest digits that read back as the number, never with an exponent.
`Single.fixed` writes a given number of decimals.
-/

namespace ShadeGraph.Single

/-- The multiples of `10 ^ (38 - place)` next to a magnitude, the nearer one first; of two as near, the
greater. -/
def gridNeighbours (units place : Nat) : List Nat :=
  let num := units * 10 ^ place
  let den := 2 ^ (149 : Nat) * 10 ^ (38 : Nat)
  let below := num / den
  if 2 * (num % den) < den then [below, below + 1] else [below + 1, below]

/-- The first of the neighbours on a grid that reads back as `x`. -/
def gridHit (x : Single) (place : Nat) : Option Nat :=
  (gridNeighbours x.units place).find? fun n =>
    n ≠ 0 && nearestMagnitude (n * 10 ^ (38 : Nat)) (10 ^ place) = x.magnitude

/-- A count and a place for a finite non-zero number, on the coarsest grid that holds a decimal which reads
back. On the grid of place 187 every number is exact. -/
def shortest (x : Single) : Nat × Nat :=
  ((List.range 188).findSome? fun place => (gridHit x place).map fun n => (n, place)).getD
    (x.units * 5 ^ (149 : Nat), 187)

/-- The decimal `count * 10 ^ (38 - place)`, written out. -/
def positional (count place : Nat) : List Char :=
  if place ≤ 38 then Nat.toDigits 10 (count * 10 ^ (38 - place))
  else
    let decimals := place - 38
    Nat.toDigits 10 (count / 10 ^ decimals) ++ '.' :: Text.lastDigits decimals count

def signed (x : Single) (magnitude : List Char) : String :=
  String.ofList (if x.negative then '-' :: magnitude else magnitude)

/-- The shortest decimal text that reads back; whole numbers have no point. -/
def text (x : Single) : String :=
  if x.isNaN then "NaN"
  else if !x.isFinite then x.signed ['i', 'n', 'f']
  else if x.isZero then x.signed ['0']
  else
    let (count, place) := x.shortest
    x.signed (positional count place)

/-- A finite number with `decimals` decimals: its exact value, rounded half to even. -/
def fixed (x : Single) (decimals : Nat) : String :=
  let count := roundHalfEven (x.units * 10 ^ decimals) (2 ^ (149 : Nat))
  x.signed (Nat.toDigits 10 (count / 10 ^ decimals) ++ '.' :: Text.lastDigits decimals count)

end ShadeGraph.Single
