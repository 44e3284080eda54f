/-! # Whole numbers in text -/

namespace ShadeGraph

-- Powers of naturals are those of the core library, whatever else is imported.
attribute [scoped instance (1100)] instPowNat

namespace Text

/-- The positional value of a run of decimal digits. -/
def digitsValue (digits : List Char) : Nat :=
  digits.foldl (fun value digit => 10 * value + (digit.toNat - '0'.toNat)) 0

/-- Accepts decimal digits only, and at least one. -/
def natural? (text : List Char) : Option Nat :=
  if text.isEmpty || !text.all Char.isDigit then none else some (digitsValue text)

/-- A natural number below `bound`; a plus sign may stand before it. -/
def below? (bound : Nat) (text : List Char) : Option Nat :=
  let digits := match text with
    | '+' :: rest => rest
    | _ => text
  (natural? digits).filter (· < bound)

/-- The bound of port, option and variant indices. -/
def indexBound : Nat := 2 ^ (64 : Nat)

def index? (text : List Char) : Option Nat :=
  below? indexBound text

/-- A signed whole number of 64 bits. -/
def integer? (text : List Char) : Option Int :=
  match text with
  | '-' :: digits => ((natural? digits).filter (· ≤ 2 ^ (63 : Nat))).map fun n => -(n : Int)
  | _ => (below? (2 ^ (63 : Nat)) text).map fun n => (n : Int)

/-- Exactly `width` decimal digits: the last ones of `n`, zeros before them. -/
def lastDigits : Nat → Nat → List Char
  | 0, _ => []
  | width + 1, n => lastDigits width (n / 10) ++ [Nat.digitChar (n % 10)]

end Text

end ShadeGraph
