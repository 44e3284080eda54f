import ShadeGraph.Number.Rounding
import ShadeGraph.Text.Numeral

/-!
# Reading decimal numbers

A number is read from digits with at most one point and an optional power of ten, and rounded once.
-/

namespace ShadeGraph

/-- Decimal digits around a point, times a power of ten. -/
structure Numeral where
  whole : List Char
  decimals : List Char
  power : Int

namespace Numeral

/-- The digits after an exponent mark, with an optional sign. -/
def power? : List Char → Option Int
  | '-' :: digits => (Text.natural? digits).map fun n => -(n : Int)
  | '+' :: digits => (Text.natural? digits).map fun n => (n : Int)
  | digits => (Text.natural? digits).map fun n => (n : Int)

/-- The exponent that ends a numeral; none means the power zero. -/
def ending? : List Char → Option Int
  | [] => some 0
  | mark :: rest => if mark = 'e' || mark = 'E' then power? rest else none

/-- Digits, an optional point with digits, an optional exponent; at least one digit. -/
def ofText? (text : List Char) : Option Numeral :=
  let whole := text.takeWhile Char.isDigit
  let rest := text.dropWhile Char.isDigit
  let (decimals, rest) := match rest with
    | '.' :: after => (after.takeWhile Char.isDigit, after.dropWhile Char.isDigit)
    | _ => ([], rest)
  if whole.isEmpty && decimals.isEmpty then none
  else (ending? rest).map fun power => ⟨whole, decimals, power⟩

/-- The number nearest to a numeral. A power far beyond the digits given settles the result without
being computed. -/
def nearest (negative : Bool) (n : Numeral) : Single :=
  let digits := n.whole ++ n.decimals
  let value := Text.digitsValue digits
  let far : Int := 100 + digits.length
  if value = 0 || n.power < -far then Single.ofMagnitude negative 0
  else if far < n.power then Single.infinity negative
  else Single.nearest negative (value * 10 ^ n.power.toNat) (10 ^ (n.decimals.length + (-n.power).toNat))

end Numeral

namespace Single

/-- Infinite and undefined numbers are written as words, in letters of either case. -/
def word? (negative : Bool) (text : List Char) : Option Single :=
  let word := String.ofList (text.map Char.toLower)
  if word = "nan" then some { nan with negative := negative }
  else if word = "inf" || word = "infinity" then some (infinity negative)
  else none

def unsigned? (negative : Bool) (text : List Char) : Option Single :=
  match Numeral.ofText? text with
  | some n => some (n.nearest negative)
  | none => word? negative text

def ofText? (text : List Char) : Option Single :=
  match text with
  | '-' :: rest => unsigned? true rest
  | '+' :: rest => unsigned? false rest
  | _ => unsigned? false text

end Single

end ShadeGraph
