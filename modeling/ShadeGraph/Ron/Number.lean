import ShadeGraph.Number.Reading
import ShadeGraph.Ron.Quoted
import ShadeGraph.Ron.Word

/-! # Numbers of RON -/

namespace ShadeGraph.Ron

open Reader

/-! ## Whole numbers -/

structure Bounds where
  least : Int
  greatest : Int
  deriving DecidableEq, Repr

namespace Bounds

def signed (bits : Nat) : Bounds := ⟨-(2 ^ (bits - 1)), 2 ^ (bits - 1) - 1⟩

def unsigned (bits : Nat) : Bounds := ⟨0, 2 ^ bits - 1⟩

def contains (b : Bounds) (n : Int) : Bool := b.least ≤ n && n ≤ b.greatest

end Bounds

/-- The types that may be written after a whole number. -/
def wholeTypes : List (String × Bounds) :=
  [("i8", .signed 8), ("i16", .signed 16), ("i32", .signed 32), ("i64", .signed 64),
   ("u8", .unsigned 8), ("u16", .unsigned 16), ("u32", .unsigned 32), ("u64", .unsigned 64)]

/-- A whole number without a type has 64 bits, one of them for the sign if it is negative. -/
def untyped : Bounds := ⟨-(2 ^ (63 : Nat)), 2 ^ (64 : Nat) - 1⟩

def isWholeChar (c : Char) : Bool := c = '_' || (hexDigit? c).isSome

/-- Says whether there is a minus sign; either sign is taken. -/
def sign : Reader Bool := do
  if ← eat? "-" then return true
  let _ ← eat? "+"
  return false

def base : Reader Nat := do
  if ← eat? "0b" then return 2
  if ← eat? "0o" then return 8
  if ← eat? "0x" then return 16
  return 10

def digitsIn (base : Nat) (digits : List Nat) : Nat := digits.foldl (fun n digit => base * n + digit) 0

/-- The value of digits; underscores between and after them do not count. -/
def digitsValue? (base : Nat) (run : List Char) : Option Nat := do
  if run.head?.all (· = '_') then none
  else
    let digits ← (run.filter (· ≠ '_')).mapM hexDigit?
    if digits.all (· < base) then return digitsIn base digits else none

def magnitude : Reader Nat := do
  let base ← base
  digitsValue? base (← takeWhile isWholeChar)

def signedMagnitude (negative : Bool) (bounds : Bounds) : Reader Int := do
  let n ← magnitude
  let value : Int := if negative then -n else n
  if bounds.contains value then return value else failure

/-- The type after the digits at the start of a text. -/
def typeAfterDigits? (text : List Char) : Option (String × Bounds) :=
  wholeTypes.find? fun (type, _) => (afterKeyword? type (text.dropWhile isWholeChar)).isSome

/-- A whole number, and its type if one is written; `bounds` are those of a number without a type. -/
def whole (bounds : Bounds) : Reader (Int × Option String) := do
  let negative ← sign
  match typeAfterDigits? (← get) with
  | some (type, bounds) =>
    let value ← signedMagnitude negative bounds
    eat type
    return (value, some type)
  | none => return (← signedMagnitude negative bounds, none)

/-- A natural number of 32 bits; no other type may be written after it. -/
def natural32 : Reader Nat := do
  let (value, type?) ← whole (.unsigned 32)
  if type?.all (· = "u32") then return value.toNat else failure

/-! ## Numbers with a fraction -/

def isFractionChar (c : Char) : Bool :=
  c.isDigit || c = 'e' || c = 'E' || c = '.' || c = '+' || c = '-' || c = '_'

def fractionTypes : List String := ["f32", "f64"]

/-- The words for numbers that are not finite, with and without a type. -/
def nonFinite : List String :=
  ["inf", "+inf", "-inf", "NaN", "+NaN", "-NaN"].flatMap fun word => word :: fractionTypes.map (word ++ ·)

/-- Whether every underscore stands after a digit or an exponent mark rather than a point; `after` says it of the
next one. -/
def underscoresFollow : Bool → List Char → Bool
  | _, [] => true
  | after, '_' :: rest => after && underscoresFollow after rest
  | _, '.' :: rest => underscoresFollow false rest
  | after, c :: rest => underscoresFollow (after || c ≠ '+' && c ≠ '-') rest

/-- A number that may have a point and an exponent. -/
def fraction : Reader Unit := do
  if (← keywordOf? nonFinite).isSome then return
  let run ← takeWhile isFractionChar
  if !underscoresFollow false run || (Single.ofText? (run.filter (· ≠ '_'))).isNone then failure
  let _ ← keywordOf? fractionTypes

/-- Whether there is more of a number here than digits. -/
def startsFraction (text : List Char) : Bool :=
  let unsigned := match text with
    | '+' :: rest | '-' :: rest => rest
    | _ => text
  (unsigned.takeWhile isWholeChar).length < (unsigned.takeWhile isFractionChar).length

/-- Any number; a whole one that is too great for its bounds is read as one with a fraction. -/
def number : Reader Unit := do
  if startsFraction (← get) then fraction
  else (discard (whole untyped)) <|> fraction

end ShadeGraph.Ron
