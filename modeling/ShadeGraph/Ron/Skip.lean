import ShadeGraph.Ron.Extension
import ShadeGraph.Ron.Number

/-!
# Skipping a value of RON

A field that is not known has a value of any form, nested no deeper than a limit. Every container takes one level, and
so does each of its elements and every `Some`.
-/

namespace ShadeGraph.Ron

open Reader

def depthLimit : Nat := 128

/-- Words that are values by themselves. -/
def valueWords : List String := ["true", "false", "None", "inf", "inff32", "inff64", "NaN", "NaNf32", "NaNf64"]

/-- Whether a word with a colon after it stands here. -/
def startsField : Reader Bool := ahead do
  blanks
  if (← word?).isSome then
    blanks
    return (← peek?) = some ':'
  else return false

/-- Whether an element follows the first comma outside of brackets; `depth` are open, and at most `count` characters
are left. -/
def findsSecond (depth count : Nat) : Reader Bool := do
  match count with
  | 0 => failure
  | count + 1 =>
    blanks
    discard (literal Literal.character) <|> pure ()
    skipLiteral Literal.string
    skipLiteral Literal.bytes
    match ← get with
    | [] => failure
    | c :: rest =>
      set rest
      if "([\x7b".toList.contains c then findsSecond (depth + 1) count
      else if ")]\x7d".toList.contains c then
        match depth with
        | 0 => return false
        | depth + 1 => findsSecond depth count
      else if c = ',' && depth = 0 then
        blanks
        return (← peek?) ≠ some ')'
      else findsSecond depth count

/-- Whether more than one element stands here, up to a closing parenthesis. -/
def startsSeveral : Reader Bool := ahead do
  blanks
  let _ ← word?
  findsSecond 0 ((← get).length + 1)

section

variable (level : Reader Unit) (element : Reader Unit)

def skipElements (close : Char) : Reader Unit := do
  level
  discard (separated close element)

def skipFields : Reader Unit := do
  level
  discard (separated ')' (pair name fun _ => element))

/-- A list, or what else brackets hold. -/
def skipBracketed (opening : String) (close : Char) (entry : Reader Unit) : Reader Unit := do
  eat opening
  skipElements level entry close
  eat close.toString

/-- Fields or elements in parentheses. -/
def skipGroup : Reader Unit := do
  eat "("
  if ← startsField then skipFields level element else skipElements level element ')'
  eat ")"

/-- A value that starts with a symbol, a quote or a digit. -/
def skipSymbol : Reader Unit := do
  match ← get with
  | '(' :: _ => skipGroup level element
  | '[' :: _ => skipBracketed level "[" ']' element
  | '\x7b' :: _ => skipBracketed level "\x7b" '\x7d' (pair element fun _ => element)
  | '"' :: _ | 'r' :: _ => discard string
  | '\'' :: _ => discard (literal Literal.character)
  | 'b' :: '\'' :: _ => discard (literal Literal.byte)
  | 'b' :: _ => discard (literal Literal.bytes)
  | c :: _ => if c.isDigit || c = '+' || c = '-' || c = '.' then number else failure
  | [] => failure

/-- One value; `inner` reads that of a `Some`. -/
def skipOne (extensions : List Extension) (inner : Bool → Reader Unit) : Reader Unit := do
  if (← keywordOf? valueWords).isSome then return
  if (afterKeyword? "Some" (← get)).isSome then discard (optional extensions inner)
  else if ← eat? "()" then return
  else if (← word?).isSome then
    blanks
    if (← peek?) = some '(' then skipGroup level element
  else skipSymbol level element

/-- What stands in the parentheses of a `Some` that may be those of its value: nothing, fields or several elements; else
one value. -/
def skipUnwrapped (extensions : List Extension) (inner : Bool → Reader Unit) : Reader Unit := do
  if (← peek?) = some ')' then return
  if ← startsField then skipFields level element
  else if ← startsSeveral then skipElements level element ')'
  else skipOne level element extensions inner

def skipEither (extensions : List Extension) (inner : Bool → Reader Unit) (unwrapped : Bool) : Reader Unit :=
  if unwrapped then skipUnwrapped level element extensions inner else skipOne level element extensions inner

end

/-- Skips one value that may be nested by a number of levels. -/
def skipValue (extensions : List Extension) : Nat → Bool → Reader Unit
  | 0 => skipEither failure failure extensions fun _ => failure
  | 1 => skipEither (pure ()) failure extensions (skipValue extensions 0)
  | levels + 2 =>
    skipEither (pure ()) (skipValue extensions levels false) extensions (skipValue extensions (levels + 1))

end ShadeGraph.Ron
