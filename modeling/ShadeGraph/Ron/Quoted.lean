import ShadeGraph.Ron.Reader

/-! # Strings, characters and bytes of RON -/

namespace ShadeGraph.Ron

def hexDigit? (c : Char) : Option Nat :=
  if c.isDigit then some (c.toNat - '0'.toNat)
  else if 'a' ≤ c && c ≤ 'f' then some (c.toNat - 'a'.toNat + 10)
  else if 'A' ≤ c && c ≤ 'F' then some (c.toNat - 'A'.toNat + 10)
  else none

/-- Why a literal cannot be read: there is none, or the text ends within it. -/
inductive Fault
  | malformed
  | unended
  deriving DecidableEq, Repr

/-- What an escape stands for: a character by its letter or by its number, or a byte of one. -/
inductive Escape
  | char (c : Char)
  | numbered (c : Char)
  | byte (b : UInt8)
  deriving DecidableEq, Repr

def Escape.bytes : Escape → List UInt8
  | .char c | .numbered c => String.utf8EncodeChar c
  | .byte b => [b]

/-- A reader that tells why it fails. -/
abbrev Literal := StateT (List Char) (Except Fault)

namespace Literal

def next : Literal Char := do
  match ← get with
  | [] => throw .unended
  | c :: rest =>
    set rest
    return c

def expect (c : Char) : Literal Unit := do
  match ← get with
  | [] => throw .malformed
  | c' :: rest => if c' = c then set rest else throw .malformed

/-! ## Escapes -/

def hexDigit : Literal Nat := do
  match hexDigit? (← next) with
  | some digit => return digit
  | none => throw .malformed

/-- A byte by its two digits. -/
def byteNumber : Literal UInt8 := do
  let high ← hexDigit
  let low ← hexDigit
  return UInt8.ofNat (16 * high + low)

/-- Digits up to a closing brace, at most `count` of them, after those of `value`. -/
def digitsToBrace (value : Nat) (count : Nat) : Literal Nat := do
  match ← get, count with
  | _, 0 | '\x7d' :: _, _ => return value
  | _, count + 1 => digitsToBrace (16 * value + (← hexDigit)) count

/-- A character by the one to six digits of its number, in braces. -/
def numbered : Literal Char := do
  expect '\x7b'
  if (← get).head? = some '\x7d' then throw .malformed
  let n ← digitsToBrace 0 6
  expect '\x7d'
  if n.isValidChar then return Char.ofNat n else throw .malformed

def shortEscapes : List (Char × Char) :=
  [('\'', '\''), ('"', '"'), ('\\', '\\'), ('n', '\n'), ('r', '\r'), ('t', '\t'), ('0', '\x00')]

/-- What follows a backslash. -/
def escape : Literal Escape := do
  match ← next with
  | 'x' => return .byte (← byteNumber)
  | 'u' => return .numbered (← numbered)
  | c => match shortEscapes.lookup c with
    | some c => return .char c
    | none => throw .malformed

/-- One character, written as itself or as an escape. -/
def one : Literal Escape := do
  match ← next with
  | '\\' => escape
  | c => return .char c

def decode? (bytes : List UInt8) : Option Char :=
  (String.fromUTF8? ⟨bytes.toArray⟩).bind (·.toList.head?)

/-- The character of some bytes, with at most `more` that still follow as escapes. -/
def complete (bytes : List UInt8) (more : Nat) : Literal Char := do
  match decode? bytes, more with
  | some c, _ => return c
  | none, 0 => throw .malformed
  | none, more + 1 =>
    expect '\\'
    expect 'x'
    complete (bytes ++ [← byteNumber]) more

/-- A character of a string; up to four byte escapes make up one. -/
def stringChar : Literal Char := do
  match ← one with
  | .char c | .numbered c => return c
  | .byte b => complete [b] 3

/-! ## Strings -/

/-- What stands before a closing quote, at most `count` elements. An escape is looked at only if a quote follows. -/
def toQuote {α : Type} (element : Literal α) (count : Nat) : Literal (List α) := do
  match ← get, count with
  | '"' :: rest, _ =>
    set rest
    return []
  | _, 0 => throw .unended
  | text, count + 1 =>
    if text.head? = some '\\' && !text.contains '"' then throw .unended
    let first ← element
    return first :: (← toQuote element count)

/-- The rest of a string with escapes; every element takes at least one character. -/
def escaped {α : Type} (element : Literal α) : Literal (List α) := do
  toQuote element (← get).length

/-- The text up to the closing marks. -/
def toMarks (closing : List Char) : List Char → Option (List Char × List Char)
  | [] => none
  | c :: rest =>
    match closing.isPrefixOf? (c :: rest) with
    | some after => some ([], after)
    | none => (toMarks closing rest).map fun (cs, after) => (c :: cs, after)

/-- The rest of a string without escapes, which has as many marks before its quotes as after them. -/
def raw : Literal (List Char) := do
  let marks := (← get).takeWhile (· = '#')
  modify (·.drop marks.length)
  expect '"'
  match toMarks ('"' :: marks) (← get) with
  | some (text, rest) =>
    set rest
    return text
  | none => throw .unended

def string : Literal String := do
  match ← get with
  | '"' :: rest =>
    set rest
    return String.ofList (← escaped stringChar)
  | 'r' :: rest =>
    set rest
    return String.ofList (← raw)
  | _ => throw .malformed

/-- A string of bytes. -/
def bytes : Literal (List UInt8) := do
  match ← get with
  | 'b' :: '"' :: rest =>
    set rest
    return (← escaped one).flatMap Escape.bytes
  | 'b' :: 'r' :: rest =>
    set rest
    return (← raw).flatMap String.utf8EncodeChar
  | _ => throw .malformed

/-! ## Single characters -/

def quotedOne : Literal Escape := do
  expect '\''
  let c ← one
  expect '\''
  return c

def asciiLimit : Nat := 0x80

def character : Literal Char := do
  match ← quotedOne with
  | .char c | .numbered c => return c
  | .byte b => if b.toNat < asciiLimit then return Char.ofNat b.toNat else throw .malformed

/-- A byte, as the character of ASCII that it is or as an escape of its own. -/
def byte : Literal UInt8 := do
  expect 'b'
  match ← quotedOne with
  | .char c => if c.toNat < asciiLimit then return UInt8.ofNat c.toNat else throw .malformed
  | .numbered _ => throw .malformed
  | .byte b => return b

end Literal

def literal {α : Type} (l : Literal α) : Reader α := fun text => (l text).toOption

/-- Takes a literal off, if one stands here; one that does not end is an error. -/
def skipLiteral {α : Type} (l : Literal α) : Reader Unit := fun text =>
  match l text with
  | .ok (_, rest) => some ((), rest)
  | .error .malformed => some ((), text)
  | .error .unended => none

def string : Reader String := literal Literal.string

end ShadeGraph.Ron
