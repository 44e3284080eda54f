/-!
# Reading RON

RON is the object notation of settings and manifests: `Name(field: value, ...)`, `[...]`, `Some(...)`, strings, numbers,
and comments between them. A reader takes what it reads off the front of a text.
-/

namespace ShadeGraph.Ron

abbrev Reader := StateT (List Char) Option

namespace Reader

def peek? : Reader (Option Char) := do return (← get).head?

/-- Takes a text off, if it stands here. -/
def eat? (text : String) : Reader Bool := do
  match text.toList.isPrefixOf? (← get) with
  | some rest =>
    set rest
    return true
  | none => return false

def eat (text : String) : Reader Unit := do
  if !(← eat? text) then failure

def takeWhile (p : Char → Bool) : Reader (List Char) :=
  modifyGet fun text => (text.takeWhile p, text.dropWhile p)

/-- Reads and leaves the text as it was. -/
def ahead {α : Type} (r : Reader α) : Reader α := do
  let text ← get
  let a ← r
  set text
  return a

/-! ## Blanks -/

def isBlank (c : Char) : Bool :=
  c = ' ' || ('\t' ≤ c && c ≤ '\r') || [0x85, 0x200E, 0x200F, 0x2028, 0x2029].contains c.toNat

/-- Where in a text one stands: between values, in a comment to the end of the line, or in one that is closed and has
others open around it. -/
inductive Region
  | plain
  | line
  | block (around : Nat)

/-- What follows blanks and comments. A comment that is not closed, and a slash that starts none, are errors. -/
def dropBlanks : Region → List Char → Option (List Char)
  | .plain, '/' :: '/' :: rest => dropBlanks .line rest
  | .plain, '/' :: '*' :: rest => dropBlanks (.block 0) rest
  | .plain, '/' :: _ => none
  | .plain, c :: rest => if isBlank c then dropBlanks .plain rest else some (c :: rest)
  | .line, '\n' :: rest => dropBlanks .plain rest
  | .line, _ :: rest => dropBlanks .line rest
  | .block 0, '*' :: '/' :: rest => dropBlanks .plain rest
  | .block (around + 1), '*' :: '/' :: rest => dropBlanks (.block around) rest
  | .block around, '/' :: '*' :: rest => dropBlanks (.block (around + 1)) rest
  | .block around, _ :: rest => dropBlanks (.block around) rest
  | .plain, [] | .line, [] => some []
  | .block _, [] => none

def blanks : Reader Unit := fun text => (dropBlanks .plain text).map fun rest => ((), rest)

/-! ## Lists -/

/-- Takes a comma and the blanks around it; says whether there was one. -/
def comma : Reader Bool := do
  blanks
  if ← eat? "," then
    blanks
    return true
  else return false

/-- Elements separated by commas, with at most `count` commas. -/
def separatedBy {α : Type} (close : Char) (element : Reader α) (count : Nat) : Reader (List α) := do
  blanks
  if (← peek?) = some close then return []
  let first ← element
  if ← comma then
    match count with
    | 0 => failure
    | count + 1 => return first :: (← separatedBy close element count)
  else if (← peek?) = some close then return [first]
  else failure

/-- Elements separated by commas up to a closing character, which is left; a comma may stand before it. -/
def separated {α : Type} (close : Char) (element : Reader α) : Reader (List α) := do
  separatedBy close element (← get).length

/-- A pair with a colon between its parts. -/
def pair {α β : Type} (key : Reader α) (value : α → Reader β) : Reader β := do
  let k ← key
  blanks
  eat ":"
  blanks
  value k

end Reader

end ShadeGraph.Ron
