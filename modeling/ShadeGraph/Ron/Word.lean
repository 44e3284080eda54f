import ShadeGraph.Ron.Reader
import ShadeGraph.Text.Word

/-! # Words of RON -/

namespace ShadeGraph.Ron

open Reader

/-- Words do not start as strings and bytes do. -/
def literalStarts : List String := ["b\"", "b'", "br#\"", "br##", "br\"", "r#\"", "r##", "r\""]

def startsLiteral (text : List Char) : Bool := literalStarts.any fun start => start.toList.isPrefixOf text

/-- What may stand in a word after `r#`. -/
def isRawChar (c : Char) : Bool := c = '.' || c = '+' || c = '-' || Text.isWordChar c

/-- The word at the start of a text, and what follows. -/
def firstWord? : List Char → Option (List Char × List Char)
  | 'r' :: '#' :: text =>
    let name := text.takeWhile isRawChar
    if name.isEmpty then none else some (name, text.dropWhile isRawChar)
  | c :: text =>
    if Text.isWordStart c then some (c :: text.takeWhile Text.isWordChar, text.dropWhile Text.isWordChar) else none
  | [] => none

/-- Takes a word off, if there is one. -/
def word? : Reader (Option String) := do
  let text ← get
  if startsLiteral text then return none
  match firstWord? text with
  | some (name, rest) =>
    set rest
    return some (String.ofList name)
  | none => return none

/-- A name. Dots and signs belong to it only after `r#`, and follow none. -/
def name : Reader String := do
  match ← word? with
  | some name => if (← peek?).any isRawChar then failure else return name
  | none => failure

/-- What follows a given word. -/
def afterKeyword? (word : String) (text : List Char) : Option (List Char) :=
  (word.toList.isPrefixOf? text).filter fun rest => !rest.head?.any Text.isWordChar

/-- Takes off the first of some words that stands here. -/
def keywordOf? (words : List String) : Reader (Option String) := do
  let text ← get
  match words.find? fun word => (afterKeyword? word text).isSome with
  | some word =>
    eat word
    return some word
  | none => return none

def boolean : Reader Bool := do
  match ← keywordOf? ["true", "false"] with
  | some word => return word = "true"
  | none => failure

end ShadeGraph.Ron
