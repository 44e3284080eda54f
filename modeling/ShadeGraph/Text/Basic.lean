import ShadeGraph.Text.Blank

/-!
# Cutting and joining text

Readers work on lists of characters, writers on strings.
-/

namespace ShadeGraph.Text

/-- The pieces of a text between its separators; there is always at least one. -/
def split (isSeparator : Char → Bool) : List Char → List (List Char)
  | [] => [[]]
  | c :: rest =>
    if isSeparator c then [] :: split isSeparator rest
    else match split isSeparator rest with
      | [] => [[c]]
      | piece :: pieces => (c :: piece) :: pieces

def splitOn (separator : Char) (text : List Char) : List (List Char) :=
  split (· == separator) text

/-- The text before and after the first separator. -/
def cutAt (separator : Char) : List Char → Option (List Char × List Char)
  | [] => none
  | c :: rest =>
    if c = separator then some ([], rest)
    else (cutAt separator rest).map fun (before, after) => (c :: before, after)

/-- The non-empty pieces between blanks. -/
def words (text : List Char) : List (List Char) :=
  (split isBlank text).filter (!·.isEmpty)

def trimStart (text : List Char) : List Char :=
  text.dropWhile isBlank

def trimEnd (text : List Char) : List Char :=
  (text.reverse.dropWhile isBlank).reverse

def trim (text : List Char) : List Char :=
  trimEnd (trimStart text)

/-- Drops the carriage return that stands before a line feed. -/
def dropReturn (line : List Char) : List Char :=
  if line.getLast? = some '\r' then line.dropLast else line

/-- Lines from the pieces between line feeds: the last piece was not ended by one. -/
def endLines : List (List Char) → List (List Char)
  | [] => []
  | [last] => if last.isEmpty then [] else [last]
  | line :: rest => dropReturn line :: endLines rest

/-- The lines of a text. A line feed ends a line, so none follows the last one. -/
def lines (text : List Char) : List (List Char) :=
  endLines (splitOn '\n' text)

def concat (parts : List String) : String :=
  parts.foldr (· ++ ·) ""

def joinWith (separator : String) : List String → String
  | [] => ""
  | [last] => last
  | part :: rest => part ++ separator ++ joinWith separator rest

/-- Fills a text with spaces on the right, to the given number of characters. -/
def padRight (width : Nat) (text : String) : String :=
  text ++ String.ofList (List.replicate (width - text.length) ' ')

/-- The comma separated items of a text, blanks around them dropped and empty ones skipped. -/
def items (text : List Char) : List (List Char) :=
  ((splitOn ',' text).map trim).filter (!·.isEmpty)

end ShadeGraph.Text
