import ShadeGraph.Text.Basic

/-!
# Paths as text

A path is names separated by slashes. Slashes at its end, and single dots after a slash there, do not count.
-/

namespace ShadeGraph.Path

/-- Drops, from a reversed path, slashes and dots that do not count. -/
def dropTail : List Char → List Char
  | '/' :: c :: rest => dropTail (c :: rest)
  | '.' :: '/' :: rest => dropTail ('/' :: rest)
  | path => path

/-- The path up to its last name. -/
def trimmed (path : String) : List Char :=
  (dropTail path.toList.reverse).reverse

/-- What stands before the last name, with its slash, and the last name. -/
def split (path : String) : List Char × List Char :=
  let reversed := (trimmed path).reverse
  ((reversed.dropWhile (· ≠ '/')).reverse, (reversed.takeWhile (· ≠ '/')).reverse)

/-- The last name; dots are none. -/
def fileName? (path : String) : Option (List Char) :=
  let name := (split path).2
  if name.isEmpty || name = ['.'] || name = ['.', '.'] then none else some name

/-- A name without its last dot and what follows, unless nothing stands before the dot. -/
def stemOf (name : List Char) : List Char :=
  match (name.reverse.dropWhile (· ≠ '.')).reverse with
  | [] | ['.'] => name
  | withDot => withDot.dropLast

def fileStem? (path : String) : Option String :=
  (fileName? path).map fun name => String.ofList (stemOf name)

/-- The path to where the last name is; it is empty for a name alone. -/
def parent? (path : String) : Option String :=
  let t := trimmed path
  if t.isEmpty || t = ['/'] then none
  else some (String.ofList (trimmed (String.ofList (split path).1)))

def startsAtRoot (path : String) : Bool := path.toList.head? = some '/'

/-- A path below another; one that starts with a slash stands for itself. -/
def join (base path : String) : String :=
  if startsAtRoot path || base.isEmpty then path
  else if base.toList.getLast? = some '/' then base ++ path
  else base ++ "/" ++ path

/-- Replaces what follows the last dot of the last name. A name that is two dots up to there becomes just these, unless
slashes follow it. -/
def withExtension (path extension : String) : String :=
  match fileName? path with
  | none => path
  | some name =>
    let before := (split path).1
    if stemOf name = ['.'] && trimmed path = path.toList then String.ofList (before ++ ['.', '.'])
    else String.ofList (before ++ stemOf name) ++ "." ++ extension

/-- The names of a path, empty ones and single dots left out. -/
def names (path : String) : List String :=
  ((Text.splitOn '/' path.toList).map String.ofList).filter fun name => !name.isEmpty && name ≠ "."

/-- Whether only a directory can be meant: the path ends in a slash or a dot. -/
def meansDirectory (path : String) : Bool :=
  match (Text.splitOn '/' path.toList).getLast? with
  | some name => name.isEmpty || name = ['.'] || name = ['.', '.']
  | none => true

/-! ## Limits, in bytes -/

def nameLimit : Nat := 255

def lengthLimit : Nat := 4095

/-- Whether a path can be used at all: it is not too long and holds no null character. -/
def isUsable (path : String) : Bool :=
  path.utf8ByteSize ≤ lengthLimit && !path.toList.contains '\x00'

end ShadeGraph.Path
