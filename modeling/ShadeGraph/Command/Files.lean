import ShadeGraph.Command.Path
import ShadeGraph.Table

/-!
# Files

What the commands need of a file system, and a small one that is plain data.
-/

namespace ShadeGraph

inductive ReadFailure
  | missing
  | unreadable
  deriving DecidableEq, Repr

structure FileAccess (m : Type → Type) where
  read : String → m (Except ReadFailure String)
  /-- Makes a directory and those above it; says whether it is there now. -/
  createDirs : String → m Bool
  /-- Writes a whole file; says whether it could. -/
  write : String → String → m Bool

inductive Item
  | directory
  | file (content : String)
  /-- Reads as nothing and takes all that is written. -/
  | sink
  /-- Gives and takes nothing. -/
  | sealed
  deriving DecidableEq, Repr

/-- A file system as plain data. A place is known by the names that lead to it from the root. -/
structure FileTree where
  /-- Where paths begin that do not begin at the root. -/
  workDir : List String := []
  items : Table (List String) Item := .empty

namespace FileTree

def item? (t : FileTree) (place : List String) : Option Item :=
  if place.isEmpty then some .directory else t.items.get? place

/-- One name further along a path; what was reached before has to be a directory. Above the root is the root. -/
def enter (t : FileTree) (place : List String) (name : String) : Except ReadFailure (List String) :=
  match t.item? place with
  | none => .error .missing
  | some .directory =>
    if name = ".." then .ok place.dropLast
    else if Path.nameLimit < name.utf8ByteSize then .error .unreadable
    else .ok (place ++ [name])
  | some _ => .error .unreadable

def start (t : FileTree) (path : String) : List String := if Path.startsAtRoot path then [] else t.workDir

def locate (t : FileTree) (path : String) : Except ReadFailure (List String) :=
  if Path.isUsable path then (Path.names path).foldlM t.enter (t.start path) else .error .unreadable

def read (t : FileTree) (path : String) : Except ReadFailure String := do
  match t.item? (← t.locate path) with
  | none => throw .missing
  | some item =>
    if Path.meansDirectory path then throw .unreadable
    match item with
    | .file content => return content
    | .sink => return ""
    | .directory | .sealed => throw .unreadable

/-- Makes the directory at a place, if there is nothing there. -/
def createDir (t : FileTree) (place : List String) : Option FileTree :=
  match t.item? place with
  | none => some { t with items := t.items.insert place .directory }
  | some .directory => some t
  | some _ => none

/-- Makes the next directory along a path. -/
def createAlong (state : FileTree × List String) (name : String) : Option (FileTree × List String) := do
  let (t, place) := state
  let next ← (t.enter place name).toOption
  return (← t.createDir next, next)

/-- Makes every directory that a path leads through. -/
def createDirs (t : FileTree) (path : String) : Option FileTree :=
  if Path.isUsable path then ((Path.names path).foldlM createAlong (t, t.start path)).map Prod.fst else none

def write (t : FileTree) (path content : String) : Option FileTree := do
  let place ← (t.locate path).toOption
  if Path.meansDirectory path then none
  else match t.item? place with
    | none | some (.file _) => some { t with items := t.items.insert place (.file content) }
    | some .sink => some t
    | some .directory | some .sealed => none

/-- Puts an item at a path, with the directories that it needs. -/
def place (t : FileTree) (path : String) (item : Item) : FileTree :=
  let t := ((Path.parent? path).bind t.createDirs).getD t
  match t.locate path with
  | .ok names => { t with items := t.items.insert names item }
  | .error _ => t

/-- Moves to a directory, which is made if need be. -/
def moveTo (t : FileTree) (path : String) : FileTree :=
  let t := (t.createDirs path).getD t
  { t with workDir := (t.locate path).toOption.getD t.workDir }

def addFiles (t : FileTree) (files : List (String × String)) : FileTree :=
  files.foldl (fun t (path, content) => t.place path (.file content)) t

def access : FileAccess (StateM FileTree) where
  read path := do return (← get).read path
  createDirs path := modifyGet fun t =>
    match t.createDirs path with
    | some t => (true, t)
    | none => (false, t)
  write path content := modifyGet fun t =>
    match t.write path content with
    | some t => (true, t)
    | none => (false, t)

end FileTree

end ShadeGraph
