import ShadeGraph.Graph.Edge
import ShadeGraph.Param.Text
import ShadeGraph.Text.Numeral

/-!
# Entries of a document

A document has one entry on a line, `key = value`. The text of a parameter or default is kept as it stands: its
kind is not known before the node is.
-/

namespace ShadeGraph

/-- An edge as it is written, before its nodes are looked up. -/
structure EdgeNumbers where
  source : Nat
  output : Nat
  target : Nat
  input : Nat
  deriving DecidableEq, Repr

inductive Entry
  | mode (mode : Mode)
  | options (choices : List (String × Nat))
  | flags (flags : List String)
  | offset (position : Position)
  | kind (site : Site) (kind : String)
  | position (site : Site) (position : Position)
  | param (site : Site) (name text : String)
  | default (site : Site) (port : Nat) (text : String)
  | edges (stage : Stage) (edges : List EdgeNumbers)
  deriving DecidableEq, Repr

inductive Malformed
  | noEquals
  | unknownMode (name : String)
  | notOption (item : String)
  | value (cause : ValueError)
  | unknownStage (name : String)
  | notNodeId (text : String)
  | notPort (text : String)
  | unknownKey (key : String)
  | unbracketed
  | notEdge (text : String)
  | notIndex (text : String)
  | noKind (site : Site)
  | noParam (kind name : String)
  | noInput (id : NodeId) (port : Nat)
  | idOutOfRange (id : Nat)
  deriving DecidableEq, Repr

def Malformed.message : Malformed → String
  | .noEquals => "expected `key = value`"
  | .unknownMode name => "unknown shader mode `" ++ name ++ "`"
  | .notOption item => "`" ++ item ++ "` is not `group:index`"
  | .value cause => cause.message
  | .unknownStage name => "unknown stage `" ++ name ++ "`"
  | .notNodeId text => "`" ++ text ++ "` is not a node id"
  | .notPort text => "`" ++ text ++ "` is not a port index"
  | .unknownKey key => "unknown key `" ++ key ++ "`"
  | .unbracketed => "connection list must be enclosed in `[...]`"
  | .notEdge text => "`" ++ text ++ "` is not `from, port, to, port`"
  | .notIndex text => "`" ++ text ++ "` is not an index"
  | .noKind site => "node " ++ site.id.text ++ " of the " ++ site.stage.name ++ " stage has no kind"
  | .noParam kind name => "node kind `" ++ kind ++ "` has no parameter `" ++ name ++ "`"
  | .noInput id port => "node " ++ id.text ++ " has no input port " ++ Nat.repr port
  | .idOutOfRange id => "node id " ++ Nat.repr id ++ " is out of range"

namespace EdgeNumbers

def ofEdge (e : Edge) : EdgeNumbers := ⟨e.source.toNat, e.output, e.target.toNat, e.input⟩

def write (e : EdgeNumbers) : String :=
  Text.joinWith ", " ([e.source, e.output, e.target, e.input].map Nat.repr)

end EdgeNumbers

/-! ## Writing -/

namespace Site

def key (s : Site) : String := "nodes/" ++ s.stage.name ++ "/" ++ s.id.text

end Site

namespace Entry

def key : Entry → String
  | .mode _ => "mode"
  | .options _ => "render_modes"
  | .flags _ => "flags"
  | .offset _ => "graph_offset"
  | .kind site _ => site.key
  | .position site _ => site.key ++ "/position"
  | .param site name _ => site.key ++ "/" ++ name
  | .default site port _ => site.key ++ "/input_default/" ++ Nat.repr port
  | .edges stage _ => "node_connections/" ++ stage.name

def value : Entry → String
  | .mode m => m.documentName
  | .options choices => Text.joinWith ", " (choices.map fun (group, option) => group ++ ":" ++ Nat.repr option)
  | .flags names => Text.joinWith ", " names
  | .offset p | .position _ p => ValueText.numbers p.toList
  | .kind _ name => name
  | .param _ _ text | .default _ _ text => text
  | .edges _ list => "[" ++ Text.joinWith "; " (list.map EdgeNumbers.write) ++ "]"

def write (e : Entry) : String := e.key ++ " = " ++ e.value ++ "\n"

/-! ## Reading -/

/-- What is read, or the cause of the failure to read it. -/
def orMalformed {α : Type} (read : Option α) (cause : Malformed) : Except Malformed α :=
  match read with
  | some a => .ok a
  | none => .error cause

def readOption (item : List Char) : Except Malformed (String × Nat) :=
  orMalformed
    ((Text.cutAt ':' item).bind fun (group, option) =>
      (Text.index? (Text.trim option)).map fun n => (String.ofList (Text.trim group), n))
    (.notOption (String.ofList item))

def readPosition (value : List Char) : Except Malformed Position :=
  (ValueText.readPosition value).mapError .value

def readStage (name : List Char) : Except Malformed Stage :=
  orMalformed (Stage.ofName? (String.ofList name)) (.unknownStage (String.ofList name))

def readNodeId (text : List Char) : Except Malformed NodeId :=
  orMalformed ((Text.below? (2 ^ (32 : Nat)) text).map UInt32.ofNat) (.notNodeId (String.ofList text))

def readPort (text : List Char) : Except Malformed Nat :=
  orMalformed (Text.index? text) (.notPort (String.ofList text))

def readEdge (group : List Char) : Except Malformed EdgeNumbers := do
  let parts := (Text.splitOn ',' group).map Text.trim
  if parts.length ≠ 4 then throw (.notEdge (String.ofList group))
  match ← parts.mapM fun part => orMalformed (Text.index? part) (.notIndex (String.ofList part)) with
  | [source, output, target, input] => return ⟨source, output, target, input⟩
  | _ => throw (.notEdge (String.ofList group))

def bracketed? : List Char → Option (List Char)
  | '[' :: rest => [']'].isSuffixOf? rest
  | _ => none

def readEdges (value : List Char) : Except Malformed (List EdgeNumbers) := do
  let inner ← orMalformed (bracketed? value) .unbracketed
  (((Text.splitOn ';' inner).map Text.trim).filter (!·.isEmpty)).mapM readEdge

/-- An entry about a node, by what follows the node in its key. -/
def readNodeEntry (key value : List Char) (site : Site) (rest : List String) : Except Malformed Entry :=
  match rest with
  | [] => .ok (.kind site (String.ofList value))
  | ["position"] => (readPosition value).map (.position site)
  | ["input_default", port] => (readPort port.toList).map (.default site · (String.ofList value))
  | [name] => .ok (.param site name (String.ofList value))
  | _ => .error (.unknownKey (String.ofList key))

def readPath (key value : List Char) : Except Malformed Entry :=
  match (Text.splitOn '/' key).map String.ofList with
  | ["node_connections", stage] => do
    let stage ← readStage stage.toList
    return .edges stage (← readEdges value)
  | "nodes" :: stage :: id :: rest => do
    let stage ← readStage stage.toList
    let id ← readNodeId id.toList
    readNodeEntry key value ⟨stage, id⟩ rest
  | _ => .error (.unknownKey (String.ofList key))

def readEntry (key value : List Char) : Except Malformed Entry :=
  match String.ofList key with
  | "mode" =>
    orMalformed ((Mode.ofDocumentName? (String.ofList value)).map .mode) (.unknownMode (String.ofList value))
  | "render_modes" => ((Text.items value).mapM readOption).map .options
  | "flags" => .ok (.flags ((Text.items value).map String.ofList))
  | "graph_offset" => (readPosition value).map .offset
  | _ => readPath key value

/-- The entry on a line; empty lines and comments have none. -/
def readLine (line : List Char) : Except Malformed (Option Entry) :=
  let text := Text.trim line
  if text.isEmpty || text.head? = some '#' then .ok none
  else match Text.cutAt '=' text with
    | none => .error .noEquals
    | some (key, value) => (readEntry (Text.trim key) (Text.trim value)).map some

end Entry

end ShadeGraph
