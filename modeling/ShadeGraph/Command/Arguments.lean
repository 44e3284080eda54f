import ShadeGraph.Node.Model
import ShadeGraph.Table
import ShadeGraph.Text.Numeral

/-!
# Arguments of the command line

`[--config PATH] COMMAND [--OPTION VALUE | --OPTION=VALUE ...]`. Every option takes a value and may be given once;
`--config` may also follow the command, and then that one counts.
-/

namespace ShadeGraph

inductive Task
  | compile (input : String) (out? : Option String) (mode? : Option Mode)
  | preview (input : String) (stage : Stage) (node : NodeId) (port : Nat) (out? : Option String)
  | kinds (mode? : Option Mode) (stage : Stage)
  deriving DecidableEq, Repr

structure Invocation where
  config : String
  task : Task
  deriving DecidableEq, Repr

inductive CommandName
  | compile | preview | kinds
  deriving DecidableEq, Repr

namespace CommandName

def all : List CommandName := [.compile, .preview, .kinds]

def text : CommandName → String
  | .compile => "compile"
  | .preview => "preview"
  | .kinds => "kinds"

def ofText? (text : String) : Option CommandName := all.find? (·.text = text)

def options : CommandName → List String
  | .compile => ["in", "out", "mode", "config"]
  | .preview => ["in", "stage", "node", "port", "out", "config"]
  | .kinds => ["mode", "stage", "config"]

end CommandName

/-- What help can be given on: the program, one command, or help itself. -/
inductive Topic
  | program
  | command (name : CommandName)
  | help
  deriving DecidableEq, Repr

inductive Misuse
  | noCommand
  | unknownCommand (name : String)
  | unknownOption (name : String)
  | unexpected (argument : String)
  | noValue (option : String)
  | repeated (option : String)
  | required (option : String)
  | badValue (option value : String)
  deriving DecidableEq, Repr

def Misuse.message : Misuse → String
  | .noCommand => "a command is required"
  | .unknownCommand name => "unrecognized command '" ++ name ++ "'"
  | .unknownOption name | .unexpected name => "unexpected argument '" ++ name ++ "'"
  | .noValue option => "a value is required for '--" ++ option ++ "'"
  | .repeated option => "'--" ++ option ++ "' cannot be used multiple times"
  | .required option => "'--" ++ option ++ "' was not provided"
  | .badValue option value => "invalid value '" ++ value ++ "' for '--" ++ option ++ "'"

/-- Why a command line asks for no work. -/
inductive Notice
  | help (topic : Topic)
  | version
  | misuse (cause : Misuse)
  deriving DecidableEq, Repr

namespace Arguments

inductive Argument
  /-- Two dashes alone: no option follows. -/
  | escape
  | long (name : String) (value? : Option String)
  | short (text : String)
  | plain (text : String)
  deriving DecidableEq, Repr

def longOf (text : List Char) : Argument :=
  match Text.cutAt '=' text with
  | some (name, value) => .long (String.ofList name) (some (String.ofList value))
  | none => .long (String.ofList text) none

def classify (argument : String) : Argument :=
  match argument.toList with
  | ['-', '-'] => .escape
  | '-' :: '-' :: text => longOf text
  | ['-'] => .plain argument
  | '-' :: _ => .short argument
  | _ => .plain argument

/-- Whether the next argument can be the value of an option. -/
def isValue (argument : String) : Bool :=
  match classify argument with
  | .plain _ => true
  | _ => false

abbrev Options := Table String String

def misuse {α : Type} (cause : Misuse) : Except Notice α := .error (.misuse cause)

def readPath (text : String) : Option String := if text.isEmpty then none else some text

def readMode (text : String) : Option Mode := Mode.all.find? (·.documentName = text)

def readNode (text : String) : Option NodeId :=
  ((Text.integer? text.toList).filter fun n => 0 ≤ n && n < 2 ^ (32 : Nat)).map fun n => UInt32.ofNat n.toNat

def readPort (text : String) : Option Nat := Text.index? text.toList

/-- Whether an option takes a value; all but these take paths. -/
def accepts (name value : String) : Bool :=
  match name with
  | "mode" => (readMode value).isSome
  | "stage" => (Stage.ofName? value).isSome
  | "node" => (readNode value).isSome
  | "port" => (readPort value).isSome
  | _ => (readPath value).isSome

/-- Every option given so far has to have a value that it takes. -/
def check (options : Options) : Except Notice Unit :=
  match options.entries.find? fun (name, value) => !accepts name value with
  | some (name, value) => misuse (.badValue name value)
  | none => .ok ()

def addOption (options : Options) (name value : String) : Except Notice Options :=
  if options.contains name then misuse (.repeated name) else .ok (options.insert name value)

/-- An option without a value that ends the reading. -/
structure Flag where
  name : String
  letter : Char
  notice : Notice

def helpFlag (topic : Topic) : Flag := ⟨"help", 'h', .help topic⟩

def versionFlag : Flag := ⟨"version", 'V', .version⟩

/-- Of letters behind one dash the first counts. -/
def Flag.isMeant (flag : Flag) : Argument → Bool
  | .long name none => name = flag.name
  | .short letters => (letters.toList.drop 1).head? = some flag.letter
  | _ => false

/-- Reads options up to the first argument that is none. Values are checked before a flag counts, and at once where an
equals sign stands. -/
def readOptions (flags : List Flag) (known : List String) (options : Options) :
    List String → Except Notice (Options × List String)
  | [] => .ok (options, [])
  | argument :: rest =>
    match flags.find? (·.isMeant (classify argument)), classify argument with
    | some flag, _ => do
      check options
      .error flag.notice
    | none, .escape | none, .plain _ => .ok (options, argument :: rest)
    | none, .short text => misuse (.unknownOption text)
    | none, .long name value? =>
      if !known.contains name then misuse (.unknownOption argument)
      else match value? with
        | some value => do
          let options ← addOption options name value
          check options
          readOptions flags known options rest
        | none => match rest with
          | [] => misuse (.noValue name)
          | value :: rest =>
            if isValue value then do readOptions flags known (← addOption options name value) rest
            else misuse (.noValue name)

def get? {α : Type} (options : Options) (name : String) (read : String → Option α) : Except Notice (Option α) :=
  match options.get? name with
  | none => .ok none
  | some value =>
    match read value with
    | some a => .ok (some a)
    | none => misuse (.badValue name value)

def required {α : Type} (options : Options) (name : String) (read : String → Option α) : Except Notice α := do
  match ← get? options name read with
  | some a => return a
  | none => misuse (.required name)

def readStage (options : Options) : Except Notice Stage := do
  return (← get? options "stage" Stage.ofName?).getD .fragment

def readTask (options : Options) : CommandName → Except Notice Task
  | .compile => do
    let input ← required options "in" readPath
    return .compile input (← get? options "out" readPath) (← get? options "mode" readMode)
  | .preview => do
    let input ← required options "in" readPath
    let node ← required options "node" readNode
    let port? ← get? options "port" readPort
    return .preview input (← readStage options) node (port?.getD 0) (← get? options "out" readPath)
  | .kinds => do return .kinds (← get? options "mode" readMode) (← readStage options)

def defaultConfig : String := "vshaderc.ron"

/-- Reads what follows the name of a command; `outer` are the options given before it. -/
def readCommand (outer : Options) (command : CommandName) (arguments : List String) : Except Notice Invocation := do
  let (options, rest) ← readOptions [helpFlag (.command command)] command.options .empty arguments
  match rest with
  | "--" :: argument :: _ => misuse (.unexpected argument)
  | [] | ["--"] =>
    let outerConfig? ← get? outer "config" readPath
    let config? ← get? options "config" readPath
    return ⟨(config?.or outerConfig?).getD defaultConfig, ← readTask options command⟩
  | argument :: _ => misuse (.unexpected argument)

def helpName : String := "help"

/-- Help is given on the program, on a command, or on itself. -/
def readHelp : List String → Notice
  | [] => .help .program
  | [name] =>
    if name = helpName then .help .help
    else match CommandName.ofText? name with
      | some command => .help (.command command)
      | none => .misuse (.unknownCommand name)
  | _ :: argument :: _ => .misuse (.unexpected argument)

def read (arguments : List String) : Except Notice Invocation := do
  let (options, rest) ← readOptions [helpFlag .program, versionFlag] ["config"] .empty arguments
  match rest with
  | [] => misuse .noCommand
  | name :: rest =>
    if name = helpName then throw (readHelp rest)
    match CommandName.ofText? name with
    | some command => readCommand options command rest
    | none => misuse (.unknownCommand name)

end Arguments

end ShadeGraph
