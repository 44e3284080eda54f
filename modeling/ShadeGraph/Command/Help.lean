import ShadeGraph.Command.Arguments

/-!
# Help

The text of a topic: what it is about, how the command line is written, and lists in two columns.
-/

namespace ShadeGraph

def programName : String := "vshaderc"

def versionText : String := programName ++ " 0.1.0\n"

namespace Topic

/-! ## Two columns -/

def lineWidth : Nat := 100

/-- Puts words behind those of a line while it has no more than `width` characters. -/
def fill (width : Nat) (line : String) : List String → List String
  | [] => [line]
  | word :: rest =>
    if line.length + 1 + word.length ≤ width then fill width (line ++ " " ++ word) rest
    else line :: fill width word rest

def wrap (width : Nat) (text : String) : List String :=
  match (Text.words text.toList).map String.ofList with
  | [] => []
  | word :: rest => fill width word rest

structure Line where
  label : String
  about : String

/-- Lines below a heading. The second column starts two characters after the longest label. -/
def list (heading : String) (lines : List Line) : String :=
  let column := (lines.map (·.label.length)).foldl max 0 + 2
  let margin := "\n" ++ Text.padRight column ""
  heading ++ ":\n" ++ Text.concat (lines.map fun line =>
    Text.padRight column line.label ++ Text.joinWith margin (wrap (lineWidth - column) line.about) ++ "\n")

/-! ## Lines -/

def option (name value about : String) : Line := ⟨"      --" ++ name ++ " <" ++ value ++ ">", about⟩

def withDefault (about default : String) : String := about ++ " [default: " ++ default ++ "]"

def withChoices (about : String) (choices : List String) : String :=
  about ++ " [possible values: " ++ Text.joinWith ", " choices ++ "]"

def mode (about : String) : Line := option "mode" "MODE" (withChoices about (Mode.all.map Mode.documentName))

def stage (about : String) : Line :=
  option "stage" "STAGE" (withChoices (withDefault about Stage.fragment.name) (Stage.all.map Stage.name))

def config : Line := option "config" "CONFIG" (withDefault "Settings file (RON)" Arguments.defaultConfig)

def input : Line := option "in" "IN_PATH" "Saved graph"

def helpLine : Line := ⟨"  -h, --help", "Print help"⟩

def versionLine : Line := ⟨"  -V, --version", "Print version"⟩

/-! ## Topics -/

def about : Topic → String
  | .program => ""
  | .command .compile => "Compile every stage of a saved graph"
  | .command .preview => "Compile a canvas-item preview of one node output"
  | .command .kinds => "List the registered node kinds"
  | .help => "Print this message or the help of the given subcommand(s)"

/-- What is written after the name of the program. -/
def usage : Topic → String
  | .program => "[OPTIONS] <COMMAND>"
  | .command .compile => "compile [OPTIONS] --in <IN_PATH>"
  | .command .preview => "preview [OPTIONS] --in <IN_PATH> --node <NODE>"
  | .command .kinds => "kinds [OPTIONS]"
  | .help => "help [COMMAND]..."

def commands : List Line :=
  CommandName.all.map (fun name => ⟨"  " ++ name.text, (Topic.command name).about⟩) ++
    [⟨"  " ++ Arguments.helpName, Topic.help.about⟩]

def lists : Topic → List String
  | .program => [list "Commands" commands, list "Options" [config, helpLine, versionLine]]
  | .command .compile =>
    [list "Options"
      [config, input,
       option "out" "OUT" "Output shader path; defaults to the configured output directory, or stdout",
       mode "Switch the graph to this mode before compiling", helpLine]]
  | .command .preview =>
    [list "Options"
      [config, input, stage "Stage holding the node", option "node" "NODE" "Node id",
       option "port" "PORT" (withDefault "Output port index" "0"),
       option "out" "OUT" "Output shader path; stdout when omitted", helpLine]]
  | .command .kinds =>
    [list "Options" [config, mode "Only kinds usable in this mode", stage "Only kinds usable in this stage", helpLine]]
  | .help => [list "Arguments" [⟨"  [COMMAND]...", "Print help for the subcommand(s)"⟩]]

def text (topic : Topic) : String :=
  let about := if topic.about.isEmpty then "" else topic.about ++ "\n\n"
  about ++ "Usage: " ++ programName ++ " " ++ topic.usage ++ "\n\n" ++ Text.joinWith "\n" topic.lists

end Topic

namespace Notice

def printed : Notice → String
  | .help topic => topic.text
  | .version => versionText
  | .misuse _ => ""

def exitCode : Notice → Nat
  | .help _ | .version => 0
  | .misuse _ => 2

end Notice

end ShadeGraph
