import ShadeGraph.Ron.Skip
import ShadeGraph.Ron.Text
import ShadeGraph.Shader.Mode

/-! # Settings of the command line -/

namespace ShadeGraph

structure Settings where
  version : Nat := 1
  logFilter : String := "vshader=info"
  /-- Where shaders go when no path is given. -/
  outputDir : Option String := none
  /-- The mode that every loaded design is switched to. -/
  mode : Option Mode := none
  /-- Whether the bindings are written beside the shader. -/
  manifest : Bool := false
  deriving DecidableEq, Repr

inductive SettingsError
  | malformed
  /-- The settings are of a later version. -/
  | version (found : Nat)
  deriving DecidableEq, Repr

namespace Settings

def supportedVersion : Nat := 1

def modeName : Mode → String
  | .spatial => "Spatial"
  | .canvas => "CanvasItem"
  | .particles => "Particles"

def recordName : String := "CliSettings"

/-! ## Writing -/

def write (s : Settings) : String :=
  Ron.record 0 recordName
    [("version", Nat.repr s.version),
     ("log_filter", Ron.quote s.logFilter),
     ("output_dir", Ron.option (s.outputDir.map Ron.quote)),
     ("default_mode_override", Ron.option (s.mode.map modeName)),
     ("emit_uniform_manifest", if s.manifest then "true" else "false")]

/-! ## Reading -/

inductive Field
  | version (n : Nat)
  | logFilter (filter : String)
  | outputDir (path? : Option String)
  | mode (mode? : Option Mode)
  | manifest (on : Bool)
  | unknown
  deriving DecidableEq, Repr

def readMode : Ron.Reader Mode := do
  let name ← Ron.name
  Mode.all.find? fun m => modeName m = name

/-- The value of a field by its name; a field that is not known is skipped. -/
def readField (extensions : List Ron.Extension) : String → Ron.Reader Field
  | "version" => return .version (← Ron.natural32)
  | "log_filter" => return .logFilter (← Ron.string)
  | "output_dir" => return .outputDir (← Ron.optional extensions fun _ => Ron.string)
  | "default_mode_override" => return .mode (← Ron.optional extensions fun _ => readMode)
  | "emit_uniform_manifest" => return .manifest (← Ron.boolean)
  | _ => do
    Ron.skipValue extensions (Ron.depthLimit - 2) false
    return .unknown

def readFields (extensions : List Ron.Extension) : Ron.Reader (List Field) :=
  Ron.fields extensions recordName (readField extensions)

def atMostOne {α : Type} : List α → Option (Option α)
  | [] => some none
  | [a] => some (some a)
  | _ => none

/-- Only the version is required, and a field may stand once. -/
def ofFields (fields : List Field) : Option Settings := do
  let version? ← atMostOne (fields.filterMap fun | .version n => some n | _ => none)
  let logFilter? ← atMostOne (fields.filterMap fun | .logFilter filter => some filter | _ => none)
  let outputDir? ← atMostOne (fields.filterMap fun | .outputDir path? => some path? | _ => none)
  let mode? ← atMostOne (fields.filterMap fun | .mode mode? => some mode? | _ => none)
  let manifest? ← atMostOne (fields.filterMap fun | .manifest on => some on | _ => none)
  let version ← version?
  let default : Settings := {}
  return {
    version
    logFilter := logFilter?.getD default.logFilter
    outputDir := outputDir?.getD default.outputDir
    mode := mode?.getD default.mode
    manifest := manifest?.getD default.manifest }

def read (text : String) : Except SettingsError Settings :=
  match (Ron.document readFields text).bind ofFields with
  | none => .error .malformed
  | some s => if supportedVersion < s.version then .error (.version s.version) else .ok s

end Settings

def SettingsError.message : SettingsError → String
  | .malformed => "malformed settings"
  | .version found =>
    "settings version " ++ Nat.repr found ++ " is newer than supported version " ++
      Nat.repr Settings.supportedVersion

end ShadeGraph
