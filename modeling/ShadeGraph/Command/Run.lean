import ShadeGraph.Command.Arguments
import ShadeGraph.Command.Files
import ShadeGraph.Command.Manifest
import ShadeGraph.Command.Settings
import ShadeGraph.Compile.Preview
import ShadeGraph.Document.Load
import ShadeGraph.Node.Standard

/-! # The commands -/

namespace ShadeGraph

inductive CommandError
  | settings (path : String)
  | readDesign (path : String)
  | loadDesign (path : String)
  | createDir (path : String)
  | writeShader (path : String)
  | writeManifest (path : String)
  | noPreview (site : Site) (port : Nat)
  | compileErrors (count : Nat)
  deriving DecidableEq, Repr

def CommandError.message : CommandError → String
  | .settings path => "load settings '" ++ path ++ "'"
  | .readDesign path => "read graph '" ++ path ++ "'"
  | .loadDesign path => "load graph '" ++ path ++ "'"
  | .createDir path => "create output dir '" ++ path ++ "'"
  | .writeShader path => "write shader '" ++ path ++ "'"
  | .writeManifest path => "write uniform manifest '" ++ path ++ "'"
  | .noPreview site port =>
    "node " ++ site.id.text ++ " of the " ++ site.stage.name ++ " stage has no previewable output port " ++
      Nat.repr port
  | .compileErrors count => "compilation produced " ++ Nat.repr count ++ " error(s)"

structure Outcome where
  printed : String := ""
  error? : Option CommandError := none
  /-- What is told to the user aside, one line each. -/
  notes : List String := []
  deriving DecidableEq, Repr

namespace Command

def registry : Registry StandardNode := ⟨StandardNode.prototypes⟩

/-- Switches a design to the mode of the settings, then to the one asked for. -/
def switch (settings : Settings) (mode? : Option Mode) (d : Design StandardNode) : Design StandardNode :=
  let d := settings.mode.elim d d.setMode
  mode?.elim d d.setMode

/-- Where a compiled shader goes: where asked, else by the name of the design into the configured directory, else
nowhere. -/
def outputPath (settings : Settings) (input : String) (out? : Option String) : Option String :=
  out?.or (do
    let stem ← Path.fileStem? input
    let dir ← settings.outputDir
    return Path.withExtension (Path.join dir stem) "shader")

def manifestPath (out : String) : String := Path.withExtension out "uniforms.ron"

/-- One line about a kind: its key, its name and its category. -/
def kindLine (n : StandardNode) : String :=
  Text.padRight 28 n.kind ++ " " ++ Text.padRight 24 n.caption ++ " " ++ n.category.name ++ "\n"

def kindLines (mode? : Option Mode) (stage : Stage) : String :=
  let nodes := match mode? with
    | some mode => registry.permitted mode stage
    | none => registry.prototypes
  Text.concat (nodes.map kindLine)

/-- A shader that was written is an error if compiling it was one. -/
def report (printed : String) (shader : Shader) : Outcome where
  printed
  error? := match shader.errors.length with
    | 0 => none
    | count => some (.compileErrors count)
  notes := (shader.warnings ++ shader.errors).map Diagnostic.text

section

variable {m : Type → Type} [Monad m]

/-- Settings that are not there are the default ones. -/
def loadSettings (files : FileAccess m) (path : String) : ExceptT CommandError m Settings := do
  match ← files.read path with
  | .error .missing => return {}
  | .error .unreadable => throw (.settings path)
  | .ok text =>
    match Settings.read text with
    | .ok settings => return settings
    | .error _ => throw (.settings path)

def loadDesign (files : FileAccess m) (path : String) : ExceptT CommandError m (Design StandardNode) := do
  match ← files.read path with
  | .error _ => throw (.readDesign path)
  | .ok text =>
    match Design.load registry text with
    | .ok d => return d
    | .error _ => throw (.loadDesign path)

/-- The directory that has to be there for a path. -/
def directoryOf (path : String) : Option String := (Path.parent? path).filter (!·.isEmpty)

def require (done : Bool) (error : CommandError) : ExceptT CommandError m Unit :=
  if done then pure () else throw error

/-- Writes a shader, and its manifest if asked, into a directory that is there. -/
def writeFiles (files : FileAccess m) (shader : Shader) (out : String) (withManifest : Bool) :
    ExceptT CommandError m String := do
  require (← files.write out shader.source) (.writeShader out)
  if withManifest then
    require (← files.write (manifestPath out) (manifest shader.bindings)) (.writeManifest (manifestPath out))
  return ""

/-- Makes the directory and writes the shader there; without a path it is printed. -/
def writeShader (files : FileAccess m) (shader : Shader) (out? : Option String) (withManifest : Bool) :
    ExceptT CommandError m String := do
  match out? with
  | none => return shader.source
  | some out =>
    if let some directory := directoryOf out then
      require (← files.createDirs directory) (.createDir directory)
    writeFiles files shader out withManifest

/-- What a compile does with its shader. -/
def finish (files : FileAccess m) (settings : Settings) (input : String) (out? : Option String) (shader : Shader) :
    ExceptT CommandError m Outcome := do
  return report (← writeShader files shader (outputPath settings input out?) settings.manifest) shader

def perform (files : FileAccess m) (settings : Settings) : Task → ExceptT CommandError m Outcome
  | .compile input out? mode? => do
    finish files settings input out? (switch settings mode? (← loadDesign files input)).compile
  | .preview input stage node port out? => do
    match (switch settings none (← loadDesign files input)).preview? stage node port with
    | none => throw (.noPreview ⟨stage, node⟩ port)
    | some shader => return report (← writeShader files shader out? false) shader
  | .kinds mode? stage => return { printed := kindLines mode? stage }

def run (files : FileAccess m) (invocation : Invocation) : m Outcome := do
  let result ← (do
    let settings ← loadSettings files invocation.config
    perform files settings invocation.task : ExceptT CommandError m Outcome).run
  match result with
  | .ok outcome => return outcome
  | .error error => return { error? := some error }

end

end Command

end ShadeGraph
