import ShadeGraph.Compile.Assembly

/-! # Shaders -/

namespace ShadeGraph

/-- The result of a compile: the text, what the host has to bind, and what was found. -/
structure Shader where
  source : String
  bindings : List Binding
  diagnostics : List Diagnostic
  deriving DecidableEq, Repr

namespace Shader

def errors (s : Shader) : List Diagnostic := s.diagnostics.filter Diagnostic.isError

def warnings (s : Shader) : List Diagnostic := s.diagnostics.filter (!·.isError)

def isOk (s : Shader) : Bool := !s.diagnostics.any Diagnostic.isError

def diagnosticsAt (s : Shader) (stage : Stage) (id : NodeId) : List Diagnostic :=
  s.diagnostics.filter fun d => d.stage = some stage && d.node = some id

end Shader

/-- The text of a stage's function; one that failed has none. -/
def bodyText : Except StageFailure (List Emission) → String
  | .ok emissions => Text.concat (emissions.map Emission.block)
  | .error _ => ""

namespace Design

variable {ν : Type} [NodeModel ν]

/-- The nodes of a stage that contribute to file scope, in the order of their numbers. -/
def globalNodes (d : Design ν) (stage : Stage) : List (NodeId × ν) :=
  let nodes := ((d.graph stage).nodes.entries.map fun (id, n) => (id, n.node)).filter fun (_, n) =>
    NodeModel.isGlobal n
  nodes.mergeSort fun a b => a.1 ≤ b.1

def globalText (d : Design ν) (preview : Bool) (stage : Stage) (entry : NodeId × ν) : String :=
  "// " ++ NodeModel.caption entry.2 ++ ":" ++ entry.1.text ++ "\n" ++
    NodeModel.declarations entry.2 ⟨d.mode, stage, entry.1, preview⟩ ++ "\n"

def fileScope (d : Design ν) (preview : Bool) (a : Assembly) : String :=
  Text.concat a.declarations ++ Text.concat a.helpers ++
    Text.concat (Stage.all.flatMap fun stage => (d.globalNodes stage).map (d.globalText preview stage))

def functionText (name prologue body : String) : String :=
  "\nvoid " ++ name ++ "() \x7b\n" ++ prologue ++ body ++ "\x7d\n"

/-- Compiles every stage from its output node. -/
def compile (d : Design ν) : Shader :=
  let emitted := PerStage.ofFn fun stage => d.emit false stage .output
  let a := Stage.all.foldl (fun a stage => a.add stage (emitted.get stage)) {}
  let functions := Stage.all.map fun stage =>
    functionText stage.name (Text.concat (a.prologues.get stage)) (bodyText (emitted.get stage))
  ⟨d.settings.header d.mode ++ d.fileScope false a ++ Text.concat functions, a.bindings, a.diagnostics⟩

end Design

end ShadeGraph
