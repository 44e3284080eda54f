import ShadeGraph.Compile.Shader

/-!
# Previews

A preview shows one output port as the colour of a canvas. Nodes that need what a canvas fragment does not
have emit placeholders.
-/

namespace ShadeGraph

/-- The colour that shows a value; some types have none. -/
def shownColor? (type : PortType) (name : String) : Option String :=
  match type with
  | .scalar => some ("vec3(" ++ name ++ ")")
  | .boolean => some ("vec3(" ++ name ++ " ? 1.0 : 0.0)")
  | .vector3 => some name
  | .transform | .sampler2D | .samplerCube => none

namespace Design

variable {ν : Type} [NodeModel ν]

/-- The body of a preview; a closure that failed leaves it empty. -/
def previewBody (color : String) : Except StageFailure (List Emission) → String
  | .ok emissions => Text.concat (emissions.map Emission.block) ++ "\tCOLOR.rgb = " ++ color ++ ";\n"
  | .error _ => ""

def preview? (d : Design ν) (stage : Stage) (id : NodeId) (port : Nat) : Option Shader := do
  let type ← (d.graph stage).outputType? id port
  let color ← shownColor? type (outputVariable id port)
  let emitted := d.emit true stage id
  let a := Assembly.add {} stage emitted
  return ⟨RenderSettings.empty.header .canvas ++ d.fileScope true a ++
    functionText Stage.fragment.name "" (previewBody color emitted), a.bindings, a.diagnostics⟩

end Design

end ShadeGraph
