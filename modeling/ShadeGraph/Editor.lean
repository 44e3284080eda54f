import ShadeGraph.Compile.Shader
import ShadeGraph.Graph.Edit

/-!
# Editors

An editor holds a design and the shader of its last compile, which is made anew when it is stale.
-/

namespace ShadeGraph

structure Editor (ν : Type) where
  design : Design ν
  /-- Whether the design changed since the last compile. -/
  stale : Bool := true
  last? : Option Shader := none

namespace Editor

variable {ν : Type}

def diagnosticsAt (e : Editor ν) (stage : Stage) (id : NodeId) : List Diagnostic :=
  (e.last?.map (·.diagnosticsAt stage id)).getD []

variable [NodeModel ν]

def apply (e : Editor ν) (edit : Edit ν) : Except GraphError (Editor ν) := do
  let design ← edit.apply e.design
  return { e with design, stale := e.stale || edit.outdates e.design }

def compile (e : Editor ν) : Shader × Editor ν :=
  let shader := e.design.compile
  (shader, { e with stale := false, last? := some shader })

/-- The shader of the design, from the last compile if that is not stale. -/
def shader (e : Editor ν) : Shader × Editor ν :=
  match e.stale, e.last? with
  | false, some shader => (shader, e)
  | _, _ => e.compile

end Editor

end ShadeGraph
