import ShadeGraph.Ron.Text
import ShadeGraph.Uniform.Binding

/-! # Manifests of bindings -/

namespace ShadeGraph

def Binding.write (b : Binding) : String :=
  Ron.record 1 ""
    [("name", Ron.quote b.name), ("resource", Ron.option (b.resource.map fun path => "(" ++ Ron.quote path ++ ")"))]

def manifest (bindings : List Binding) : String :=
  Ron.list (bindings.map Binding.write)

end ShadeGraph
