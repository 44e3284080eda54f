/-! # Bindings of uniforms -/

namespace ShadeGraph

/-- A texture or cube map that the host binds at draw time, with its default resource. -/
structure Binding where
  name : String
  resource : Option String
  deriving DecidableEq, Repr

end ShadeGraph
