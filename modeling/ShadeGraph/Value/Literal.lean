import ShadeGraph.Number.Decimal
import ShadeGraph.Text.Basic
import ShadeGraph.Value.Basic

/-!
# Literals

Numbers in shader text have six decimals. A value has a literal exactly when all its components are
finite.
-/

namespace ShadeGraph

/-- A value without a literal, told by its first component that is not finite. -/
structure LiteralError where
  component : Single
  deriving DecidableEq, Repr

def LiteralError.message (e : LiteralError) : String :=
  "cannot encode non-finite value " ++ e.component.text ++ " as a GLSL literal"

def booleanLiteral (value : Bool) : String :=
  if value then "true" else "false"

def Single.literal (x : Single) : Except LiteralError String :=
  if x.isFinite then .ok (x.fixed 6) else .error ⟨x⟩

def Vec3.components (v : Vec3) : Except LiteralError String := do
  let x ← v.x.literal
  let y ← v.y.literal
  let z ← v.z.literal
  return x ++ ", " ++ y ++ ", " ++ z

def Vec3.literal (v : Vec3) : Except LiteralError String := do
  return "vec3(" ++ (← v.components) ++ ")"

/-- Columns from left to right; the origin is the last one. -/
def Transform.literal (t : Transform) : Except LiteralError String := do
  let column0 ← t.column0.components
  let column1 ← t.column1.components
  let column2 ← t.column2.components
  let origin ← t.origin.components
  return "mat4(vec4(" ++ column0 ++ ", 0.0), vec4(" ++ column1 ++ ", 0.0), vec4(" ++ column2 ++
    ", 0.0), vec4(" ++ origin ++ ", 1.0))"

/-- A colour is written as two expressions, its vector part and its alpha. -/
def Color.literals (c : Color) : Except LiteralError (String × String) := do
  let rgb ← c.rgb.literal
  let alpha ← c.a.literal
  return (rgb, alpha)

def PortValue.literal : PortValue → Except LiteralError String
  | .scalar v => v.literal
  | .vector3 v => v.literal
  | .boolean v => .ok (booleanLiteral v)
  | .transform v => v.literal

end ShadeGraph
