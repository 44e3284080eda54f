import ShadeGraph.Node.Model

/-! # Constants -/

namespace ShadeGraph

inductive Constant
  | scalar (value : Single)
  | boolean (value : Bool)
  | color (value : Color)
  | vector (value : Vec3)
  | transform (value : Transform)
  deriving DecidableEq, Repr

namespace Constant

def kind : Constant → String
  | .scalar _ => "scalar_constant"
  | .boolean _ => "boolean_constant"
  | .color _ => "color_constant"
  | .vector _ => "vector_constant"
  | .transform _ => "transform_constant"

def caption : Constant → String
  | .scalar _ => "Scalar"
  | .boolean _ => "Boolean"
  | .color _ => "Color"
  | .vector _ => "Vector"
  | .transform _ => "Transform"

def outputs : Constant → List Port
  | .scalar _ => [.output "" .scalar]
  | .boolean _ => [.output "" .boolean]
  | .color _ => [.output "" .vector3, .output "alpha" .scalar]
  | .vector _ => [.output "" .vector3]
  | .transform _ => [.output "" .transform]

def slots : Constant → List (ParamSlot Constant)
  | .scalar value => [.float "constant" value .scalar]
  | .boolean value => [.bool "constant" value .boolean]
  | .color value => [.color "constant" value .color]
  | .vector value => [.vector3 "constant" value .vector]
  | .transform value => [.transform "constant" value .transform]

def body (c : Constant) (results : List String) : Except BodyError (List Statement) := do
  let out ← operand results 0
  match c with
  | .scalar value => return [.assign 0 out (← literalOf value.literal)]
  | .boolean value => return [.assign 0 out (booleanLiteral value)]
  | .color value =>
    let (rgb, alpha) ← literalOf value.literals
    return [.assign 0 out rgb, .assign 0 (← operand results 1) alpha]
  | .vector value => return [.assign 0 out (← literalOf value.literal)]
  | .transform value => return [.assign 0 out (← literalOf value.literal)]

end Constant

end ShadeGraph
