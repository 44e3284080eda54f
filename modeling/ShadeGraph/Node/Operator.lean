import ShadeGraph.Node.Model

/-! # Binary operators -/

namespace ShadeGraph

inductive ScalarOperator
  | add | sub | mul | div | mod | pow | max | min | atan2 | step
  deriving DecidableEq, Repr

instance : Choice ScalarOperator where
  all := [.add, .sub, .mul, .div, .mod, .pow, .max, .min, .atan2, .step]
  label
    | .add => "Add"
    | .sub => "Sub"
    | .mul => "Mul"
    | .div => "Div"
    | .mod => "Mod"
    | .pow => "Pow"
    | .max => "Max"
    | .min => "Min"
    | .atan2 => "Atan2"
    | .step => "Step"

inductive VectorOperator
  | add | sub | mul | div | mod | pow | max | min | cross | atan2 | reflect | step
  deriving DecidableEq, Repr

instance : Choice VectorOperator where
  all := [.add, .sub, .mul, .div, .mod, .pow, .max, .min, .cross, .atan2, .reflect, .step]
  label
    | .add => "Add"
    | .sub => "Sub"
    | .mul => "Mul"
    | .div => "Div"
    | .mod => "Mod"
    | .pow => "Pow"
    | .max => "Max"
    | .min => "Min"
    | .cross => "Cross"
    | .atan2 => "Atan2"
    | .reflect => "Reflect"
    | .step => "Step"

inductive ColorOperator
  | screen | difference | darken | lighten | overlay | dodge | burn | softLight | hardLight
  deriving DecidableEq, Repr

instance : Choice ColorOperator where
  all := [.screen, .difference, .darken, .lighten, .overlay, .dodge, .burn, .softLight, .hardLight]
  label
    | .screen => "Screen"
    | .difference => "Difference"
    | .darken => "Darken"
    | .lighten => "Lighten"
    | .overlay => "Overlay"
    | .dodge => "Dodge"
    | .burn => "Burn"
    | .softLight => "SoftLight"
    | .hardLight => "HardLight"

/-- The order of the factors, and whether they are multiplied by components. -/
inductive TransformProduct
  | ab | ba | abComponents | baComponents
  deriving DecidableEq, Repr

instance : Choice TransformProduct where
  all := [.ab, .ba, .abComponents, .baComponents]
  label
    | .ab => "AxB"
    | .ba => "BxA"
    | .abComponents => "AxBComp"
    | .baComponents => "BxAComp"

/-- The order of transform and vector, and whether the origin is left out. -/
inductive VectorProduct
  | ab | ba | abBasis | baBasis
  deriving DecidableEq, Repr

instance : Choice VectorProduct where
  all := [.ab, .ba, .abBasis, .baBasis]
  label
    | .ab => "AxB"
    | .ba => "BxA"
    | .abBasis => "AxB3x3"
    | .baBasis => "BxA3x3"

inductive Operator
  | scalar (op : ScalarOperator)
  | vector (op : VectorOperator)
  | color (op : ColorOperator)
  | transform (op : TransformProduct)
  | transformVector (op : VectorProduct)
  deriving DecidableEq, Repr

namespace Operator

def kind : Operator → String
  | .scalar _ => "scalar_op"
  | .vector _ => "vector_op"
  | .color _ => "color_op"
  | .transform _ => "transform_mult"
  | .transformVector _ => "transform_vec_mult"

def caption : Operator → String
  | .scalar _ => "ScalarOp"
  | .vector _ => "VectorOp"
  | .color _ => "ColorOp"
  | .transform _ => "TransformMult"
  | .transformVector _ => "TransformVectorMult"

def inputs : Operator → List Port
  | .scalar _ => [.scalarInput "a" .zero, .scalarInput "b" .zero]
  | .vector _ | .color _ => [.vectorInput "a" .zero, .vectorInput "b" .zero]
  | .transform _ => [.transformInput "a", .transformInput "b"]
  | .transformVector _ => [.transformInput "a", .vectorInput "b" .zero]

def outputs : Operator → List Port
  | .scalar _ => [.output "op" .scalar]
  | .vector _ | .color _ => [.output "op" .vector3]
  | .transform _ => [.output "mult" .transform]
  | .transformVector _ => [.output "" .vector3]

def slots : Operator → List (ParamSlot Operator)
  | .scalar op => [.choice "operator" op .scalar]
  | .vector op => [.choice "operator" op .vector]
  | .color op => [.choice "operator" op .color]
  | .transform op => [.choice "operator" op .transform]
  | .transformVector op => [.choice "operator" op .transformVector]

def between (symbol a b : String) : String := a ++ " " ++ symbol ++ " " ++ b

def call (function a b : String) : String := function ++ "(" ++ a ++ ", " ++ b ++ ")"

def scalarExpression (op : ScalarOperator) (a b : String) : String :=
  match op with
  | .add => between "+" a b
  | .sub => between "-" a b
  | .mul => between "*" a b
  | .div => between "/" a b
  | .mod => call "mod" a b
  | .pow => call "pow" a b
  | .max => call "max" a b
  | .min => call "min" a b
  | .atan2 => call "atan" a b
  | .step => call "step" a b

def vectorExpression (op : VectorOperator) (a b : String) : String :=
  match op with
  | .add => between "+" a b
  | .sub => between "-" a b
  | .mul => between "*" a b
  | .div => between "/" a b
  | .mod => call "mod" a b
  | .pow => call "pow" a b
  | .max => call "max" a b
  | .min => call "min" a b
  | .cross => call "cross" a b
  | .atan2 => call "atan" a b
  | .reflect => call "reflect" a b
  | .step => call "step" a b

def transformExpression (op : TransformProduct) (a b : String) : String :=
  match op with
  | .ab => between "*" a b
  | .ba => between "*" b a
  | .abComponents => call "matrixCompMult" a b
  | .baComponents => call "matrixCompMult" b a

def transformVectorExpression (op : VectorProduct) (a b : String) : String :=
  match op with
  | .ab => "(" ++ a ++ " * vec4(" ++ b ++ ", 1.0)).xyz"
  | .ba => "(vec4(" ++ b ++ ", 1.0) * " ++ a ++ ").xyz"
  | .abBasis => "(" ++ a ++ " * vec4(" ++ b ++ ", 0.0)).xyz"
  | .baBasis => "(vec4(" ++ b ++ ", 0.0) * " ++ a ++ ").xyz"

/-- One channel of a blend that has two cases, for a dark and for a light base. -/
def channel (out a b low high axis : String) : List Statement :=
  Statement.scope
    [.define 1 "float" "base" (a ++ "." ++ axis),
     .define 1 "float" "blend" (b ++ "." ++ axis),
     .line 1 "if (base < 0.5) \x7b",
     .assign 2 (out ++ "." ++ axis) low,
     .line 1 "\x7d else \x7b",
     .assign 2 (out ++ "." ++ axis) high,
     .line 1 "\x7d"]

def channels (out a b low high : String) : List Statement :=
  ["x", "y", "z"].flatMap (channel out a b low high)

def blend (op : ColorOperator) (out a b : String) : List Statement :=
  match op with
  | .screen => [.assign 0 out ("vec3(1.0) - (vec3(1.0) - " ++ a ++ ") * (vec3(1.0) - " ++ b ++ ")")]
  | .difference => [.assign 0 out ("abs(" ++ a ++ " - " ++ b ++ ")")]
  | .darken => [.assign 0 out (call "min" a b)]
  | .lighten => [.assign 0 out (call "max" a b)]
  | .overlay => channels out a b "2.0 * base * blend" "1.0 - 2.0 * (1.0 - blend) * (1.0 - base)"
  | .dodge => [.assign 0 out ("(" ++ a ++ ") / (vec3(1.0) - " ++ b ++ ")")]
  | .burn => [.assign 0 out ("vec3(1.0) - (vec3(1.0) - " ++ a ++ ") / (" ++ b ++ ")")]
  | .softLight => channels out a b "base * (blend + 0.5)" "1.0 - (1.0 - base) * (1.0 - (blend - 0.5))"
  | .hardLight =>
    channels out a b "base * (2.0 * blend)" "1.0 - (1.0 - base) * (1.0 - 2.0 * (blend - 0.5))"

def body (o : Operator) (operands results : List String) : Except BodyError (List Statement) := do
  let out ← operand results 0
  let a ← operand operands 0
  let b ← operand operands 1
  match o with
  | .scalar op => return [.assign 0 out (scalarExpression op a b)]
  | .vector op => return [.assign 0 out (vectorExpression op a b)]
  | .color op => return blend op out a b
  | .transform op => return [.assign 0 out (transformExpression op a b)]
  | .transformVector op => return [.assign 0 out (transformVectorExpression op a b)]

end Operator

end ShadeGraph
