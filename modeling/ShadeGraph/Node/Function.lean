import ShadeGraph.Node.Formula

/-!
# Functions of one operand

Most functions are an expression template; conversions of colours take a scope of their own.
-/

namespace ShadeGraph

inductive ScalarFunction
  | sin | cos | tan | asin | acos | atan | sinh | cosh | tanh | log | exp | sqrt | abs | sign
  | floor | round | ceil | fract | saturate | negate | acosh | asinh | atanh | degrees | exp2
  | inverseSqrt | log2 | radians | reciprocal | roundEven | trunc | oneMinus
  deriving DecidableEq, Repr

instance : Choice ScalarFunction where
  all :=
    [.sin, .cos, .tan, .asin, .acos, .atan, .sinh, .cosh, .tanh, .log, .exp, .sqrt, .abs, .sign,
     .floor, .round, .ceil, .fract, .saturate, .negate, .acosh, .asinh, .atanh, .degrees, .exp2,
     .inverseSqrt, .log2, .radians, .reciprocal, .roundEven, .trunc, .oneMinus]
  label
    | .sin => "Sin"
    | .cos => "Cos"
    | .tan => "Tan"
    | .asin => "ASin"
    | .acos => "ACos"
    | .atan => "ATan"
    | .sinh => "SinH"
    | .cosh => "CosH"
    | .tanh => "TanH"
    | .log => "Log"
    | .exp => "Exp"
    | .sqrt => "Sqrt"
    | .abs => "Abs"
    | .sign => "Sign"
    | .floor => "Floor"
    | .round => "Round"
    | .ceil => "Ceil"
    | .fract => "Frac"
    | .saturate => "Saturate"
    | .negate => "Negate"
    | .acosh => "ACosH"
    | .asinh => "ASinH"
    | .atanh => "ATanH"
    | .degrees => "Degrees"
    | .exp2 => "Exp2"
    | .inverseSqrt => "InverseSqrt"
    | .log2 => "Log2"
    | .radians => "Radians"
    | .reciprocal => "Reciprocal"
    | .roundEven => "RoundEven"
    | .trunc => "Trunc"
    | .oneMinus => "OneMinus"

namespace ScalarFunction

def template : ScalarFunction → String
  | .sin => "sin($0)"
  | .cos => "cos($0)"
  | .tan => "tan($0)"
  | .asin => "asin($0)"
  | .acos => "acos($0)"
  | .atan => "atan($0)"
  | .sinh => "sinh($0)"
  | .cosh => "cosh($0)"
  | .tanh => "tanh($0)"
  | .log => "log($0)"
  | .exp => "exp($0)"
  | .sqrt => "sqrt($0)"
  | .abs => "abs($0)"
  | .sign => "sign($0)"
  | .floor => "floor($0)"
  | .round => "round($0)"
  | .ceil => "ceil($0)"
  | .fract => "fract($0)"
  | .saturate => "min(max($0, 0.0), 1.0)"
  | .negate => "-($0)"
  | .acosh => "acosh($0)"
  | .asinh => "asinh($0)"
  | .atanh => "atanh($0)"
  | .degrees => "degrees($0)"
  | .exp2 => "exp2($0)"
  | .inverseSqrt => "inversesqrt($0)"
  | .log2 => "log2($0)"
  | .radians => "radians($0)"
  | .reciprocal => "1.0 / ($0)"
  | .roundEven => "roundEven($0)"
  | .trunc => "trunc($0)"
  | .oneMinus => "1.0 - $0"

end ScalarFunction

inductive VectorFunction
  | normalize | saturate | negate | reciprocal | rgbToHsv | hsvToRgb | abs | acos | acosh | asin
  | asinh | atan | atanh | ceil | cos | cosh | degrees | exp | exp2 | floor | fract | inverseSqrt
  | log | log2 | radians | round | roundEven | sign | sin | sinh | sqrt | tan | tanh | trunc
  | oneMinus
  deriving DecidableEq, Repr

instance : Choice VectorFunction where
  all :=
    [.normalize, .saturate, .negate, .reciprocal, .rgbToHsv, .hsvToRgb, .abs, .acos, .acosh, .asin,
     .asinh, .atan, .atanh, .ceil, .cos, .cosh, .degrees, .exp, .exp2, .floor, .fract,
     .inverseSqrt, .log, .log2, .radians, .round, .roundEven, .sign, .sin, .sinh, .sqrt, .tan,
     .tanh, .trunc, .oneMinus]
  label
    | .normalize => "Normalize"
    | .saturate => "Saturate"
    | .negate => "Negate"
    | .reciprocal => "Reciprocal"
    | .rgbToHsv => "RGB2HSV"
    | .hsvToRgb => "HSV2RGB"
    | .abs => "Abs"
    | .acos => "ACos"
    | .acosh => "ACosH"
    | .asin => "ASin"
    | .asinh => "ASinH"
    | .atan => "ATan"
    | .atanh => "ATanH"
    | .ceil => "Ceil"
    | .cos => "Cos"
    | .cosh => "CosH"
    | .degrees => "Degrees"
    | .exp => "Exp"
    | .exp2 => "Exp2"
    | .floor => "Floor"
    | .fract => "Frac"
    | .inverseSqrt => "InverseSqrt"
    | .log => "Log"
    | .log2 => "Log2"
    | .radians => "Radians"
    | .round => "Round"
    | .roundEven => "RoundEven"
    | .sign => "Sign"
    | .sin => "Sin"
    | .sinh => "SinH"
    | .sqrt => "Sqrt"
    | .tan => "Tan"
    | .tanh => "TanH"
    | .trunc => "Trunc"
    | .oneMinus => "OneMinus"

namespace VectorFunction

/-- The template of a function; the conversions of colours have none. -/
def template? : VectorFunction → Option String
  | .rgbToHsv | .hsvToRgb => none
  | .normalize => some "normalize($0)"
  | .saturate => some "max(min($0, vec3(1.0)), vec3(0.0))"
  | .negate => some "-($0)"
  | .reciprocal => some "1.0 / ($0)"
  | .abs => some "abs($0)"
  | .acos => some "acos($0)"
  | .acosh => some "acosh($0)"
  | .asin => some "asin($0)"
  | .asinh => some "asinh($0)"
  | .atan => some "atan($0)"
  | .atanh => some "atanh($0)"
  | .ceil => some "ceil($0)"
  | .cos => some "cos($0)"
  | .cosh => some "cosh($0)"
  | .degrees => some "degrees($0)"
  | .exp => some "exp($0)"
  | .exp2 => some "exp2($0)"
  | .floor => some "floor($0)"
  | .fract => some "fract($0)"
  | .inverseSqrt => some "inversesqrt($0)"
  | .log => some "log($0)"
  | .log2 => some "log2($0)"
  | .radians => some "radians($0)"
  | .round => some "round($0)"
  | .roundEven => some "roundEven($0)"
  | .sign => some "sign($0)"
  | .sin => some "sin($0)"
  | .sinh => some "sinh($0)"
  | .sqrt => some "sqrt($0)"
  | .tan => some "tan($0)"
  | .tanh => some "tanh($0)"
  | .trunc => some "trunc($0)"
  | .oneMinus => some "vec3(1.0) - $0"

end VectorFunction

inductive ColorFunction
  | grayscale | sepia
  deriving DecidableEq, Repr

instance : Choice ColorFunction where
  all := [.grayscale, .sepia]
  label
    | .grayscale => "Grayscale"
    | .sepia => "Sepia"

inductive TransformFunction
  | inverse | transpose
  deriving DecidableEq, Repr

instance : Choice TransformFunction where
  all := [.inverse, .transpose]
  label
    | .inverse => "Inverse"
    | .transpose => "Transpose"

/-- Derivatives along the screen: the sum of both, or one of them. -/
inductive Derivative
  | sum | x | y
  deriving DecidableEq, Repr

instance : Choice Derivative where
  all := [.sum, .x, .y]
  label
    | .sum => "Sum"
    | .x => "X"
    | .y => "Y"

inductive FunctionNode
  | scalar (f : ScalarFunction)
  | vector (f : VectorFunction)
  | color (f : ColorFunction)
  | transform (f : TransformFunction)
  | scalarDerivative (f : Derivative)
  | vectorDerivative (f : Derivative)
  deriving DecidableEq, Repr

namespace FunctionNode

def kind : FunctionNode → String
  | .scalar _ => "scalar_func"
  | .vector _ => "vector_func"
  | .color _ => "color_func"
  | .transform _ => "transform_func"
  | .scalarDerivative _ => "scalar_derivative_func"
  | .vectorDerivative _ => "vector_derivative_func"

def caption : FunctionNode → String
  | .scalar _ => "ScalarFunc"
  | .vector _ => "VectorFunc"
  | .color _ => "ColorFunc"
  | .transform _ => "TransformFunc"
  | .scalarDerivative _ => "ScalarDerivativeFunc"
  | .vectorDerivative _ => "VectorDerivativeFunc"

/-- The type of the operand and of the result. -/
def type : FunctionNode → PortType
  | .scalar _ | .scalarDerivative _ => .scalar
  | .vector _ | .color _ | .vectorDerivative _ => .vector3
  | .transform _ => .transform

def inputs : FunctionNode → List Port
  | .scalar _ | .scalarDerivative _ => [.scalarInput "" .zero]
  | .vector _ | .color _ | .vectorDerivative _ => [.vectorInput "" .zero]
  | .transform _ => [.transformInput ""]

def outputs (n : FunctionNode) : List Port := [.output "" n.type]

def slots : FunctionNode → List (ParamSlot FunctionNode)
  | .scalar f => [.choice "function" f .scalar]
  | .vector f => [.choice "function" f .vector]
  | .color f => [.choice "function" f .color]
  | .transform f => [.choice "function" f .transform]
  | .scalarDerivative f => [.choice "function" f .scalarDerivative]
  | .vectorDerivative f => [.choice "function" f .vectorDerivative]

/-- Derivatives exist from the fragment stage on. -/
def isPermitted (n : FunctionNode) (stage : Stage) : Bool :=
  match n with
  | .scalarDerivative _ | .vectorDerivative _ => stage ≠ .vertex
  | _ => true

def apply (function a : String) : String := function ++ "(" ++ a ++ ")"

def derivativeName : Derivative → String
  | .sum => "fwidth"
  | .x => "dFdx"
  | .y => "dFdy"

def rgbToHsv (out a : String) : List Statement :=
  Statement.scope
    [.define 1 "vec3" "c" a,
     .define 1 "vec4" "K" "vec4(0.0, -1.0 / 3.0, 2.0 / 3.0, -1.0)",
     .define 1 "vec4" "p" "mix(vec4(c.bg, K.wz), vec4(c.gb, K.xy), step(c.b, c.g))",
     .define 1 "vec4" "q" "mix(vec4(p.xyw, c.r), vec4(c.r, p.yzx), step(p.x, c.r))",
     .define 1 "float" "d" "q.x - min(q.w, q.y)",
     .define 1 "float" "e" "1.0e-10",
     .assign 1 out "vec3(abs(q.z + (q.w - q.y) / (6.0 * d + e)), d / (q.x + e), q.x)"]

def hsvToRgb (out a : String) : List Statement :=
  Statement.scope
    [.define 1 "vec3" "c" a,
     .define 1 "vec4" "K" "vec4(1.0, 2.0 / 3.0, 1.0 / 3.0, 3.0)",
     .define 1 "vec3" "p" "abs(fract(c.xxx + K.xyz) * 6.0 - K.www)",
     .assign 1 out "c.z * mix(K.xxx, clamp(p - K.xxx, 0.0, 1.0), c.y)"]

def vectorBody (f : VectorFunction) (out a : String) : List Statement :=
  match f.template? with
  | some template => [.assign 0 out (Formula.substitute template [a])]
  | none => if f = .rgbToHsv then rgbToHsv out a else hsvToRgb out a

def grayscale (out a : String) : List Statement :=
  Statement.scope
    [.define 1 "vec3" "c" a,
     .define 1 "float" "max1" "max(c.r, c.g)",
     .define 1 "float" "max2" "max(max1, c.b)",
     .assign 1 out "vec3(max2, max2, max2)"]

def sepia (out a : String) : List Statement :=
  Statement.scope
    [.define 1 "vec3" "c" a,
     .define 1 "float" "r" "(c.r * 0.393) + (c.g * 0.769) + (c.b * 0.189)",
     .define 1 "float" "g" "(c.r * 0.349) + (c.g * 0.686) + (c.b * 0.168)",
     .define 1 "float" "b" "(c.r * 0.272) + (c.g * 0.534) + (c.b * 0.131)",
     .assign 1 out "vec3(r, g, b)"]

def statements (n : FunctionNode) (out a : String) : List Statement :=
  match n with
  | .scalar f => [.assign 0 out (Formula.substitute f.template [a])]
  | .vector f => vectorBody f out a
  | .color .grayscale => grayscale out a
  | .color .sepia => sepia out a
  | .transform .inverse => [.assign 0 out (apply "inverse" a)]
  | .transform .transpose => [.assign 0 out (apply "transpose" a)]
  | .scalarDerivative f | .vectorDerivative f => [.assign 0 out (apply (derivativeName f) a)]

def body (n : FunctionNode) (operands results : List String) : Except BodyError (List Statement) := do
  return n.statements (← operand results 0) (← operand operands 0)

end FunctionNode

end ShadeGraph
