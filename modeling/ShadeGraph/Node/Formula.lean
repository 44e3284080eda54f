import ShadeGraph.Node.Model

/-!
# Formulas

A formula is a node described by a table: inputs with defaults, and for each output a template in which
`$0`, `$1`, … stand for the operands.
-/

namespace ShadeGraph

structure FormulaInput where
  name : String
  /-- Its type is the type of the port. -/
  default : PortValue
  deriving DecidableEq, Repr

/-- An input by its default. A default that agrees with the identity is the identity. -/
def FormulaInput.ofDefault (name : String) (value : PortValue) : FormulaInput :=
  let identity : PortValue := .transform .identity
  ⟨name, if value.agrees identity then identity else value⟩

structure FormulaOutput where
  name : String
  type : PortType
  template : String
  deriving DecidableEq, Repr

structure Formula where
  kind : String
  caption : String
  category : Category
  inputs : List FormulaInput
  outputs : List FormulaOutput
  /-- The stages where it may stand; none given means all. -/
  stages? : Option (List Stage) := none
  deriving DecidableEq, Repr

namespace Formula

/-- Puts the operands into a template; one that is missing leaves nothing. -/
def fill (operands : List String) : List Char → List Char
  | [] => []
  | '$' :: digit :: rest =>
    if digit.isDigit then
      (operands[digit.toNat - '0'.toNat]?.getD "").toList ++ fill operands rest
    else '$' :: fill operands (digit :: rest)
  | c :: rest => c :: fill operands rest

def substitute (template : String) (operands : List String) : String :=
  String.ofList (fill operands template.toList)

def inputPorts (f : Formula) : List Port :=
  f.inputs.map fun i => ((Port.input i.name i.default.type).withDefault i.default).broadcast

def outputPorts (f : Formula) : List Port :=
  f.outputs.map fun o => .output o.name o.type

def isPermitted (f : Formula) (stage : Stage) : Bool :=
  f.stages?.all (·.contains stage)

def body (f : Formula) (operands results : List String) : List Statement :=
  (f.outputs.zip results).map fun (output, result) =>
    .assign 0 result (substitute output.template operands)

instance : NodeModel Formula where
  kind f := f.kind
  caption f := f.caption
  category f := f.category
  inputs := inputPorts
  outputs := outputPorts
  slots _ := []
  bind _ _ f := f
  isPermitted f _ stage := f.isPermitted stage
  isGlobal _ := false
  uniformName? _ := none
  declarations _ _ := ""
  helpers _ _ := ""
  prologue _ _ _ := ""
  samplerName? _ _ _ := none
  bindings _ _ := []
  warning? _ _ _ := none
  restriction? _ _ := none
  body f _ operands results := .ok (f.body operands results)

end Formula

inductive StandardFormula
  | dotProduct
  | vectorLength
  | determinant
  | distance
  | refract
  | faceForward
  | outerProduct
  | vectorCompose
  | transformCompose
  | vectorDecompose
  | transformDecompose
  | scalarClamp
  | vectorClamp
  | vectorScalarStep
  | scalarSmoothStep
  | vectorSmoothStep
  | vectorScalarSmoothStep
  | scalarMix
  | vectorMix
  | vectorScalarMix
  deriving DecidableEq, Repr

namespace StandardFormula

def all : List StandardFormula :=
  [.dotProduct, .vectorLength, .determinant, .distance, .refract, .faceForward, .outerProduct,
   .vectorCompose, .transformCompose, .vectorDecompose, .transformDecompose, .scalarClamp, .vectorClamp,
   .vectorScalarStep, .scalarSmoothStep, .vectorSmoothStep, .vectorScalarSmoothStep, .scalarMix,
   .vectorMix, .vectorScalarMix]

def scalarIn (name : String) (value : Single) : FormulaInput := ⟨name, .scalar value⟩

def vectorIn (name : String) (component : Single) : FormulaInput :=
  ⟨name, .vector3 (.splat component)⟩

def transformIn (name : String) : FormulaInput := ⟨name, .transform .identity⟩

def function (kind caption : String) (inputs : List FormulaInput) (outputs : List FormulaOutput) :
    Formula :=
  { kind, caption, category := .function, inputs, outputs }

def interpolation (kind caption : String) (inputs : List FormulaInput) (output : FormulaOutput) :
    Formula :=
  { kind, caption, category := .interpolation, inputs, outputs := [output] }

def formula : StandardFormula → Formula
  | .dotProduct => function "dot_product" "DotProduct" [vectorIn "a" .zero, vectorIn "b" .zero]
      [⟨"dot", .scalar, "dot($0, $1)"⟩]
  | .vectorLength => function "vector_len" "VectorLen" [vectorIn "" .zero]
      [⟨"length", .scalar, "length($0)"⟩]
  | .determinant => function "determinant" "Determinant" [transformIn ""]
      [⟨"", .scalar, "determinant($0)"⟩]
  | .distance => function "vector_distance" "Distance" [vectorIn "p0" .zero, vectorIn "p1" .zero]
      [⟨"", .scalar, "distance($0, $1)"⟩]
  | .refract => function "vector_refract" "Refract"
      [vectorIn "I" .zero, vectorIn "N" .zero, scalarIn "eta" .zero]
      [⟨"", .vector3, "refract($0, $1, $2)"⟩]
  | .faceForward => function "face_forward" "FaceForward"
      [vectorIn "N" .zero, vectorIn "I" .zero, vectorIn "Nref" .zero]
      [⟨"", .vector3, "faceforward($0, $1, $2)"⟩]
  | .outerProduct => function "outer_product" "OuterProduct" [vectorIn "c" .zero, vectorIn "r" .zero]
      [⟨"", .transform, "outerProduct(vec4($0, 0.0), vec4($1, 0.0))"⟩]
  | .vectorCompose => function "vector_compose" "VectorCompose"
      [scalarIn "x" .zero, scalarIn "y" .zero, scalarIn "z" .zero]
      [⟨"vec", .vector3, "vec3($0, $1, $2)"⟩]
  | .transformCompose => function "transform_compose" "TransformCompose"
      [vectorIn "x" .zero, vectorIn "y" .zero, vectorIn "z" .zero, vectorIn "origin" .zero]
      [⟨"xform", .transform, "mat4(vec4($0, 0.0), vec4($1, 0.0), vec4($2, 0.0), vec4($3, 1.0))"⟩]
  | .vectorDecompose => function "vector_decompose" "VectorDecompose" [vectorIn "vec" .zero]
      [⟨"x", .scalar, "$0.x"⟩, ⟨"y", .scalar, "$0.y"⟩, ⟨"z", .scalar, "$0.z"⟩]
  | .transformDecompose => function "transform_decompose" "TransformDecompose" [transformIn "xform"]
      [⟨"x", .vector3, "$0[0].xyz"⟩, ⟨"y", .vector3, "$0[1].xyz"⟩, ⟨"z", .vector3, "$0[2].xyz"⟩,
       ⟨"origin", .vector3, "$0[3].xyz"⟩]
  | .scalarClamp => interpolation "scalar_clamp" "ScalarClamp"
      [scalarIn "" .zero, scalarIn "min" .zero, scalarIn "max" .one]
      ⟨"", .scalar, "clamp($0, $1, $2)"⟩
  | .vectorClamp => interpolation "vector_clamp" "VectorClamp"
      [vectorIn "" .zero, vectorIn "min" .zero, vectorIn "max" .one]
      ⟨"", .vector3, "clamp($0, $1, $2)"⟩
  | .vectorScalarStep => interpolation "vector_scalar_step" "VectorScalarStep"
      [scalarIn "edge" .zero, vectorIn "x" .zero]
      ⟨"", .vector3, "step($0, $1)"⟩
  | .scalarSmoothStep => interpolation "scalar_smooth_step" "ScalarSmoothStep"
      [scalarIn "edge0" .zero, scalarIn "edge1" .zero, scalarIn "x" .zero]
      ⟨"", .scalar, "smoothstep($0, $1, $2)"⟩
  | .vectorSmoothStep => interpolation "vector_smooth_step" "VectorSmoothStep"
      [vectorIn "edge0" .zero, vectorIn "edge1" .zero, vectorIn "x" .zero]
      ⟨"", .vector3, "smoothstep($0, $1, $2)"⟩
  | .vectorScalarSmoothStep => interpolation "vector_scalar_smooth_step" "VectorScalarSmoothStep"
      [scalarIn "edge0" .zero, scalarIn "edge1" .zero, vectorIn "x" .zero]
      ⟨"", .vector3, "smoothstep($0, $1, $2)"⟩
  | .scalarMix => interpolation "scalar_interp" "ScalarMix"
      [scalarIn "a" .zero, scalarIn "b" .one, scalarIn "weight" .half]
      ⟨"mix", .scalar, "mix($0, $1, $2)"⟩
  | .vectorMix => interpolation "vector_interp" "VectorMix"
      [vectorIn "a" .zero, vectorIn "b" .one, vectorIn "weight" .half]
      ⟨"mix", .vector3, "mix($0, $1, $2)"⟩
  | .vectorScalarMix => interpolation "vector_scalar_mix" "VectorScalarMix"
      [vectorIn "a" .zero, vectorIn "b" .one, scalarIn "weight" .half]
      ⟨"mix", .vector3, "mix($0, $1, $2)"⟩

end StandardFormula

end ShadeGraph
