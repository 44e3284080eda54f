import ShadeGraph.Node.Model

/-! # Comparison and selection -/

namespace ShadeGraph

/-- The default tolerance of comparisons: the number nearest to 0.00001. -/
def tolerance : Single := .ofBits 0x3727C5AC

/-- The numbers that are not finite, by class. -/
inductive FloatClass
  | inf | nan
  deriving DecidableEq, Repr

instance : Choice FloatClass where
  all := [.inf, .nan]
  label
    | .inf => "Inf"
    | .nan => "NaN"

inductive ComparedType
  | scalar | vector | boolean | transform
  deriving DecidableEq, Repr

instance : Choice ComparedType where
  all := [.scalar, .vector, .boolean, .transform]
  label
    | .scalar => "Scalar"
    | .vector => "Vector"
    | .boolean => "Boolean"
    | .transform => "Transform"

inductive Relation
  | equal | notEqual | greater | greaterEqual | less | lessEqual
  deriving DecidableEq, Repr

instance : Choice Relation where
  all := [.equal, .notEqual, .greater, .greaterEqual, .less, .lessEqual]
  label
    | .equal => "a == b"
    | .notEqual => "a != b"
    | .greater => "a > b"
    | .greaterEqual => "a >= b"
    | .less => "a < b"
    | .lessEqual => "a <= b"

namespace Relation

def symbol : Relation → String
  | .equal => "=="
  | .notEqual => "!="
  | .greater => ">"
  | .greaterEqual => ">="
  | .less => "<"
  | .lessEqual => "<="

/-- The function that compares vectors by components. -/
def vectorFunction : Relation → String
  | .equal => "equal"
  | .notEqual => "notEqual"
  | .greater => "greaterThan"
  | .greaterEqual => "greaterThanEqual"
  | .less => "lessThan"
  | .lessEqual => "lessThanEqual"

def isEquality : Relation → Bool
  | .equal | .notEqual => true
  | _ => false

end Relation

/-- Whether all components of a vector have to satisfy a relation, or any. -/
inductive Quantifier
  | all | any
  deriving DecidableEq, Repr

instance : Choice Quantifier where
  all := [.all, .any]
  label
    | .all => "All"
    | .any => "Any"

def Quantifier.function : Quantifier → String
  | .all => "all"
  | .any => "any"

structure Comparison where
  type : ComparedType := .scalar
  relation : Relation := .equal
  quantifier : Quantifier := .all
  deriving DecidableEq, Repr

namespace Comparison

/-- Scalars are compared for equality within a tolerance. -/
def hasTolerance (c : Comparison) : Bool :=
  c.type = .scalar && c.relation.isEquality

/-- Booleans and transforms have no order. -/
def isInvalid (c : Comparison) : Bool :=
  (c.type = .boolean || c.type = .transform) && !c.relation.isEquality

def operandPort (c : Comparison) (name : String) : Port :=
  match c.type with
  | .scalar => .scalarInput name .zero
  | .vector => .vectorInput name .zero
  | .boolean => .booleanInput name false
  | .transform => .transformInput name

def inputs (c : Comparison) : List Port :=
  [c.operandPort "a", c.operandPort "b"] ++
    if c.hasTolerance then [.scalarInput "tolerance" tolerance] else []

def slots (c : Comparison) : List (ParamSlot Comparison) :=
  [.choice "type" c.type fun type => { c with type },
   .choice "function" c.relation fun relation => { c with relation },
   .choice "condition" c.quantifier fun quantifier => { c with quantifier }]

def warning? (c : Comparison) : Option String :=
  if c.isInvalid then some "Invalid comparison function for that type." else none

def vectorBody (c : Comparison) (out a b : String) : List Statement :=
  Statement.scope
    [.define 1 "bvec3" "_bv" (c.relation.vectorFunction ++ "(" ++ a ++ ", " ++ b ++ ")"),
     .assign 1 out (c.quantifier.function ++ "(_bv)")]

def nearness (a b tolerance : String) : String :=
  "(abs(" ++ a ++ " - " ++ b ++ ") < " ++ tolerance ++ ")"

def body (c : Comparison) (operands results : List String) : Except BodyError (List Statement) := do
  let out ← operand results 0
  if c.isInvalid then return [.assign 0 out "false"]
  let a ← operand operands 0
  let b ← operand operands 1
  if c.type = .vector then return c.vectorBody out a b
  if c.hasTolerance then
    let near := nearness a b (← operand operands 2)
    return [.assign 0 out (if c.relation = .equal then near else "!" ++ near)]
  return [.assign 0 out (a ++ " " ++ c.relation.symbol ++ " " ++ b)]

end Comparison

inductive LogicNode
  /-- Three ways by the order of two scalars. -/
  | order
  | vectorSwitch
  | scalarSwitch
  | floatTest (tested : FloatClass)
  | compare (comparison : Comparison)
  /-- The falloff between a normal and a view direction. -/
  | fresnel
  deriving DecidableEq, Repr

namespace LogicNode

def kind : LogicNode → String
  | .order => "if"
  | .vectorSwitch => "vector_switch"
  | .scalarSwitch => "scalar_switch"
  | .floatTest _ => "is"
  | .compare _ => "compare"
  | .fresnel => "fresnel"

def caption : LogicNode → String
  | .order => "If"
  | .vectorSwitch => "VectorSwitch"
  | .scalarSwitch => "ScalarSwitch"
  | .floatTest _ => "Is"
  | .compare _ => "Compare"
  | .fresnel => "Fresnel"

def inputs : LogicNode → List Port
  | .order =>
    [.scalarInput "a" .zero, .scalarInput "b" .zero, .scalarInput "tolerance" tolerance,
     .vectorInput "a == b" .zero, .vectorInput "a > b" .zero, .vectorInput "a < b" .zero]
  | .vectorSwitch =>
    [.booleanInput "value" false, .vectorInput "true" (.splat .one), .vectorInput "false" .zero]
  | .scalarSwitch =>
    [.booleanInput "value" false, .scalarInput "true" .one, .scalarInput "false" .zero]
  | .floatTest _ => [.scalarInput "" .zero]
  | .compare c => c.inputs
  | .fresnel =>
    [.input "normal" .vector3, .input "view" .vector3, .booleanInput "invert" false,
     .scalarInput "power" .one]

def outputs : LogicNode → List Port
  | .order | .vectorSwitch => [.output "result" .vector3]
  | .scalarSwitch | .fresnel => [.output "result" .scalar]
  | .floatTest _ => [.output "" .boolean]
  | .compare _ => [.output "result" .boolean]

def slots : LogicNode → List (ParamSlot LogicNode)
  | .floatTest tested => [.choice "function" tested .floatTest]
  | .compare c => c.slots.map (·.map .compare)
  | _ => []

def isPermitted (n : LogicNode) (mode : Mode) (stage : Stage) : Bool :=
  match n with
  | .fresnel => mode = .spatial && stage ≠ .vertex
  | _ => true

def warning? : LogicNode → Option String
  | .compare c => c.warning?
  | _ => none

/-- Assigns one of three values: as `a` is near `b`, below it or above it. -/
def orderBody (out a b near equal greater less : String) : List Statement :=
  [.line 0 ("if (abs(" ++ a ++ " - " ++ b ++ ") < " ++ near ++ ") \x7b"),
   .assign 1 out equal,
   .line 0 ("\x7d else if (" ++ a ++ " < " ++ b ++ ") \x7b"),
   .assign 1 out less,
   .line 0 "\x7d else \x7b",
   .assign 1 out greater,
   .line 0 "\x7d"]

def switchBody (out value onTrue onFalse : String) : List Statement :=
  [.line 0 ("if (" ++ value ++ ") \x7b"),
   .assign 1 out onTrue,
   .line 0 "\x7d else \x7b",
   .assign 1 out onFalse,
   .line 0 "\x7d"]

def fresnelExpression (normal view invert power : String) : String :=
  let facing :=
    "clamp(dot(" ++ operandOr normal "NORMAL" ++ ", " ++ operandOr view "VIEW" ++ "), 0.0, 1.0)"
  invert ++ " ? pow(" ++ facing ++ ", " ++ power ++ ") : pow(1.0 - " ++ facing ++ ", " ++ power ++ ")"

def floatTestFunction : FloatClass → String
  | .inf => "isinf"
  | .nan => "isnan"

def body (n : LogicNode) (operands results : List String) : Except BodyError (List Statement) := do
  match n with
  | .order =>
    return orderBody (← operand results 0) (← operand operands 0) (← operand operands 1)
      (← operand operands 2) (← operand operands 3) (← operand operands 4) (← operand operands 5)
  | .vectorSwitch | .scalarSwitch =>
    return switchBody (← operand results 0) (← operand operands 0) (← operand operands 1)
      (← operand operands 2)
  | .floatTest tested =>
    return [.assign 0 (← operand results 0)
      (floatTestFunction tested ++ "(" ++ (← operand operands 0) ++ ")")]
  | .compare c => c.body operands results
  | .fresnel =>
    return [.assign 0 (← operand results 0) (fresnelExpression (← operand operands 0)
      (← operand operands 1) (← operand operands 2) (← operand operands 3))]

end LogicNode

end ShadeGraph
