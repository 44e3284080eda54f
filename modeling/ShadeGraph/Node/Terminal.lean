import ShadeGraph.Node.Model
import ShadeGraph.Shader.Builtin

/-!
# Input and output nodes

Their ports follow the built-ins of the mode and stage they are bound to.
-/

namespace ShadeGraph

/-- The node that writes the built-ins of a stage. -/
structure OutputNode where
  mode : Mode := .spatial
  stage : Stage := .fragment
  deriving DecidableEq, Repr

namespace OutputNode

def targets (n : OutputNode) : List StageBuiltin := StageBuiltin.outputs n.mode n.stage

def inputs (n : OutputNode) : List Port :=
  n.targets.map fun b => (Port.input b.name b.type).broadcast

/-- The assignment of one built-in: of `target:components` only the components are taken. -/
def assignment (target : StageBuiltin) (value : String) : Statement :=
  match Text.cutAt ':' target.expression.toList with
  | some (name, components) =>
    .assign 0 (String.ofList name) (value ++ "." ++ String.ofList components)
  | none => .assign 0 target.expression value

/-- One assignment for each operand there is; a port that nothing feeds writes nothing. -/
def body (n : OutputNode) (operands : List String) : List Statement :=
  ((n.targets.zip operands).filter fun (_, value) => !value.isEmpty).map fun (target, value) =>
    assignment target value

end OutputNode

/-- The node that reads one built-in of a stage, told by its name. -/
structure InputNode where
  name : String := "time"
  mode : Mode := .spatial
  stage : Stage := .fragment
  deriving DecidableEq, Repr

namespace InputNode

def builtin? (n : InputNode) : Option StageBuiltin :=
  StageBuiltin.find? (StageBuiltin.inputs n.mode n.stage) n.name

/-- The type of the built-in; an unknown one reads as a scalar. -/
def type (n : InputNode) : PortType :=
  (n.builtin?.map StageBuiltin.type).getD .scalar

def outputs (n : InputNode) : List Port := [.output n.name n.type]

def slots (n : InputNode) : List (ParamSlot InputNode) :=
  [.text "input_name" n.name fun name => { n with name }]

/-- What is read; in a preview a substitute, and the zero of the type where there is nothing. -/
def expression (n : InputNode) (ctx : EmitContext) : String :=
  let row := if ctx.preview then StageBuiltin.find? (StageBuiltin.substitutes n.mode n.stage) n.name
    else n.builtin?
  (row.map StageBuiltin.expression).getD n.type.zeroLiteral

/-- Whether a sampler built-in exists where previews run. -/
def previewHas (expression : String) : Bool :=
  (StageBuiltin.inputs .canvas .fragment).any fun b => b.type.isSampler && b.expression = expression

/-- A sampler built-in that a preview cannot read. -/
def isWithheld (b : StageBuiltin) (ctx : EmitContext) : Bool :=
  ctx.preview && b.type.isSampler && !previewHas b.expression

def samplerName? (n : InputNode) (ctx : EmitContext) : Option String :=
  (n.builtin?.filter (·.type.isSampler)).map fun b => if isWithheld b ctx then "" else b.expression

def restriction? (n : InputNode) (ctx : EmitContext) : Option String :=
  (n.builtin?.filter (isWithheld · ctx)).map fun b => b.expression ++ " is not available in previews"

def warning? (n : InputNode) (mode : Mode) (stage : Stage) : Option String :=
  match StageBuiltin.find? (StageBuiltin.inputs mode stage) n.name with
  | some _ => none
  | none => some ("input `" ++ n.name ++ "` does not exist in the " ++ stage.name ++ " stage of " ++
      mode.shaderType ++ " shaders")

def body (n : InputNode) (ctx : EmitContext) (results : List String) : Except BodyError (List Statement) :=
  if n.type.isSampler then .ok []
  else do return [.assign 0 (← operand results 0) (n.expression ctx)]

end InputNode

end ShadeGraph
