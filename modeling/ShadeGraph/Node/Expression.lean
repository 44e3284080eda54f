import ShadeGraph.Node.Model

/-!
# Expression nodes

Shader code of the user's own, in a scope with declared inputs and outputs or at file scope.
-/

namespace ShadeGraph

/-- A declared port: a local variable of the user's code. -/
structure LocalPort where
  type : PortType
  name : String
  deriving DecidableEq, Repr

inductive PortListError
  | notAPair (declaration : String)
  | notAType (keyword : String)
  | notAnIdentifier (name : String)
  | unusable (name : String)
  | usedTwice (name : String)
  deriving DecidableEq, Repr

def PortListError.message : PortListError → String
  | .notAPair declaration => "`" ++ declaration ++ "` is not a `<type> <name>` pair"
  | .notAType keyword => "`" ++ keyword ++ "` is not a port type"
  | .notAnIdentifier name => "`" ++ name ++ "` is not an identifier"
  | .unusable name => "`" ++ name ++ "` cannot be used as a port"
  | .usedTwice name => "port name `" ++ name ++ "` is used twice"

/-- A letter or underscore, then letters, digits and underscores. -/
def isIdentifier (name : String) : Bool :=
  match name.toList with
  | [] => false
  | first :: rest => (first.isAlpha || first = '_') && rest.all fun c => c.isAlphanum || c = '_'

namespace LocalPort

def write (p : LocalPort) : String := p.type.keyword ++ " " ++ p.name

/-- The ports as one text, such as `float a, vec3 b`. -/
def writeAll (ports : List LocalPort) : String :=
  Text.joinWith ", " (ports.map write)

/-- Whether the port can be a local variable. -/
def isUsable (p : LocalPort) : Bool := !p.type.isSampler && isIdentifier p.name

def valueType? (keyword : String) : Option PortType :=
  (PortType.ofKeyword? keyword).filter (!·.isSampler)

def read (declaration : List Char) : Except PortListError LocalPort :=
  match Text.words declaration with
  | [keyword, name] =>
    match valueType? (String.ofList keyword) with
    | none => .error (.notAType (String.ofList keyword))
    | some type =>
      if isIdentifier (String.ofList name) then .ok ⟨type, String.ofList name⟩
      else .error (.notAnIdentifier (String.ofList name))
  | _ => .error (.notAPair (String.ofList declaration))

/-- The ports of a text; empty declarations are skipped. -/
def readAll (text : String) : Except PortListError (List LocalPort) :=
  (Text.items text.toList).mapM read

/-- Refuses ports that cannot be local variables together, given the names already seen. -/
def check (seen : List String) : List LocalPort → Except PortListError Unit
  | [] => .ok ()
  | p :: rest =>
    if !p.isUsable then .error (.unusable p.name)
    else if seen.contains p.name then .error (.usedTwice p.name)
    else check (p.name :: seen) rest

def inputPort (p : LocalPort) : Port :=
  { Port.input p.name p.type with default? := PortValue.zero? p.type }

def outputPort (p : LocalPort) : Port := .output p.name p.type

end LocalPort

/-- A scope of user code: inputs are locals set from the operands, outputs locals copied out at the end. -/
structure ExpressionNode where
  inputs : List LocalPort := []
  outputs : List LocalPort := []
  code : String := ""
  deriving DecidableEq, Repr

namespace ExpressionNode

/-- The node, if its ports can be local variables together. -/
def checked (n : ExpressionNode) : Except PortListError ExpressionNode := do
  LocalPort.check [] (n.inputs ++ n.outputs)
  return n

def setInputs (n : ExpressionNode) (text : String) : Except PortListError ExpressionNode := do
  checked { n with inputs := ← LocalPort.readAll text }

def setOutputs (n : ExpressionNode) (text : String) : Except PortListError ExpressionNode := do
  checked { n with outputs := ← LocalPort.readAll text }

def slots (n : ExpressionNode) : List (ParamSlot ExpressionNode) :=
  [.checkedText "inputs" (LocalPort.writeAll n.inputs) fun text =>
     (n.setInputs text).mapError PortListError.message,
   .checkedText "outputs" (LocalPort.writeAll n.outputs) fun text =>
     (n.setOutputs text).mapError PortListError.message,
   .text "expression" n.code fun code => { n with code }]

def inputPorts (n : ExpressionNode) : List Port := n.inputs.map LocalPort.inputPort

def outputPorts (n : ExpressionNode) : List Port := n.outputs.map LocalPort.outputPort

/-- A line of user code one step deeper; a blank one stays empty. -/
def codeLine (line : List Char) : Statement :=
  if (Text.trim line).isEmpty then .line 0 "" else .line 1 (String.ofList line)

def defineInput (p : LocalPort) (value : String) : Statement :=
  .define 0 p.type.keyword p.name (operandOr value p.type.zeroLiteral)

def defineOutput (p : LocalPort) : Statement :=
  .define 0 p.type.keyword p.name p.type.zeroLiteral

def body (n : ExpressionNode) (operands results : List String) : List Statement :=
  (n.inputs.zip operands).map (fun (p, value) => defineInput p value) ++
  n.outputs.map defineOutput ++
  Statement.scope ((Text.lines n.code.toList).map codeLine) ++
  (n.outputs.zip results).map fun (p, result) => .assign 0 result p.name

end ExpressionNode

/-- User code at file scope. -/
structure GlobalExpression where
  code : String := ""
  deriving DecidableEq, Repr

namespace GlobalExpression

def slots (n : GlobalExpression) : List (ParamSlot GlobalExpression) :=
  [.text "expression" n.code fun code => { n with code }]

/-- The code, ended by a line feed unless it is empty. -/
def declarations (n : GlobalExpression) : String :=
  match n.code.toList.getLast? with
  | none | some '\n' => n.code
  | some _ => n.code ++ "\n"

end GlobalExpression

end ShadeGraph
