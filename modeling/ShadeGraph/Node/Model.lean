import ShadeGraph.Node.Code
import ShadeGraph.Param.Slot
import ShadeGraph.Port
import ShadeGraph.Shader.Mode
import ShadeGraph.Uniform.Binding
import ShadeGraph.Value.Literal

/-!
# Node models

`NodeModel ν` says what the members of `ν` are as nodes of a shader graph: their ports, parameters and
places, and the code they contribute. Graphs, documents and the compiler work for every model.
-/

namespace ShadeGraph

/-- The number of a node within its stage. -/
abbrev NodeId := UInt32

namespace NodeId

/-- The output node of every stage. -/
def output : NodeId := 0

/-- The least number of any other node. -/
def firstUser : NodeId := 2

def greatest : NodeId := 4294967295

def text (id : NodeId) : String := Nat.repr id.toNat

end NodeId

/-- The variable that holds an output port of a node. -/
def outputVariable (id : NodeId) (port : Nat) : String :=
  "n" ++ id.text ++ "_" ++ Nat.repr port

inductive Category
  | input
  | output
  | constant
  | operator
  | function
  | interpolation
  | logic
  | uniform
  | texture
  | expression
  deriving DecidableEq, Repr

namespace Category

def all : List Category :=
  [.input, .output, .constant, .operator, .function, .interpolation, .logic, .uniform, .texture, .expression]

def name : Category → String
  | .input => "Input"
  | .output => "Output"
  | .constant => "Constant"
  | .operator => "Operator"
  | .function => "Function"
  | .interpolation => "Interpolation"
  | .logic => "Logic"
  | .uniform => "Uniform"
  | .texture => "Texture"
  | .expression => "Expression"

def ofName? (name : String) : Option Category := all.find? (·.name = name)

end Category

/-- Where a node is emitted, and whether for a preview. -/
structure EmitContext where
  mode : Mode
  stage : Stage
  id : NodeId
  preview : Bool
  deriving DecidableEq, Repr

/-- An identifier that no other node of the shader has. -/
def EmitContext.ownName (ctx : EmitContext) (base : String) : String :=
  base ++ "_" ++ ctx.stage.tag ++ "_" ++ ctx.id.text

inductive BodyError
  | literal (cause : LiteralError)
  | refused (reason : String)
  /-- Fewer operands or results were given than the node has ports. -/
  | arity
  deriving DecidableEq, Repr

def BodyError.message : BodyError → String
  | .literal cause => cause.message
  | .refused reason => reason
  | .arity => "too few operands"

/-- The operand, or the result, of a port. -/
def operand (operands : List String) (port : Nat) : Except BodyError String :=
  match operands[port]? with
  | some text => .ok text
  | none => .error .arity

/-- An operand, or what stands in for an empty one. -/
def operandOr (text fallback : String) : String :=
  if text.isEmpty then fallback else text

def literalOf {α : Type} (text : Except LiteralError α) : Except BodyError α :=
  text.mapError .literal

class NodeModel (ν : Type) where
  /-- The key of the node's kind. -/
  kind : ν → String
  caption : ν → String
  category : ν → Category
  inputs : ν → List Port
  outputs : ν → List Port
  slots : ν → List (ParamSlot ν)
  /-- Sets a parameter without a check against the schema. -/
  setParam : ν → String → ParamValue → Except ParamError ν :=
    fun n name value => ParamSlot.assign (slots n) (kind n) name value
  /-- Tells the node the mode and stage it stands in. -/
  bind : Mode → Stage → ν → ν
  isPermitted : ν → Mode → Stage → Bool
  /-- Whether the node contributes to file scope only, connected or not. -/
  isGlobal : ν → Bool
  uniformName? : ν → Option String
  /-- Uniforms and the like, at file scope. -/
  declarations : ν → EmitContext → String
  /-- Functions, at file scope. -/
  helpers : ν → EmitContext → String
  /-- Code at the start of a function, once for each kind. -/
  prologue : ν → EmitContext → Stage → String
  /-- What a sampler output hands on. -/
  samplerName? : ν → EmitContext → Nat → Option String
  bindings : ν → EmitContext → List Binding
  warning? : ν → Mode → Stage → Option String
  /-- Why a placeholder is emitted here. -/
  restriction? : ν → EmitContext → Option String
  /-- The code that computes the outputs from one operand for each input; an operand is empty if there
  is nothing to read. Sampler outputs have an empty name. -/
  body : ν → EmitContext → List String → List String → Except BodyError (List Statement)

/-- Nodes among which there is one that every stage ends in. -/
class HasTerminal (ν : Type) where
  terminal : ν

namespace NodeModel

variable {ν : Type} [NodeModel ν]

def ports (n : ν) : Direction → List Port
  | .input => inputs n
  | .output => outputs n

def port? (n : ν) (direction : Direction) (index : Nat) : Option Port :=
  (ports n direction)[index]?

def portType? (n : ν) (direction : Direction) (index : Nat) : Option PortType :=
  (port? n direction index).map Port.type

def inputDefault? (n : ν) (index : Nat) : Option PortValue :=
  (port? n .input index).bind Port.default?

def schema (n : ν) : List ParamSpec :=
  (slots n).map ParamSlot.spec

def param? (n : ν) (name : String) : Option ParamValue :=
  (ParamSlot.find? (slots n) name).map ParamSlot.value

/-- The parameters in the order of the schema. -/
def params (n : ν) : List (String × ParamValue) :=
  (slots n).map fun slot => (slot.spec.name, slot.value)

/-- Sets a parameter that passes the check against the schema. -/
def applyParam (n : ν) (name : String) (value : ParamValue) : Except ParamError ν := do
  ParamSpec.validate (schema n) (kind n) name value
  setParam n name value

def applyAll (n : ν) (bag : List (String × ParamValue)) : Except ParamError ν :=
  bag.foldlM (fun n (name, value) => applyParam n name value) n

end NodeModel

end ShadeGraph
