import ShadeGraph.Node.Constant
import ShadeGraph.Node.Expression
import ShadeGraph.Node.Function
import ShadeGraph.Node.Logic
import ShadeGraph.Node.Operator
import ShadeGraph.Node.Terminal
import ShadeGraph.Node.Texture
import ShadeGraph.Node.Uniform

/-! # The standard nodes -/

namespace ShadeGraph

inductive StandardNode
  | output (node : OutputNode)
  | input (node : InputNode)
  | constant (node : Constant)
  | operator (node : Operator)
  | function (node : FunctionNode)
  | formula (node : StandardFormula)
  | logic (node : LogicNode)
  | uniform (node : UniformNode)
  | texture (node : TextureNode)
  | cubeMap (node : CubeMapNode)
  | expression (node : ExpressionNode)
  | globalExpression (node : GlobalExpression)
  deriving DecidableEq, Repr

namespace StandardNode

def kind : StandardNode → String
  | .output _ => "output"
  | .input _ => "input"
  | .constant n => n.kind
  | .operator n => n.kind
  | .function n => n.kind
  | .formula n => n.formula.kind
  | .logic n => n.kind
  | .uniform n => n.kind
  | .texture _ => "texture"
  | .cubeMap _ => "cubemap"
  | .expression _ => "expression"
  | .globalExpression _ => "global_expression"

def caption : StandardNode → String
  | .output _ => "Output"
  | .input _ => "Input"
  | .constant n => n.caption
  | .operator n => n.caption
  | .function n => n.caption
  | .formula n => n.formula.caption
  | .logic n => n.caption
  | .uniform n => n.caption
  | .texture _ => "Texture"
  | .cubeMap _ => "CubeMap"
  | .expression _ => "Expression"
  | .globalExpression _ => "GlobalExpression"

def category : StandardNode → Category
  | .output _ => .output
  | .input _ => .input
  | .constant _ => .constant
  | .operator _ => .operator
  | .function _ => .function
  | .formula n => n.formula.category
  | .logic _ => .logic
  | .uniform _ => .uniform
  | .texture _ | .cubeMap _ => .texture
  | .expression _ | .globalExpression _ => .expression

def inputs : StandardNode → List Port
  | .output n => n.inputs
  | .operator n => n.inputs
  | .function n => n.inputs
  | .formula n => n.formula.inputPorts
  | .logic n => n.inputs
  | .uniform n => n.inputs
  | .texture n => n.inputs
  | .cubeMap n => n.inputs
  | .expression n => n.inputPorts
  | .input _ | .constant _ | .globalExpression _ => []

def outputs : StandardNode → List Port
  | .input n => n.outputs
  | .constant n => n.outputs
  | .operator n => n.outputs
  | .function n => n.outputs
  | .formula n => n.formula.outputPorts
  | .logic n => n.outputs
  | .uniform n => n.outputs
  | .texture n => n.outputs
  | .cubeMap n => n.outputs
  | .expression n => n.outputPorts
  | .output _ | .globalExpression _ => []

def slots : StandardNode → List (ParamSlot StandardNode)
  | .input n => n.slots.map (·.map .input)
  | .constant n => n.slots.map (·.map .constant)
  | .operator n => n.slots.map (·.map .operator)
  | .function n => n.slots.map (·.map .function)
  | .logic n => n.slots.map (·.map .logic)
  | .uniform n => n.slots.map (·.map .uniform)
  | .texture n => n.slots.map (·.map .texture)
  | .cubeMap n => n.slots.map (·.map .cubeMap)
  | .expression n => n.slots.map (·.map .expression)
  | .globalExpression n => n.slots.map (·.map .globalExpression)
  | .output _ | .formula _ => []

/-- Only input and output nodes depend on where they stand. -/
def bind (mode : Mode) (stage : Stage) : StandardNode → StandardNode
  | .output _ => .output ⟨mode, stage⟩
  | .input n => .input { n with mode, stage }
  | n => n

def isPermitted (n : StandardNode) (mode : Mode) (stage : Stage) : Bool :=
  match n with
  | .function n => n.isPermitted stage
  | .formula n => n.formula.isPermitted stage
  | .logic n => n.isPermitted mode stage
  | .uniform n => n.isPermitted mode
  | _ => true

def isGlobal : StandardNode → Bool
  | .globalExpression _ => true
  | _ => false

def uniformName? : StandardNode → Option String
  | .uniform n => some n.name
  | _ => none

def declarations (n : StandardNode) (ctx : EmitContext) : String :=
  match n with
  | .uniform n => n.declarations
  | .texture n => n.declarations ctx
  | .cubeMap n => n.declarations ctx
  | .globalExpression n => n.declarations
  | _ => ""

def helpers : StandardNode → String
  | .uniform n => n.helpers
  | _ => ""

def prologue (n : StandardNode) (function : Stage) : String :=
  match n with
  | .uniform n => n.prologue function
  | _ => ""

/-- The sampler of an output port; an input node has one output, so its port does not matter. -/
def samplerName? (n : StandardNode) (ctx : EmitContext) (port : Nat) : Option String :=
  match n with
  | .input n => n.samplerName? ctx
  | .uniform n => n.samplerName? port
  | _ => none

def bindings (n : StandardNode) (ctx : EmitContext) : List Binding :=
  match n with
  | .uniform n => n.bindings
  | .texture n => n.bindings ctx
  | .cubeMap n => n.bindings ctx
  | _ => []

def warning? (n : StandardNode) (mode : Mode) (stage : Stage) : Option String :=
  match n with
  | .input n => n.warning? mode stage
  | .logic n => n.warning?
  | .texture n => n.warning? mode stage
  | _ => none

def restriction? (n : StandardNode) (ctx : EmitContext) : Option String :=
  match n with
  | .input n => n.restriction? ctx
  | .texture n => n.restriction? ctx
  | _ => none

def body (n : StandardNode) (ctx : EmitContext) (operands results : List String) :
    Except BodyError (List Statement) :=
  match n with
  | .output n => .ok (n.body operands)
  | .input n => n.body ctx results
  | .constant n => n.body results
  | .operator n => n.body operands results
  | .function n => n.body operands results
  | .formula n => .ok (n.formula.body operands results)
  | .logic n => n.body operands results
  | .uniform n => n.body operands results
  | .texture n => n.body ctx operands results
  | .cubeMap n => n.body ctx operands results
  | .expression n => .ok (n.body operands results)
  | .globalExpression _ => .ok []

instance : NodeModel StandardNode where
  kind := kind
  caption := caption
  category := category
  inputs := inputs
  outputs := outputs
  slots := slots
  bind := bind
  isPermitted := isPermitted
  isGlobal := isGlobal
  uniformName? := uniformName?
  declarations := declarations
  helpers n _ := n.helpers
  prologue n _ := n.prologue
  samplerName? := samplerName?
  bindings := bindings
  warning? := warning?
  restriction? := restriction?
  body := body

instance : HasTerminal StandardNode where
  terminal := .output {}

/-- One fresh node of every kind that may be added to a graph, in the order of menus. -/
def prototypes : List StandardNode :=
  ([.input {},
   .constant (.scalar .zero), .constant (.boolean false), .constant (.color .white), .constant (.vector .zero),
   .constant (.transform .identity),
   .operator (.scalar .add), .operator (.vector .add), .operator (.color .screen),
   .operator (.transform .ab), .operator (.transformVector .ab),
   .function (.scalar .sign), .function (.vector .normalize), .function (.color .grayscale),
   .function (.transform .inverse), .function (.scalarDerivative .sum), .function (.vectorDerivative .sum)] :
    List StandardNode) ++
  StandardFormula.all.map .formula ++
  ([.logic .order, .logic .vectorSwitch, .logic .scalarSwitch, .logic (.floatTest .inf), .logic (.compare {}),
   .logic .fresnel,
   .uniform (.value { type := .scalar }), .uniform (.value { type := .boolean }),
   .uniform (.value { type := .color }), .uniform (.value { type := .vector }),
   .uniform (.value { type := .transform }),
   .uniform (.texture { triplanar := false }), .uniform (.texture { triplanar := true }), .uniform (.cubeMap {}),
   .texture {}, .cubeMap {},
   .expression {}, .globalExpression {}] : List StandardNode)

end StandardNode

end ShadeGraph
