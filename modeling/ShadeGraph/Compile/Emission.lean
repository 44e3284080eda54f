import ShadeGraph.Compile.Diagnostic
import ShadeGraph.Graph.Design

/-!
# Emission of nodes

An emission is all that one node adds to a shader. A stage emits the closure of a node in order, or it fails
as a whole.
-/

namespace ShadeGraph

/-- What is handed to a node for one of its inputs. -/
inductive Operand
  /-- The variable of the port at the source of an edge, spread over a vector if `widened`. -/
  | wire (edge : Edge) (widened : Bool)
  | sampler (name : String)
  | hint (expression : String)
  | literal (text : String)
  | absent
  deriving DecidableEq, Repr

def Operand.text : Operand → String
  | .wire edge widened =>
    let source := outputVariable edge.source edge.output
    if widened then "vec3(" ++ source ++ ")" else source
  | .sampler name => name
  | .hint expression => expression
  | .literal text => text
  | .absent => ""

structure LocalVariable where
  type : PortType
  name : String
  deriving DecidableEq, Repr

def LocalVariable.declaration (v : LocalVariable) : String :=
  "\t" ++ v.type.keyword ++ " " ++ v.name ++ ";\n"

structure Emission where
  id : NodeId
  kind : String
  caption : String
  operands : List Operand
  locals : List LocalVariable
  code : List Statement
  declarations : String
  helpers : String
  prologues : PerStage String
  uniformName? : Option String
  bindings : List Binding
  warnings : List Diagnostic

namespace Emission

/-- A line of code inside the scope of a node; an empty one stays empty. -/
def scopedLine (line : List Char) : String :=
  if line.isEmpty then "\n" else "\t\t" ++ String.ofList line ++ "\n"

/-- A scope around code; without code there is none. -/
def scope (code : String) : String :=
  if code.isEmpty then ""
  else "\t\x7b\n" ++ Text.concat ((Text.lines code.toList).map scopedLine) ++ "\t\x7d\n"

/-- What a node adds to the function of its stage: its variables, then its code. A node with neither adds
nothing. -/
def block (e : Emission) : String :=
  let code := Statement.renderAll e.code
  if e.locals.isEmpty && code.isEmpty then ""
  else "\t// " ++ e.caption ++ ":" ++ e.id.text ++ "\n" ++
    Text.concat (e.locals.map LocalVariable.declaration) ++ scope code

end Emission

inductive StageFailure
  | order (cause : OrderError)
  | missing (id : NodeId)
  | notPermitted (id : NodeId) (caption : String) (mode : Mode)
  /-- An input reads from nothing. -/
  | unreadable (id : NodeId) (input : String)
  | typeMismatch (id : NodeId) (input : String) (type : PortType) (source : NodeId)
  | default (id : NodeId) (input : String) (cause : LiteralError)
  | body (id : NodeId) (caption : String) (cause : BodyError)
  deriving DecidableEq, Repr

namespace StageFailure

def node : StageFailure → NodeId
  | .order (.cycle id) => id
  | .order (.dangling edge) => edge.target
  | .missing id | .notPermitted id _ _ | .unreadable id _ | .typeMismatch id _ _ _ | .default id _ _
  | .body id _ _ => id

def kind : StageFailure → DiagnosticKind
  | .order (.cycle _) => .cycle
  | .order (.dangling _) | .missing _ | .unreadable _ _ => .danglingEdge
  | .notPermitted _ _ _ => .invalidMode
  | .typeMismatch _ _ _ _ => .typeMismatch
  | .default _ _ _ | .body _ _ (.literal _) => .literal
  | .body _ _ _ => .node

def message (stage : Stage) : StageFailure → String
  | .order cause => cause.message
  | .missing id => "node " ++ id.text ++ " does not exist"
  | .notPermitted _ caption mode =>
    caption ++ " is not available in the " ++ stage.name ++ " stage of " ++ mode.shaderType ++ " shaders"
  | .unreadable _ input => "input " ++ input ++ " reads from a missing node or port"
  | .typeMismatch _ input type source =>
    "input " ++ input ++ " cannot read a " ++ type.keyword ++ " from node " ++ source.text
  | .default _ input cause => "input " ++ input ++ ": " ++ cause.message
  | .body _ caption cause => caption ++ ": " ++ cause.message

def diagnostic (stage : Stage) (f : StageFailure) : Diagnostic :=
  .located f.kind (f.message stage) stage f.node

end StageFailure

namespace StageGraph

variable {ν : Type} [NodeModel ν]

/-- What an input port gets through an edge. -/
def wired (g : StageGraph ν) (ctx : EmitContext) (port : Port) (e : Edge) : Except StageFailure Operand :=
  match g.node? e.source, g.outputType? e.source e.output with
  | some source, some type =>
    if !port.accepts type then .error (.typeMismatch ctx.id port.name type e.source)
    else if type.isSampler then
      .ok (.sampler ((NodeModel.samplerName? source { ctx with id := e.source } e.output).getD ""))
    else .ok (.wire e (type = .scalar && port.type = .vector3))
  | _, _ => .error (.unreadable ctx.id port.name)

/-- What an input port gets that nothing feeds: a hint of the stage, else its default. -/
def unwired (n : PlacedNode ν) (ctx : EmitContext) (index : Nat) (port : Port) : Except StageFailure Operand :=
  match port.hint?.filter (·.appliesTo ctx.stage) with
  | some hint => .ok (.hint hint.expression)
  | none =>
    match n.default? index with
    | none => .ok .absent
    | some value => (value.literal.map .literal).mapError (.default ctx.id port.name)

def operandAt (g : StageGraph ν) (n : PlacedNode ν) (ctx : EmitContext) (index : Nat) (port : Port) :
    Except StageFailure Operand :=
  match g.reading? ctx.id index with
  | some e => g.wired ctx port e
  | none => unwired n ctx index port

def operands (g : StageGraph ν) (n : PlacedNode ν) (ctx : EmitContext) : Except StageFailure (List Operand) :=
  ((NodeModel.inputs n.node).zipIdx).mapM fun (port, index) => g.operandAt n ctx index port

end StageGraph

section

variable {ν : Type} [NodeModel ν]

/-- The variable of each output port; samplers have none. -/
def resultVariables (id : NodeId) (n : ν) : List (Option LocalVariable) :=
  ((NodeModel.outputs n).zipIdx).map fun (port, index) =>
    if port.type.isSampler then none else some ⟨port.type, outputVariable id index⟩

def nodeWarnings (n : ν) (ctx : EmitContext) : List Diagnostic :=
  ((NodeModel.warning? n ctx.mode ctx.stage).map fun text =>
      Diagnostic.located .nodeWarning text ctx.stage ctx.id).toList ++
    ((NodeModel.restriction? n ctx).map fun text =>
      Diagnostic.located .stageRestriction text ctx.stage ctx.id).toList

namespace StageGraph

/-- The emission of a node; nodes that contribute to file scope only have none. -/
def emitNode (g : StageGraph ν) (ctx : EmitContext) : Except StageFailure (Option Emission) :=
  match g.placed? ctx.id with
  | none => .error (.missing ctx.id)
  | some placed => do
    let n := placed.node
    if !NodeModel.isPermitted n ctx.mode ctx.stage then
      throw (.notPermitted ctx.id (NodeModel.caption n) ctx.mode)
    if NodeModel.isGlobal n then return none
    let operands ← g.operands placed ctx
    let results := resultVariables ctx.id n
    let code ← (NodeModel.body n ctx (operands.map Operand.text)
      (results.map fun v => (v.map LocalVariable.name).getD "")).mapError (.body ctx.id (NodeModel.caption n))
    return some {
      id := ctx.id
      kind := NodeModel.kind n
      caption := NodeModel.caption n
      operands
      locals := results.filterMap id
      code
      declarations := NodeModel.declarations n ctx
      helpers := NodeModel.helpers n ctx
      prologues := .ofFn (NodeModel.prologue n ctx)
      uniformName? := NodeModel.uniformName? n
      bindings := NodeModel.bindings n ctx
      warnings := nodeWarnings n ctx }

end StageGraph

def Design.emit (d : Design ν) (preview : Bool) (stage : Stage) (root : NodeId) :
    Except StageFailure (List Emission) := do
  let g := d.graph stage
  let order ← (g.order root).mapError .order
  let emissions ← order.mapM fun id => g.emitNode ⟨d.mode, stage, id, preview⟩
  return emissions.filterMap id

end

end ShadeGraph
