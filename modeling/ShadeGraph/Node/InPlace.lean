import ShadeGraph.InPlace
import ShadeGraph.Node.Standard

/-!
# Parameters set in place

A node is told a new value of a parameter and changes itself, or refuses.
-/

namespace ShadeGraph

/-- Nodes that change in place when a parameter is set. -/
class Settable (ν : Type) where
  /-- Sets a parameter without a check against the schema. -/
  store : String → ParamValue → InPlace ν ParamError Unit

/-- Sets a parameter that passes the check against the schema. -/
def storeParam {ν : Type} [NodeModel ν] [Settable ν] (name : String) (value : ParamValue) :
    InPlace ν ParamError Unit := do
  let n ← get
  ParamSpec.validate (NodeModel.schema n) (NodeModel.kind n) name value
  Settable.store name value

def ParamValue.asText (name : String) : ParamValue → Except ParamError String
  | .text content => .ok content
  | _ => .error (.wrongKind name "text")

namespace ExpressionNode

/-- Sets one list of ports, if both lists can be local variables together. -/
def storePorts (name : String) (value : ParamValue) (withPorts : List LocalPort → ExpressionNode → ExpressionNode) :
    InPlace ExpressionNode ParamError Unit := do
  let refused (e : PortListError) : ParamError := .invalid name e.message
  let ports ← (LocalPort.readAll (← value.asText name)).mapError refused
  let next := withPorts ports (← get)
  (LocalPort.check [] (next.inputs ++ next.outputs)).mapError refused
  set next

def store (name : String) (value : ParamValue) : InPlace ExpressionNode ParamError Unit := do
  if name = "inputs" then storePorts name value fun inputs n => { n with inputs }
  else if name = "outputs" then storePorts name value fun outputs n => { n with outputs }
  else if name = "expression" then
    let code ← value.asText name
    modify fun n => { n with code }
  else throw (.unknown "expression" name)

end ExpressionNode

namespace StandardNode

/-- The parameters of a kind do not depend on one another, apart from the two lists of an expression's ports. -/
def store (name : String) (value : ParamValue) : InPlace StandardNode ParamError Unit := do
  match ← get with
  | .expression n => InPlace.onPart n (fun left _ => .expression left) id (ExpressionNode.store name value)
  | n =>
    let next ← ParamSlot.assign n.slots n.kind name value
    set next

instance : Settable StandardNode := ⟨store⟩

end StandardNode

end ShadeGraph
