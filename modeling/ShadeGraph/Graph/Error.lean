import ShadeGraph.Graph.Edge

/-! # Why an edit is refused -/

namespace ShadeGraph

inductive GraphError
  | cycle (source target : NodeId)
  | typeMismatch (source target : PortType)
  | alreadyConnected (id : NodeId) (port : Nat)
  | missingNode (stage : Stage) (id : NodeId)
  | missingPort (id : NodeId) (direction : Direction) (port : Nat)
  | missingEdge (edge : Edge)
  | unknownKind (kind : String)
  | notPermitted (what : String) (mode : Mode)
  | literal (cause : LiteralError)
  | reserved (id : NodeId)
  | idInUse (stage : Stage) (id : NodeId)
  | param (cause : ParamError)
  deriving DecidableEq, Repr

def GraphError.message : GraphError → String
  | .cycle source target => "connecting " ++ source.text ++ " -> " ++ target.text ++ " would create a cycle"
  | .typeMismatch source target =>
    "cannot connect a " ++ source.name ++ " output to a " ++ target.name ++ " input"
  | .alreadyConnected id port =>
    "input port " ++ Nat.repr port ++ " of node " ++ id.text ++ " is already connected"
  | .missingNode stage id => "node " ++ id.text ++ " does not exist in the " ++ stage.name ++ " stage"
  | .missingPort id direction port =>
    "node " ++ id.text ++ " has no " ++ direction.name ++ " port " ++ Nat.repr port
  | .missingEdge edge => "no connection " ++ edge.text
  | .unknownKind kind => "unknown node kind `" ++ kind ++ "`"
  | .notPermitted what mode => "`" ++ what ++ "` is not permitted in " ++ mode.shaderType ++ " mode"
  | .literal cause => cause.message
  | .reserved id => "node id " ++ id.text ++ " is reserved"
  | .idInUse stage id => "node id " ++ id.text ++ " is already used in the " ++ stage.name ++ " stage"
  | .param cause => cause.message

end ShadeGraph
