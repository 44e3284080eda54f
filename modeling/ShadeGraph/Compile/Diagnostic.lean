import ShadeGraph.Node.Model

/-! # Diagnostics of a compile -/

namespace ShadeGraph

inductive Severity
  /-- Something was not emitted, or a name clashes. -/
  | error
  | warning
  deriving DecidableEq, Repr

def Severity.name : Severity → String
  | .error => "Error"
  | .warning => "Warning"

inductive DiagnosticKind
  | cycle
  | danglingEdge
  | typeMismatch
  | duplicateUniform
  | invalidMode
  | literal
  | node
  | stageRestriction
  | nodeWarning
  deriving DecidableEq, Repr

namespace DiagnosticKind

def all : List DiagnosticKind :=
  [.cycle, .danglingEdge, .typeMismatch, .duplicateUniform, .invalidMode, .literal, .node, .stageRestriction,
   .nodeWarning]

def name : DiagnosticKind → String
  | .cycle => "Cycle"
  | .danglingEdge => "DanglingEdge"
  | .typeMismatch => "TypeMismatch"
  | .duplicateUniform => "DuplicateUniform"
  | .invalidMode => "InvalidMode"
  | .literal => "Encode"
  | .node => "NodeError"
  | .stageRestriction => "StageRestriction"
  | .nodeWarning => "NodeWarning"

def ofName? (name : String) : Option DiagnosticKind := all.find? (·.name = name)

def severity : DiagnosticKind → Severity
  | .stageRestriction | .nodeWarning => .warning
  | _ => .error

end DiagnosticKind

structure Diagnostic where
  kind : DiagnosticKind
  message : String
  stage : Option Stage := none
  /-- The node meant, in the stage. -/
  node : Option NodeId := none
  deriving DecidableEq, Repr

namespace Diagnostic

def severity (d : Diagnostic) : Severity := d.kind.severity

def isError (d : Diagnostic) : Bool := d.severity = .error

def located (kind : DiagnosticKind) (message : String) (stage : Stage) (id : NodeId) : Diagnostic :=
  ⟨kind, message, some stage, some id⟩

def location (d : Diagnostic) : String :=
  match d.stage, d.node with
  | some stage, some id => "[" ++ stage.name ++ " node " ++ id.text ++ "] "
  | some stage, none => "[" ++ stage.name ++ "] "
  | none, _ => ""

def text (d : Diagnostic) : String :=
  d.location ++ d.kind.name ++ ": " ++ d.message

end Diagnostic

end ShadeGraph
