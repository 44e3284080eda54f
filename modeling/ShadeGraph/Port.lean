import ShadeGraph.Shader.Stage
import ShadeGraph.Value.Basic

/-! # Ports -/

namespace ShadeGraph

inductive Direction
  | input
  | output
  deriving DecidableEq, Repr

def Direction.name : Direction → String
  | .input => "Input"
  | .output => "Output"

/-- An expression that stands in for a missing connection, in the stages where it has a meaning. -/
structure Hint where
  expression : String
  stages : List Stage
  deriving DecidableEq, Repr

def Hint.appliesTo (h : Hint) (s : Stage) : Bool := h.stages.contains s

structure Port where
  name : String
  direction : Direction
  type : PortType
  default? : Option PortValue := none
  hint? : Option Hint := none
  /-- Whether a scalar may feed this vector input, spread over its components. -/
  broadcasts : Bool := false
  deriving DecidableEq, Repr

namespace Port

def input (name : String) (type : PortType) : Port :=
  { name, direction := .input, type }

def output (name : String) (type : PortType) : Port :=
  { name, direction := .output, type }

def withDefault (p : Port) (value : PortValue) : Port :=
  { p with default? := some value }

def withHint (p : Port) (expression : String) (stages : List Stage) : Port :=
  { p with hint? := some ⟨expression, stages⟩ }

/-- Lets a vector input take scalars; other ports stay as they are. -/
def broadcast (p : Port) : Port :=
  { p with broadcasts := p.type = .vector3 }

/-- Whether an output of type `source` may feed this port. -/
def accepts (p : Port) (source : PortType) : Bool :=
  p.direction = .input && (p.type = source || p.broadcasts && source = .scalar)

def scalarInput (name : String) (value : Single) : Port :=
  (input name .scalar).withDefault (.scalar value)

def vectorInput (name : String) (value : Vec3) : Port :=
  ((input name .vector3).withDefault (.vector3 value)).broadcast

def booleanInput (name : String) (value : Bool) : Port :=
  (input name .boolean).withDefault (.boolean value)

def transformInput (name : String) : Port :=
  (input name .transform).withDefault (.transform .identity)

end Port

end ShadeGraph
