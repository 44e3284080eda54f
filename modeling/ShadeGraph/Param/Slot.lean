import ShadeGraph.Param.Basic

/-!
# Slots

A slot is a parameter of one node: its row in the schema, the value held, and the node after a value is put
in. A node's parameters are its list of slots.
-/

namespace ShadeGraph

/-- Types whose members are listed and labelled, in the order of their indices. -/
class Choice (ε : Type) where
  all : List ε
  label : ε → String

namespace Choice

variable {ε : Type} [Choice ε]

def labels (ε : Type) [Choice ε] : List String := (all : List ε).map label

def index [DecidableEq ε] (e : ε) : Nat := all.idxOf e

def ofIndex? (n : Nat) : Option ε := all[n]?

end Choice

structure ParamSlot (ν : Type) where
  spec : ParamSpec
  value : ParamValue
  put : ParamValue → Except ParamError ν

namespace ParamSlot

variable {ν μ : Type}

def map (f : ν → μ) (s : ParamSlot ν) : ParamSlot μ :=
  ⟨s.spec, s.value, fun v => (s.put v).map f⟩

def float (name : String) (value : Single) (put : Single → ν) : ParamSlot ν :=
  ⟨⟨name, .float⟩, .float value, fun
    | .float v => .ok (put v)
    | _ => .error (.wrongKind name "float")⟩

def int (name : String) (value : Int) (put : Int → ν) : ParamSlot ν :=
  ⟨⟨name, .int⟩, .int value, fun
    | .int v => .ok (put v)
    | _ => .error (.wrongKind name "int")⟩

def bool (name : String) (value : Bool) (put : Bool → ν) : ParamSlot ν :=
  ⟨⟨name, .bool⟩, .bool value, fun
    | .bool v => .ok (put v)
    | _ => .error (.wrongKind name "bool")⟩

def vector3 (name : String) (value : Vec3) (put : Vec3 → ν) : ParamSlot ν :=
  ⟨⟨name, .vector3⟩, .vector3 value, fun
    | .vector3 v => .ok (put v)
    | _ => .error (.wrongKind name "vector3")⟩

def color (name : String) (value : Color) (put : Color → ν) : ParamSlot ν :=
  ⟨⟨name, .color⟩, .color value, fun
    | .color v => .ok (put v)
    | _ => .error (.wrongKind name "color")⟩

def transform (name : String) (value : Transform) (put : Transform → ν) : ParamSlot ν :=
  ⟨⟨name, .transform⟩, .transform value, fun
    | .transform v => .ok (put v)
    | _ => .error (.wrongKind name "transform")⟩

def resource (name : String) (value : Option String) (put : Option String → ν) : ParamSlot ν :=
  ⟨⟨name, .resource⟩, .resource value, fun
    | .resource v => .ok (put v)
    | _ => .error (.wrongKind name "resource")⟩

/-- A text that the node may refuse, for the reason given. -/
def checkedText (name : String) (value : String) (put : String → Except String ν) : ParamSlot ν :=
  ⟨⟨name, .text⟩, .text value, fun
    | .text v => (put v).mapError (.invalid name)
    | _ => .error (.wrongKind name "text")⟩

def text (name : String) (value : String) (put : String → ν) : ParamSlot ν :=
  checkedText name value fun v => .ok (put v)

def choice {ε : Type} [Choice ε] [DecidableEq ε] (name : String) (value : ε) (put : ε → ν) : ParamSlot ν :=
  ⟨⟨name, .choice (Choice.labels ε)⟩, .choice (Choice.index value), fun
    | .choice n => match Choice.ofIndex? n with
      | some e => .ok (put e)
      | none => .error (.outOfRange name n)
    | _ => .error (.wrongKind name "enum")⟩

def find? (slots : List (ParamSlot ν)) (name : String) : Option (ParamSlot ν) :=
  slots.find? (·.spec.name = name)

def assign (slots : List (ParamSlot ν)) (nodeKind name : String) (value : ParamValue) :
    Except ParamError ν :=
  match find? slots name with
  | some slot => slot.put value
  | none => .error (.unknown nodeKind name)

end ParamSlot

end ShadeGraph
