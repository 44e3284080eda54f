import ShadeGraph.Table
import ShadeGraph.Value.Basic

/-!
# Parameters of nodes

A node has named parameters. Its schema gives the kind of each, and a value is checked against it before
the node sees it.
-/

namespace ShadeGraph

inductive ParamValue
  | int (value : Int)
  | float (value : Single)
  | bool (value : Bool)
  | vector3 (value : Vec3)
  | color (value : Color)
  | transform (value : Transform)
  | text (value : String)
  | choice (index : Nat)
  | resource (path : Option String)
  deriving DecidableEq, Repr

/-- Equality of the values meant, as for numbers. -/
def ParamValue.agrees : ParamValue → ParamValue → Bool
  | .float v, .float w => v.agrees w
  | .vector3 v, .vector3 w => v.agrees w
  | .color v, .color w => v.agrees w
  | .transform v, .transform w => v.agrees w
  | v, w => v = w

inductive ParamKind
  | int
  | float
  | bool
  | vector3
  | color
  | transform
  | text
  | choice (variants : List String)
  | resource
  deriving DecidableEq, Repr

namespace ParamKind

def name : ParamKind → String
  | .int => "int"
  | .float => "float"
  | .bool => "bool"
  | .vector3 => "vector3"
  | .color => "color"
  | .transform => "transform"
  | .text => "text"
  | .choice _ => "enum"
  | .resource => "resource"

def fits : ParamKind → ParamValue → Bool
  | .int, .int _ => true
  | .float, .float _ => true
  | .bool, .bool _ => true
  | .vector3, .vector3 _ => true
  | .color, .color _ => true
  | .transform, .transform _ => true
  | .text, .text _ => true
  | .choice _, .choice _ => true
  | .resource, .resource _ => true
  | _, _ => false

end ParamKind

structure ParamSpec where
  name : String
  kind : ParamKind
  deriving DecidableEq, Repr

inductive ParamError
  | unknown (nodeKind name : String)
  | wrongKind (name : String) (expected : String)
  | outOfRange (name : String) (index : Nat)
  | invalid (name reason : String)
  deriving DecidableEq, Repr

def ParamError.message : ParamError → String
  | .unknown nodeKind name => s!"node kind `{nodeKind}` has no parameter `{name}`"
  | .wrongKind name expected => s!"parameter `{name}` expects a {expected} value"
  | .outOfRange name index => "parameter `" ++ name ++ "` has no variant #" ++ Nat.repr index
  | .invalid name reason => s!"invalid value for `{name}`: {reason}"

/-- Named values for the construction of a node, in the order in which they are applied. -/
abbrev ParamBag := Table String ParamValue

namespace ParamSpec

/-- Checks a value against one row: its shape, then the range of a choice. -/
def check (spec : ParamSpec) (value : ParamValue) : Except ParamError Unit :=
  if !spec.kind.fits value then .error (.wrongKind spec.name spec.kind.name)
  else match spec.kind, value with
    | .choice variants, .choice index =>
      if index < variants.length then .ok () else .error (.outOfRange spec.name index)
    | _, _ => .ok ()

/-- Checks a named value against a schema; `nodeKind` is told in errors. -/
def validate (schema : List ParamSpec) (nodeKind name : String) (value : ParamValue) :
    Except ParamError Unit :=
  match schema.find? (·.name = name) with
  | none => .error (.unknown nodeKind name)
  | some spec => spec.check value

end ParamSpec

end ShadeGraph
