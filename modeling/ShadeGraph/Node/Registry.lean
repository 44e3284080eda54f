import ShadeGraph.Graph.Error

/-!
# Registries

A registry lists the kinds of nodes that may be made, each by a fresh node of that kind.
-/

namespace ShadeGraph

structure Registry (ν : Type) where
  prototypes : List ν

namespace Registry

variable {ν : Type} [NodeModel ν]

def empty : Registry ν := ⟨[]⟩

def find? (r : Registry ν) (kind : String) : Option ν :=
  r.prototypes.find? fun n => NodeModel.kind n = kind

/-- Puts a prototype in the place of one of the same kind, or at the end. -/
def place (prototype : ν) : List ν → List ν
  | [] => [prototype]
  | n :: rest =>
    if NodeModel.kind n = NodeModel.kind prototype then prototype :: rest else n :: place prototype rest

def register (r : Registry ν) (prototype : ν) : Registry ν :=
  ⟨place prototype r.prototypes⟩

def ofList (prototypes : List ν) : Registry ν :=
  prototypes.foldl register empty

/-- The kinds of this registry that are named, in the order of their names. -/
def restrict (r : Registry ν) (kinds : List String) : Registry ν :=
  ofList (kinds.filterMap r.find?)

def inCategory (r : Registry ν) (category : Category) : List ν :=
  r.prototypes.filter fun n => NodeModel.category n = category

def permitted (r : Registry ν) (mode : Mode) (stage : Stage) : List ν :=
  r.prototypes.filter fun n => NodeModel.isPermitted n mode stage

/-- A node of a kind, with parameters applied in the order of the bag. -/
def instantiate (r : Registry ν) (kind : String) (bag : ParamBag) : Except GraphError ν :=
  match r.find? kind with
  | none => .error (.unknownKind kind)
  | some n => (NodeModel.applyAll n bag.entries).mapError .param

end Registry

end ShadeGraph
