/-! # Shader stages -/

namespace ShadeGraph

/-- One of the three entry functions of a shader. -/
inductive Stage
  | vertex
  | fragment
  | light
  deriving DecidableEq, Repr

namespace Stage

/-- The stages in the order in which they are emitted. -/
def all : List Stage := [.vertex, .fragment, .light]

/-- The name of the entry function, also used in documents. -/
def name : Stage → String
  | .vertex => "vertex"
  | .fragment => "fragment"
  | .light => "light"

/-- The tag in identifiers that belong to one node of a stage. -/
def tag : Stage → String
  | .vertex => "vtx"
  | .fragment => "frg"
  | .light => "lgt"

def index : Stage → Nat
  | .vertex => 0
  | .fragment => 1
  | .light => 2

def ofName? (name : String) : Option Stage :=
  all.find? (·.name = name)

theorem mem_all (s : Stage) : s ∈ all := by cases s <;> decide

@[simp] theorem ofName?_name (s : Stage) : ofName? s.name = some s := by cases s <;> decide

end Stage

/-- One value for each stage. -/
structure PerStage (α : Type) where
  vertex : α
  fragment : α
  light : α
  deriving DecidableEq

namespace PerStage

variable {α β : Type}

def get (p : PerStage α) : Stage → α
  | .vertex => p.vertex
  | .fragment => p.fragment
  | .light => p.light

def set (p : PerStage α) (s : Stage) (a : α) : PerStage α :=
  match s with
  | .vertex => { p with vertex := a }
  | .fragment => { p with fragment := a }
  | .light => { p with light := a }

def ofFn (f : Stage → α) : PerStage α := ⟨f .vertex, f .fragment, f .light⟩

def map (f : α → β) (p : PerStage α) : PerStage β := ⟨f p.vertex, f p.fragment, f p.light⟩

@[simp] theorem get_ofFn (f : Stage → α) (s : Stage) : (ofFn f).get s = f s := by cases s <;> rfl

@[simp] theorem get_map (f : α → β) (p : PerStage α) (s : Stage) : (p.map f).get s = f (p.get s) := by
  cases s <;> rfl

@[simp] theorem get_set_self (p : PerStage α) (s : Stage) (a : α) : (p.set s a).get s = a := by
  cases s <;> rfl

theorem get_set_of_ne (p : PerStage α) {s s' : Stage} (a : α) (h : s' ≠ s) :
    (p.set s a).get s' = p.get s' := by
  cases s <;> cases s' <;> simp_all [set, get]

theorem ext_get {p q : PerStage α} (h : ∀ s, p.get s = q.get s) : p = q := by
  cases p; cases q
  simp only [mk.injEq]
  exact ⟨h .vertex, h .fragment, h .light⟩

end PerStage

end ShadeGraph
