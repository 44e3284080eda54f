/-!
# Tables in insertion order

A table pairs distinct keys with values and keeps its entries in the order in which their keys first came.
-/

namespace ShadeGraph

structure Table (κ ω : Type) where
  entries : List (κ × ω)
  keys_nodup : (entries.map Prod.fst).Nodup
  deriving DecidableEq

namespace Table

variable {κ ω ω' : Type} [DecidableEq κ]

def empty : Table κ ω := ⟨[], List.nodup_nil⟩

instance : Inhabited (Table κ ω) := ⟨empty⟩

def keys (t : Table κ ω) : List κ := t.entries.map Prod.fst

def values (t : Table κ ω) : List ω := t.entries.map Prod.snd

def size (t : Table κ ω) : Nat := t.entries.length

def contains (t : Table κ ω) (k : κ) : Bool := t.keys.contains k

def get? (t : Table κ ω) (k : κ) : Option ω :=
  (t.entries.find? fun e => e.1 = k).map Prod.snd

/-- Gives a key a value: in its place if the key is present, else at the end. -/
def put (k : κ) (v : ω) : List (κ × ω) → List (κ × ω)
  | [] => [(k, v)]
  | e :: rest => if e.1 = k then (k, v) :: rest else e :: put k v rest

theorem mem_keys_put {k k' : κ} {v : ω} {l : List (κ × ω)} :
    k' ∈ (put k v l).map Prod.fst ↔ k' = k ∨ k' ∈ l.map Prod.fst := by
  induction l with
  | nil => simp [put]
  | cons e rest ih =>
    by_cases h : e.1 = k
    · simp [put, h]
    · simp only [put, h, if_false, List.map_cons, List.mem_cons, ih]
      exact or_left_comm

theorem nodup_keys_put {k : κ} {v : ω} {l : List (κ × ω)} (h : (l.map Prod.fst).Nodup) :
    ((put k v l).map Prod.fst).Nodup := by
  induction l with
  | nil => simp [put]
  | cons e rest ih =>
    simp only [List.map_cons, List.nodup_cons] at h
    by_cases hk : e.1 = k
    · simp only [put, hk, if_true, List.map_cons, List.nodup_cons]
      exact ⟨hk ▸ h.1, h.2⟩
    · simp only [put, hk, if_false, List.map_cons, List.nodup_cons]
      exact ⟨fun hm => (mem_keys_put.1 hm).elim hk h.1, ih h.2⟩

def insert (t : Table κ ω) (k : κ) (v : ω) : Table κ ω :=
  ⟨put k v t.entries, nodup_keys_put t.keys_nodup⟩

def filter (t : Table κ ω) (p : κ → ω → Bool) : Table κ ω :=
  ⟨t.entries.filter fun e => p e.1 e.2, t.keys_nodup.sublist (List.filter_sublist.map Prod.fst)⟩

def erase (t : Table κ ω) (k : κ) : Table κ ω :=
  t.filter fun k' _ => k' ≠ k

def mapValues (t : Table κ ω) (f : κ → ω → ω') : Table κ ω' :=
  ⟨t.entries.map fun e => (e.1, f e.1 e.2), by simpa [Function.comp_def] using t.keys_nodup⟩

/-- Changes the value of one key, if it is present. -/
def modify (t : Table κ ω) (k : κ) (f : ω → ω) : Table κ ω :=
  t.mapValues fun k' v => if k' = k then f v else v

/-- A repeated key keeps its first place and takes its last value. -/
def ofList (l : List (κ × ω)) : Table κ ω :=
  l.foldl (fun t e => t.insert e.1 e.2) empty

/-- Both tables have the same keys, with values that agree, in whatever order. -/
def agrees (same : ω → ω → Bool) (t u : Table κ ω) : Bool :=
  t.size == u.size && t.entries.all fun e => (u.get? e.1).any (same e.2)

end Table

end ShadeGraph
