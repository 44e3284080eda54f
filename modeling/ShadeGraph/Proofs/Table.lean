import Mathlib.Data.List.Basic
import ShadeGraph.Table

/-!
# Look-ups in tables

A table is seen through `get?`: every operation is described by what it does to the look-ups, and by its
entries where their order matters.
-/

namespace ShadeGraph.Table

variable {κ ω ω' : Type}

theorem ext_entries {t u : Table κ ω} (h : t.entries = u.entries) : t = u := by
  cases t
  cases u
  cases h
  rfl

@[simp] theorem keys_mapValues (t : Table κ ω) (f : κ → ω → ω') : (t.mapValues f).keys = t.keys := by
  simp [keys, mapValues, Function.comp_def]

theorem mapValues_eq_self {t : Table κ ω} {f : κ → ω → ω} (h : ∀ k v, (k, v) ∈ t.entries → f k v = v) :
    t.mapValues f = t := by
  apply ext_entries
  conv_rhs => rw [← List.map_id t.entries]
  apply List.map_congr_left
  rintro ⟨k, v⟩ hMem
  rw [h k v hMem]
  rfl

variable [DecidableEq κ]

theorem get?_eq_some_iff {t : Table κ ω} {k : κ} {v : ω} : t.get? k = some v ↔ (k, v) ∈ t.entries := by
  obtain ⟨entries, hNodup⟩ := t
  simp only [get?]
  induction entries with
  | nil => simp
  | cons e rest ih =>
    obtain ⟨k', v'⟩ := e
    simp only [List.map_cons, List.nodup_cons] at hNodup
    by_cases hKey : k' = k
    · subst k'
      have hFresh : (k, v) ∉ rest := fun hMem => hNodup.1 (List.mem_map.mpr ⟨(k, v), hMem, rfl⟩)
      simp only [decide_true, List.find?_cons_of_pos, Option.map_some, Option.some.injEq, List.mem_cons,
        Prod.mk.injEq, true_and, hFresh, or_false]
      exact eq_comm
    · have hOther : (k, v) ≠ (k', v') := fun hEq => hKey (congrArg Prod.fst hEq).symm
      simpa [hKey, hOther] using ih hNodup.2

theorem mem_keys_iff {t : Table κ ω} {k : κ} : k ∈ t.keys ↔ ∃ v, t.get? k = some v := by
  simp only [get?_eq_some_iff, keys, List.mem_map, Prod.exists, exists_and_right, exists_eq_right]

theorem get?_eq_none_iff {t : Table κ ω} {k : κ} : t.get? k = none ↔ k ∉ t.keys := by
  rw [mem_keys_iff, Option.eq_none_iff_forall_ne_some, not_exists]

theorem contains_iff {t : Table κ ω} {k : κ} : t.contains k = true ↔ k ∈ t.keys := by
  simp [contains]

@[simp] theorem get?_empty (k : κ) : (empty : Table κ ω).get? k = none := rfl

theorem get?_congr {t : Table κ ω} {u : Table κ ω'} {k : κ} {f : ω → ω'}
    (h : ∀ v, t.get? k = some v → u.get? k = some (f v)) (hNone : t.get? k = none → u.get? k = none) :
    u.get? k = (t.get? k).map f := by
  cases hGet : t.get? k with
  | none => exact hNone hGet
  | some v => exact h v hGet

@[simp] theorem get?_mapValues (t : Table κ ω) (f : κ → ω → ω') (k : κ) :
    (t.mapValues f).get? k = (t.get? k).map (f k) := by
  apply get?_congr
  · intro v hGet
    rw [get?_eq_some_iff] at hGet ⊢
    exact List.mem_map.mpr ⟨(k, v), hGet, rfl⟩
  · intro hNone
    rw [get?_eq_none_iff] at hNone ⊢
    simpa [keys, mapValues, Function.comp_def] using hNone

theorem get?_modify (t : Table κ ω) (k : κ) (f : ω → ω) (k' : κ) :
    (t.modify k f).get? k' = if k' = k then (t.get? k').map f else t.get? k' := by
  rw [modify, get?_mapValues]
  split <;> simp

@[simp] theorem keys_modify (t : Table κ ω) (k : κ) (f : ω → ω) : (t.modify k f).keys = t.keys :=
  keys_mapValues t _

theorem modify_modify (t : Table κ ω) (k : κ) (f g : ω → ω) :
    (t.modify k f).modify k g = t.modify k fun v => g (f v) := by
  apply ext_entries
  simp only [modify, mapValues, List.map_map]
  refine List.map_congr_left fun entry _ => ?_
  by_cases h : entry.1 = k <;> simp [h]

theorem get?_filter (t : Table κ ω) (p : κ → ω → Bool) (k : κ) :
    (t.filter p).get? k = (t.get? k).filter (p k) := by
  cases hGet : t.get? k with
  | none =>
    rw [Option.filter_none, get?_eq_none_iff]
    rw [get?_eq_none_iff] at hGet
    intro hMem
    obtain ⟨e, hEntry, rfl⟩ := List.mem_map.mp hMem
    exact hGet (List.mem_map.mpr ⟨e, (List.mem_filter.mp hEntry).1, rfl⟩)
  | some v =>
    rw [Option.filter_some]
    have hEntry := get?_eq_some_iff.mp hGet
    split
    · rename_i hKeep
      exact get?_eq_some_iff.mpr (List.mem_filter.mpr ⟨hEntry, hKeep⟩)
    · rename_i hDrop
      rw [Option.eq_none_iff_forall_ne_some]
      intro w hFound
      obtain ⟨hMem, hKeep⟩ := List.mem_filter.mp (get?_eq_some_iff.mp hFound)
      have hSame : some v = some w := hGet.symm.trans (get?_eq_some_iff.mpr hMem)
      cases hSame
      exact hDrop hKeep

theorem get?_erase (t : Table κ ω) (k k' : κ) :
    (t.erase k).get? k' = if k' = k then none else t.get? k' := by
  rw [erase, get?_filter]
  split
  · rename_i hKey
    simp [hKey]
  · rename_i hKey
    cases t.get? k' <;> simp [hKey]

theorem erase_eq_self {t : Table κ ω} {k : κ} (h : k ∉ t.keys) : t.erase k = t := by
  apply ext_entries
  apply List.filter_eq_self.mpr
  intro e hMem
  rw [decide_eq_true_eq]
  rintro rfl
  exact h (List.mem_map.mpr ⟨e, hMem, rfl⟩)

theorem put_of_not_mem {k : κ} {v : ω} {l : List (κ × ω)} (h : k ∉ l.map Prod.fst) :
    put k v l = l ++ [(k, v)] := by
  induction l with
  | nil => rfl
  | cons e rest ih =>
    simp only [List.map_cons, List.mem_cons, not_or] at h
    simp [put, Ne.symm h.1, ih h.2]

theorem mem_put {k k' : κ} {v v' : ω} {l : List (κ × ω)} (hNodup : (l.map Prod.fst).Nodup) :
    (k', v') ∈ put k v l ↔ (k' = k ∧ v' = v) ∨ (k' ≠ k ∧ (k', v') ∈ l) := by
  induction l with
  | nil => simp [put]
  | cons e rest ih =>
    obtain ⟨k₁, v₁⟩ := e
    simp only [List.map_cons, List.nodup_cons] at hNodup
    by_cases hKey : k₁ = k
    · subst k₁
      have hFresh : ∀ w, (k, w) ∉ rest := fun w hMem => hNodup.1 (List.mem_map.mpr ⟨(k, w), hMem, rfl⟩)
      by_cases hSame : k' = k
      · subst k'
        simp [put, hFresh]
      · simp [put, hSame]
    · by_cases hSame : k' = k
      · subst k'
        simp [put, hKey, Ne.symm hKey, ih hNodup.2]
      · simp [put, hKey, hSame, ih hNodup.2]

theorem get?_insert (t : Table κ ω) (k : κ) (v : ω) (k' : κ) :
    (t.insert k v).get? k' = if k' = k then some v else t.get? k' := by
  apply Option.ext
  intro w
  rw [get?_eq_some_iff]
  change (k', w) ∈ put k v t.entries ↔ _
  rw [mem_put t.keys_nodup]
  split
  · rename_i hKey
    simp [hKey, eq_comm]
  · rename_i hKey
    simp [hKey, get?_eq_some_iff]

theorem entries_insert_of_not_mem {t : Table κ ω} {k : κ} (v : ω) (h : k ∉ t.keys) :
    (t.insert k v).entries = t.entries ++ [(k, v)] :=
  put_of_not_mem h

theorem keys_insert_of_not_mem {t : Table κ ω} {k : κ} (v : ω) (h : k ∉ t.keys) :
    (t.insert k v).keys = t.keys ++ [k] := by
  rw [keys, entries_insert_of_not_mem v h, List.map_append]
  rfl

theorem head?_keys_insert {t : Table κ ω} {k : κ} (h : t.keys.head? = some k) (k' : κ) (v : ω) :
    (t.insert k' v).keys.head? = some k := by
  obtain ⟨entries, hNodup⟩ := t
  cases entries with
  | nil => cases h
  | cons e rest =>
    change ((put k' v (e :: rest)).map Prod.fst).head? = some k
    cases h
    by_cases hKey : e.1 = k'
    · simp [put, hKey]
    · simp [put, hKey]

theorem head?_keys_erase {t : Table κ ω} {k k' : κ} (h : t.keys.head? = some k) (hNe : k ≠ k') :
    (t.erase k').keys.head? = some k := by
  obtain ⟨entries, hNodup⟩ := t
  cases entries with
  | nil => cases h
  | cons e rest =>
    cases h
    simp [erase, filter, keys, hNe]

theorem insert_insert (t : Table κ ω) (k : κ) (v w : ω) : (t.insert k v).insert k w = t.insert k w := by
  apply ext_entries
  change put k w (put k v t.entries) = put k w t.entries
  induction t.entries with
  | nil => simp [put]
  | cons e rest ih =>
    by_cases hKey : e.1 = k
    · simp [put, hKey]
    · simp [put, hKey, ih]

theorem modify_eq_insert {t : Table κ ω} {k : κ} {v : ω} (h : t.get? k = some v) (f : ω → ω) :
    t.modify k f = t.insert k (f v) := by
  apply ext_entries
  rw [get?_eq_some_iff] at h
  obtain ⟨entries, hNodup⟩ := t
  change entries.map (fun e => (e.1, if e.1 = k then f e.2 else e.2)) = put k (f v) entries
  induction entries with
  | nil => cases h
  | cons e rest ih =>
    obtain ⟨hFresh, hRest⟩ := List.nodup_cons.mp hNodup
    rw [List.map_cons, put]
    rcases List.mem_cons.mp h with rfl | hMem
    · rw [if_pos rfl, if_pos rfl]
      congr 1
      -- no later entry has the key
      conv_rhs => rw [← List.map_id rest]
      apply List.map_congr_left
      intro e hMem
      have hNe : e.1 ≠ k := fun hSame => hFresh (List.mem_map.mpr ⟨e, hMem, hSame⟩)
      rw [if_neg hNe]
      rfl
    · have hNe : e.1 ≠ k := fun hSame => hFresh (hSame ▸ List.mem_map_of_mem hMem)
      rw [if_neg hNe, if_neg hNe, ih hRest hMem]

theorem modify_insert (t : Table κ ω) (k : κ) (v : ω) (f : ω → ω) : (t.insert k v).modify k f = t.insert k (f v) := by
  have hGet : (t.insert k v).get? k = some v := by rw [get?_insert, if_pos rfl]
  rw [modify_eq_insert hGet, insert_insert]

theorem mapValues_insert (t : Table κ ω) (f : κ → ω → ω') (k : κ) (v : ω) :
    (t.insert k v).mapValues f = (t.mapValues f).insert k (f k v) := by
  apply ext_entries
  change (put k v t.entries).map _ = put k (f k v) (t.entries.map fun e => (e.1, f e.1 e.2))
  induction t.entries with
  | nil => simp [put]
  | cons e rest ih =>
    by_cases hKey : e.1 = k
    · simp [put, hKey]
    · simp [put, hKey, ih]

/-- Entries whose keys are new come after the old ones, in their order. -/
theorem entries_foldl_insert {t : Table κ ω} {l : List (κ × ω)} (h : (t.keys ++ l.map Prod.fst).Nodup) :
    (l.foldl (fun t e => t.insert e.1 e.2) t).entries = t.entries ++ l := by
  induction l generalizing t with
  | nil => simp
  | cons e rest ih =>
    have hNew : e.1 ∉ t.keys := fun hMem => (List.nodup_append.mp h).2.2 _ hMem e.1 (by simp) rfl
    have hRest : ((t.insert e.1 e.2).keys ++ rest.map Prod.fst).Nodup := by
      rw [keys_insert_of_not_mem e.2 hNew, List.append_assoc]
      exact h
    rw [List.foldl_cons, ih hRest, entries_insert_of_not_mem e.2 hNew, List.append_assoc]
    rfl

theorem entries_ofList {l : List (κ × ω)} (h : (l.map Prod.fst).Nodup) : (ofList l).entries = l :=
  entries_foldl_insert h

theorem ofList_entries (t : Table κ ω) : ofList t.entries = t :=
  ext_entries (entries_ofList t.keys_nodup)

/-- The entry of the key that comes first may be overwritten. -/
theorem foldl_insert_insert {k : κ} {l : List (κ × ω)} (h : (l.map Prod.fst).head? = some k) (t : Table κ ω) (v : ω) :
    l.foldl (fun t e => t.insert e.1 e.2) (t.insert k v) = l.foldl (fun t e => t.insert e.1 e.2) t := by
  cases l with
  | nil => cases h
  | cons e rest =>
    cases h
    rw [List.foldl_cons, List.foldl_cons, insert_insert]

theorem mem_of_mem_ofList {l : List (κ × ω)} {e : κ × ω} (h : e ∈ (ofList l).entries) : e ∈ l := by
  have hFold {t : Table κ ω} (hMem : e ∈ (l.foldl (fun t e => t.insert e.1 e.2) t).entries) :
      e ∈ t.entries ∨ e ∈ l := by
    clear h
    induction l generalizing t with
    | nil => exact .inl hMem
    | cons x rest ih =>
      rcases ih hMem with hOld | hRest
      · rcases (mem_put t.keys_nodup).mp hOld with ⟨hKey, hValue⟩ | ⟨-, hOlder⟩
        · exact .inr (List.mem_cons.mpr (.inl (Prod.ext hKey hValue)))
        · exact .inl hOlder
      · exact .inr (List.mem_cons_of_mem x hRest)
  exact (hFold h).resolve_left List.not_mem_nil

theorem agrees_self {same : ω → ω → Bool} {t : Table κ ω} (h : ∀ e ∈ t.entries, same e.2 e.2 = true) :
    t.agrees same t = true := by
  simp only [agrees, BEq.rfl, Bool.true_and, List.all_eq_true]
  rintro ⟨k, v⟩ hMem
  rw [get?_eq_some_iff.mpr hMem]
  exact h _ hMem

end ShadeGraph.Table
