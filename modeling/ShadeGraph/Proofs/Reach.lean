import Mathlib.Data.Finset.Card
import Mathlib.Data.Finset.SDiff
import Mathlib.Logic.Relation
import ShadeGraph.Graph.Reach

/-!
# What a search finds

Every round of a search that does not end it finds a member of a fixed list for the first time. So as many
rounds as that list is long find exactly what can be reached.
-/

namespace ShadeGraph.Reach

variable {α : Type} [DecidableEq α]

def Step (next : α → List α) (x y : α) : Prop := y ∈ next x

def Steps (next : α → List α) : α → α → Prop := Relation.ReflTransGen (Step next)

theorem mem_fresh {next : α → List α} {found : List α} {y : α} :
    y ∈ fresh next found ↔ (∃ x ∈ found, y ∈ next x) ∧ y ∉ found := by
  simp [fresh, List.mem_eraseDups]

theorem subset_grow (next : α → List α) (rounds : Nat) (found : List α) : found ⊆ grow next rounds found := by
  induction rounds generalizing found with
  | zero => exact fun _ hMem => hMem
  | succ rounds ih =>
    rw [grow]
    split
    · exact fun _ hMem => hMem
    · exact fun _ hMem => ih _ (List.mem_append_left _ hMem)

theorem exists_steps_of_mem_grow {next : α → List α} {rounds : Nat} {found : List α} {y : α}
    (h : y ∈ grow next rounds found) : ∃ x ∈ found, Steps next x y := by
  induction rounds generalizing found with
  | zero => exact ⟨y, h, .refl⟩
  | succ rounds ih =>
    rw [grow] at h
    split at h
    · exact ⟨y, h, .refl⟩
    · obtain ⟨x, hFound, hSteps⟩ := ih h
      rcases List.mem_append.mp hFound with hOld | hNew
      · exact ⟨x, hOld, hSteps⟩
      · obtain ⟨⟨w, hOld, hStep⟩, -⟩ := mem_fresh.mp hNew
        exact ⟨w, hOld, hSteps.head hStep⟩

theorem step_mem_of_fresh_eq_nil {next : α → List α} {found : List α} (h : fresh next found = []) {x y : α}
    (hFound : x ∈ found) (hStep : Step next x y) : y ∈ found := by
  by_contra hNew
  have hFresh : y ∈ fresh next found := mem_fresh.mpr ⟨⟨x, hFound, hStep⟩, hNew⟩
  rw [h] at hFresh
  exact List.not_mem_nil hFresh

/-- A round that finds something leaves less of a list to find. -/
theorem card_unfound_lt {next : α → List α} {all found : List α} (hAll : ∀ x, next x ⊆ all)
    (h : fresh next found ≠ []) :
    (all.toFinset \ (found ++ fresh next found).toFinset).card < (all.toFinset \ found.toFinset).card := by
  obtain ⟨y, hFresh⟩ := List.exists_mem_of_ne_nil _ h
  obtain ⟨⟨x, -, hStep⟩, hNew⟩ := mem_fresh.mp hFresh
  apply Finset.card_lt_card
  rw [Finset.ssubset_iff_of_subset]
  · refine ⟨y, ?_, ?_⟩
    · simp [hAll x hStep, hNew]
    · simp [hFresh]
  · apply Finset.sdiff_subset_sdiff (Finset.Subset.refl _)
    intro z hz
    simp only [List.mem_toFinset, List.mem_append] at hz ⊢
    exact Or.inl hz

/-- The rounds suffice when there are no fewer than members left to find. -/
theorem step_mem_grow {next : α → List α} {all : List α} (hAll : ∀ x, next x ⊆ all) {rounds : Nat}
    {found : List α} (hRounds : (all.toFinset \ found.toFinset).card ≤ rounds) {x y : α}
    (hFound : x ∈ grow next rounds found) (hStep : Step next x y) : y ∈ grow next rounds found := by
  induction rounds generalizing found with
  | zero =>
    -- nothing is left to find
    have hEmpty : all.toFinset \ found.toFinset = ∅ := Finset.card_eq_zero.mp (Nat.le_zero.mp hRounds)
    have hMem : y ∈ all.toFinset := List.mem_toFinset.mpr (hAll x hStep)
    exact List.mem_toFinset.mp (Finset.sdiff_eq_empty_iff_subset.mp hEmpty hMem)
  | succ rounds ih =>
    rw [grow] at hFound ⊢
    split at hFound
    · rename_i hNone
      exact step_mem_of_fresh_eq_nil hNone hFound hStep
    · rename_i hSome
      have hLess := card_unfound_lt hAll hSome
      exact ih (by omega) hFound

theorem steps_mem_grow {next : α → List α} {all : List α} (hAll : ∀ x, next x ⊆ all) {rounds : Nat}
    {found : List α} (hRounds : all.length ≤ rounds) {x y : α} (hFound : x ∈ found) (hSteps : Steps next x y) :
    y ∈ grow next rounds found := by
  have hCard : (all.toFinset \ found.toFinset).card ≤ rounds :=
    (Finset.card_le_card Finset.sdiff_subset).trans ((List.toFinset_card_le all).trans hRounds)
  induction hSteps with
  | refl => exact subset_grow next rounds found hFound
  | tail _ hStep ih => exact step_mem_grow hAll hCard ih hStep

/-- A search of enough rounds finds exactly what can be reached. -/
theorem mem_grow_iff {next : α → List α} {all : List α} (hAll : ∀ x, next x ⊆ all) {rounds : Nat}
    {found : List α} (hRounds : all.length ≤ rounds) {y : α} :
    y ∈ grow next rounds found ↔ ∃ x ∈ found, Steps next x y :=
  ⟨exists_steps_of_mem_grow, fun ⟨_, hFound, hSteps⟩ => steps_mem_grow hAll hRounds hFound hSteps⟩

theorem nodup_eraseDups (l : List α) : l.eraseDups.Nodup := by
  -- what follows the head is the tail without it, which is shorter but not the tail
  induction l using (measure List.length).wf.induction with
  | h l ih =>
    cases l with
    | nil => simp
    | cons x rest =>
      rw [List.eraseDups_cons, List.nodup_cons]
      constructor
      · simp [List.mem_eraseDups]
      · exact ih _ (Nat.lt_succ_of_le (List.length_filter_le _ _))

theorem nodup_grow {next : α → List α} {rounds : Nat} {found : List α} (h : found.Nodup) :
    (grow next rounds found).Nodup := by
  induction rounds generalizing found with
  | zero => exact h
  | succ rounds ih =>
    rw [grow]
    split
    · exact h
    · apply ih
      rw [List.nodup_append]
      refine ⟨h, nodup_eraseDups _, ?_⟩
      rintro x hOld y hNew rfl
      exact (mem_fresh.mp hNew).2 hOld

end ShadeGraph.Reach
