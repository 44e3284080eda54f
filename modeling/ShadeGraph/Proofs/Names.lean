import Mathlib.Data.List.Nodup
import Mathlib.Data.List.Perm.Subperm
import ShadeGraph.Proofs.Text
import ShadeGraph.Uniform.Name

/-!
# Names of uniforms

What `sanitize` makes is a name and a name stays as it is. What `unique` makes of a name is a name too, and it
is not taken.
-/

namespace ShadeGraph.UniformName

/-- A letter, then letters, digits and underscores. -/
def IsName (name : String) : Prop :=
  ∃ first rest, name.toList = first :: rest ∧ first.isAlpha = true ∧
    ∀ c ∈ rest, (c.isAlphanum || c = '_') = true

theorem isAlphanum_of_isAlpha {c : Char} (h : c.isAlpha = true) : c.isAlphanum = true := by
  simp [Char.isAlphanum, h]

theorem nameChar?_eq_some {c : Char} (h : (c.isAlphanum || c = '_') = true) : nameChar? c = some c := by
  have hSpace : c ≠ ' ' := by
    rintro rfl
    cases h
  rw [nameChar?, if_neg hSpace, if_pos h]

theorem isNameChar_of_nameChar? {c c' : Char} (h : nameChar? c = some c') : (c'.isAlphanum || c' = '_') = true := by
  rw [nameChar?] at h
  split at h
  · cases h
    rfl
  · split at h
    · rename_i hName
      cases h
      exact hName
    · cases h

theorem sanitize_of_isName {name : String} (h : IsName name) : sanitize name = name := by
  obtain ⟨first, rest, hName, hFirst, hRest⟩ := h
  have hDrop : name.toList.dropWhile (!·.isAlpha) = first :: rest := by
    rw [hName, List.dropWhile_cons_of_neg (by simp [hFirst])]
  have hChars : ∀ c ∈ first :: rest, nameChar? c = some c := by
    intro c hMem
    rcases List.mem_cons.mp hMem with rfl | hMem
    · exact nameChar?_eq_some (by simp [isAlphanum_of_isAlpha hFirst])
    · exact nameChar?_eq_some (hRest c hMem)
  have hKeep : (first :: rest).filterMap nameChar? = first :: rest :=
    (List.filterMap_congr hChars).trans List.filterMap_some
  simp only [sanitize, hDrop, hKeep]
  rw [← hName, String.ofList_toList]

theorem isName_fallback : IsName fallback := by
  have hRest : "niform".toList.all (fun c => c.isAlphanum || c = '_') = true := by decide
  exact ⟨'u', "niform".toList, by decide, by decide, List.all_eq_true.mp hRest⟩

theorem isName_sanitize (raw : String) : IsName (sanitize raw) := by
  rw [sanitize]
  cases hDrop : raw.toList.dropWhile (!·.isAlpha) with
  | nil => exact isName_fallback
  | cons first rest =>
    have hFirst : first.isAlpha = true := by
      have hHead := List.head?_dropWhile_not (fun c : Char => !c.isAlpha) raw.toList
      rw [hDrop] at hHead
      simpa using hHead
    have hChar := nameChar?_eq_some (c := first) (by simp [isAlphanum_of_isAlpha hFirst])
    rw [List.filterMap_cons_some hChar]
    refine ⟨first, rest.filterMap nameChar?, String.toList_ofList, hFirst, ?_⟩
    intro c hMem
    obtain ⟨c', -, hName⟩ := List.mem_filterMap.mp hMem
    exact isNameChar_of_nameChar? hName

theorem isDigit_of_isAlpha {c : Char} (h : c.isAlpha = true) : c.isDigit = false := by
  have hCode := Text.toNat_of_isAlpha h
  rw [Bool.eq_false_iff, ne_eq, Text.isDigit_iff_toNat]
  omega

/-- The digits at the end of a name never reach its first letter. -/
theorem isName_stem {name : String} (h : IsName name) : IsName (stem name) := by
  obtain ⟨first, rest, hName, hFirst, hRest⟩ := h
  have hDrop : name.toList.reverse.dropWhile Char.isDigit = rest.reverse.dropWhile Char.isDigit ++ [first] := by
    rw [hName, List.reverse_cons, List.dropWhile_append,
      List.dropWhile_cons_of_neg (by simp [isDigit_of_isAlpha hFirst])]
    split
    · rename_i hEmpty
      rw [List.isEmpty_iff.mp hEmpty, List.nil_append]
    · rfl
  have hStem : stem name = String.ofList (first :: (rest.reverse.dropWhile Char.isDigit).reverse) := by
    simp only [stem, hDrop, List.reverse_append, List.reverse_singleton, List.singleton_append]
  rw [hStem]
  refine ⟨first, _, String.toList_ofList, hFirst, ?_⟩
  intro c hMem
  have hOld := (List.dropWhile_suffix _).subset (List.mem_reverse.mp hMem)
  exact hRest c (List.mem_reverse.mp hOld)

theorem isName_append_repr {name : String} (h : IsName name) (n : Nat) : IsName (name ++ Nat.repr n) := by
  obtain ⟨first, rest, hName, hFirst, hRest⟩ := h
  refine ⟨first, rest ++ (Nat.repr n).toList, ?_, hFirst, ?_⟩
  · rw [String.toList_append, hName]
    rfl
  · intro c hMem
    rcases List.mem_append.mp hMem with hOld | hDigit
    · exact hRest c hOld
    · simp [Char.isAlphanum, Text.isDigit_of_mem_repr hDigit]

theorem exists_numbered_eq (stem : String) (taken : List String) (attempts number : Nat) :
    ∃ n, numbered stem taken attempts number = stem ++ Nat.repr n := by
  induction attempts generalizing number with
  | zero => exact ⟨number, rfl⟩
  | succ attempts ih =>
    rw [numbered]
    split
    · exact ih (number + 1)
    · exact ⟨number, rfl⟩

/-- A taken result means that every number was tried and found taken. -/
theorem mem_of_numbered_mem {stem : String} {taken : List String} {attempts number : Nat}
    (h : numbered stem taken attempts number ∈ taken) {i : Nat} (hi : i ≤ attempts) :
    stem ++ Nat.repr (number + i) ∈ taken := by
  induction attempts generalizing number i with
  | zero =>
    obtain rfl : i = 0 := by omega
    exact h
  | succ attempts ih =>
    rw [numbered] at h
    split at h
    · rename_i hTaken
      cases i with
      | zero => simpa using hTaken
      | succ i =>
        have hNext := ih h (i := i) (by omega)
        rwa [Nat.add_right_comm, Nat.add_assoc] at hNext
    · rename_i hFree
      exact absurd h (by simpa using hFree)

theorem numbered_not_mem (stem : String) (taken : List String) (number : Nat) :
    numbered stem taken taken.length number ∉ taken := by
  intro hTaken
  -- one more name than there are taken ones would have to be among them
  have hInjective : Function.Injective fun i => stem ++ Nat.repr (number + i) := by
    intro i j hSame
    have hDigits := congrArg String.toList hSame
    simp only [String.toList_append, List.append_cancel_left_eq, String.toList_inj] at hDigits
    have hNumber := Text.repr_injective hDigits
    omega
  have hSubset : (List.range (taken.length + 1)).map (fun i => stem ++ Nat.repr (number + i)) ⊆ taken := by
    intro name hMem
    obtain ⟨i, hRange, rfl⟩ := List.mem_map.mp hMem
    exact mem_of_numbered_mem hTaken (by simpa [Nat.lt_succ_iff] using hRange)
  have hLength := ((List.nodup_range.map hInjective).subperm hSubset).length_le
  rw [List.length_map, List.length_range] at hLength
  omega

theorem unique_not_mem (wanted : String) (taken : List String) : unique wanted taken ∉ taken := by
  rw [unique]
  split
  · exact numbered_not_mem _ _ _
  · rename_i hFree
    simpa using hFree

theorem isName_unique {wanted : String} (h : IsName wanted) (taken : List String) : IsName (unique wanted taken) := by
  rw [unique]
  split
  · obtain ⟨n, hNumbered⟩ := exists_numbered_eq (stem wanted) taken taken.length 2
    rw [hNumbered]
    exact isName_append_repr (isName_stem h) n
  · exact h

theorem unique_of_not_mem {wanted : String} {taken : List String} (h : wanted ∉ taken) :
    unique wanted taken = wanted := by
  rw [unique, if_neg (by simpa using h)]

end ShadeGraph.UniformName
