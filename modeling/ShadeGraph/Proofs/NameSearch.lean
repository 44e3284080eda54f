import Mathlib.Logic.Function.Iterate
import ShadeGraph.Proofs.Names

/-!
# The search for a free name

A name that is taken gets a number, and the numbers are tried with a counter of 32 bits. Among one more number than
there are taken names one is free, so the counter does not run over unless nearly all its numbers are taken.
-/

namespace ShadeGraph.UniformName

/-! ## The least free number -/

/-- The least number from `first` on that makes a free name. -/
structure LeastFree (stem : String) (taken : List String) (first number : Nat) : Prop where
  first_le : first ≤ number
  free : stem ++ Nat.repr number ∉ taken
  taken_below : ∀ n, first ≤ n → n < number → stem ++ Nat.repr n ∈ taken

/-- Whatever number is chosen, those before it are taken. -/
theorem exists_numbered_eq_of_taken (stem : String) (taken : List String) (attempts first : Nat) :
    ∃ number, numbered stem taken attempts first = stem ++ Nat.repr number ∧ first ≤ number ∧
      number ≤ first + attempts ∧ ∀ n, first ≤ n → n < number → stem ++ Nat.repr n ∈ taken := by
  induction attempts generalizing first with
  | zero => exact ⟨first, rfl, Nat.le_refl _, Nat.le_refl _, fun n hFirst hBelow => by omega⟩
  | succ attempts ih =>
    rw [numbered]
    split
    · rename_i hTaken
      obtain ⟨number, hNumbered, hFirst, hLast, hBelow⟩ := ih (first + 1)
      refine ⟨number, hNumbered, by omega, by omega, fun n hFrom hTo => ?_⟩
      by_cases hSame : n = first
      · rw [hSame]
        simpa using hTaken
      · exact hBelow n (by omega) hTo
    · exact ⟨first, rfl, Nat.le_refl _, Nat.le_add_right _ _, fun n hFirst hBelow => by omega⟩

theorem exists_leastFree (stem : String) (taken : List String) (first : Nat) :
    ∃ number, LeastFree stem taken first number ∧ number ≤ first + taken.length ∧
      numbered stem taken taken.length first = stem ++ Nat.repr number := by
  obtain ⟨number, hNumbered, hFirst, hLast, hBelow⟩ := exists_numbered_eq_of_taken stem taken taken.length first
  have hFree := numbered_not_mem stem taken first
  rw [hNumbered] at hFree
  exact ⟨number, ⟨hFirst, hFree, hBelow⟩, hLast, hNumbered⟩

theorem unique_of_mem {wanted : String} {taken : List String} (h : wanted ∈ taken) :
    unique wanted taken = numbered (stem wanted) taken taken.length 2 := by
  rw [unique, if_pos (by simpa using h)]

/-! ## The search -/

/-- A search as it goes. -/
inductive Search
  /-- The name with this number is tried next. -/
  | trying (counter : UInt32)
  | found (name : String)
  /-- The number after the greatest one was asked for. -/
  | overflow
  deriving DecidableEq, Repr

namespace Search

/-- A wanted name that is free is taken as it is. -/
def start (wanted : String) (taken : List String) : Search :=
  if taken.contains wanted then trying 2 else found wanted

/-- Tries one number, and counts up if its name is taken. -/
def step (stem : String) (taken : List String) : Search → Search
  | trying counter =>
    if taken.contains (stem ++ Nat.repr counter.toNat) then
      if counter.toNat + 1 < UInt32.size then trying (counter + 1) else overflow
    else found (stem ++ Nat.repr counter.toNat)
  | ended => ended

variable {stem : String} {taken : List String}

theorem step_trying_of_mem {n : Nat} (hTaken : stem ++ Nat.repr n ∈ taken) (hFits : n + 1 < UInt32.size) :
    step stem taken (trying (.ofNat n)) = trying (.ofNat (n + 1)) := by
  have hCounter : (UInt32.ofNat n).toNat = n := UInt32.toNat_ofNat_of_lt' (by omega)
  rw [step, hCounter, if_pos (by simpa using hTaken), if_pos hFits, UInt32.ofNat_add]
  rfl

theorem step_trying_of_not_mem {n : Nat} (hFree : stem ++ Nat.repr n ∉ taken) (hFits : n < UInt32.size) :
    step stem taken (trying (.ofNat n)) = found (stem ++ Nat.repr n) := by
  have hCounter : (UInt32.ofNat n).toNat = n := UInt32.toNat_ofNat_of_lt' hFits
  rw [step, hCounter, if_neg (by simpa using hFree)]

/-- The counter goes through numbers that are taken one by one. -/
theorem iterate_step_trying {first : Nat} (rounds : Nat)
    (hTaken : ∀ n, first ≤ n → n < first + rounds → stem ++ Nat.repr n ∈ taken)
    (hFits : first + rounds < UInt32.size) :
    (step stem taken)^[rounds] (trying (.ofNat first)) = trying (.ofNat (first + rounds)) := by
  induction rounds with
  | zero => rfl
  | succ rounds ih =>
    rw [Function.iterate_succ_apply', ih (fun n hFrom hTo => hTaken n hFrom (by omega)) (by omega)]
    exact step_trying_of_mem (hTaken _ (by omega) (by omega)) hFits

theorem iterate_step_of_leastFree {first number : Nat} (h : LeastFree stem taken first number)
    (hFits : number < UInt32.size) :
    (step stem taken)^[number - first + 1] (trying (.ofNat first)) = found (stem ++ Nat.repr number) := by
  have hLast : first + (number - first) = number := Nat.add_sub_cancel' h.first_le
  rw [Function.iterate_succ_apply',
    iterate_step_trying (number - first) (fun n hFrom hTo => h.taken_below n hFrom (by omega)) (by omega), hLast]
  exact step_trying_of_not_mem h.free hFits

/-- With few taken names the search ends, and with the name that `unique` gives. -/
theorem exists_rounds (wanted : String) (hFew : taken.length < UInt32.size - 2) :
    ∃ rounds ≤ taken.length + 1,
      (step (UniformName.stem wanted) taken)^[rounds] (start wanted taken) = found (unique wanted taken) := by
  by_cases hMem : wanted ∈ taken
  · obtain ⟨number, hLeast, hBound, hNumbered⟩ := exists_leastFree (UniformName.stem wanted) taken 2
    refine ⟨number - 2 + 1, by omega, ?_⟩
    rw [start, if_pos (by simpa using hMem), unique_of_mem hMem, hNumbered]
    exact iterate_step_of_leastFree hLeast (by omega)
  · refine ⟨0, Nat.zero_le _, ?_⟩
    rw [start, if_neg (by simpa using hMem), unique_of_not_mem hMem]
    rfl

end Search

/-! ## Stems -/

/-- What is left of a name without the digits at its end, or the fallback if that is nothing. -/
def IsStem (name stem : String) : Prop :=
  ∃ rest digits, name.toList = rest ++ digits ∧ (∀ c ∈ digits, c.isDigit = true) ∧
    (∀ c ∈ rest.getLast?, c.isDigit = false) ∧ stem = if rest = [] then fallback else String.ofList rest

theorem isStem_stem (name : String) : IsStem name (stem name) := by
  refine ⟨(name.toList.reverse.dropWhile Char.isDigit).reverse, (name.toList.reverse.takeWhile Char.isDigit).reverse,
    ?_, ?_, ?_, ?_⟩
  · rw [← List.reverse_append, List.takeWhile_append_dropWhile, List.reverse_reverse]
  · intro c hMem
    exact List.all_eq_true.mp List.all_takeWhile c (List.mem_reverse.mp hMem)
  · intro c hLast
    rw [List.getLast?_reverse] at hLast
    have hHead := List.head?_dropWhile_not Char.isDigit name.toList.reverse
    rw [hLast] at hHead
    simpa using hHead
  · rw [stem]
    split
    · rename_i hEmpty
      rw [if_pos hEmpty]
    · rename_i hRest
      rw [if_neg hRest]

/-- A wanted name is kept if it is free, and gets the least number from 2 on that makes it free if not. The search for
that number ends without an overflow. What is made of a sanitized name is one too. -/
theorem unique_is_least_free_name (wanted : String) {taken : List String} (hFew : taken.length < UInt32.size - 2) :
    (∃ rounds ≤ taken.length + 1,
      (Search.step (stem wanted) taken)^[rounds] (.start wanted taken) = .found (unique wanted taken)) ∧
    (wanted ∉ taken → unique wanted taken = wanted) ∧
    (wanted ∈ taken → ∃ number, LeastFree (stem wanted) taken 2 number ∧ number ≤ taken.length + 2 ∧
      unique wanted taken = stem wanted ++ Nat.repr number) ∧
    IsStem wanted (stem wanted) ∧
    ∀ raw, IsName (sanitize raw) ∧ sanitize (sanitize raw) = sanitize raw ∧
      (wanted = sanitize raw → sanitize (unique wanted taken) = unique wanted taken) := by
  refine ⟨Search.exists_rounds wanted hFew, unique_of_not_mem, ?_, isStem_stem wanted, ?_⟩
  · intro hMem
    obtain ⟨number, hLeast, hBound, hNumbered⟩ := exists_leastFree (stem wanted) taken 2
    exact ⟨number, hLeast, by omega, (unique_of_mem hMem).trans hNumbered⟩
  · intro raw
    refine ⟨isName_sanitize raw, sanitize_of_isName (isName_sanitize raw), ?_⟩
    rintro rfl
    exact sanitize_of_isName (isName_unique (isName_sanitize raw) taken)

/-- Both the name and its next number are taken. -/
theorem unique_is_least_free_name_mask :
    ["mask2", "mask3"].length < UInt32.size - 2 ∧ "mask2" ∈ ["mask2", "mask3"] ∧
      (∃ rounds ≤ 3, (Search.step (stem "mask2") ["mask2", "mask3"])^[rounds] (.start "mask2" ["mask2", "mask3"]) =
        .found (unique "mask2" ["mask2", "mask3"])) ∧
      (∃ number, LeastFree (stem "mask2") ["mask2", "mask3"] 2 number ∧ number ≤ 4 ∧
        unique "mask2" ["mask2", "mask3"] = stem "mask2" ++ Nat.repr number) ∧
      unique "mask2" ["mask2", "mask3"] = "mask4" := by
  have hFew : ["mask2", "mask3"].length < UInt32.size - 2 := by decide
  have hTaken : "mask2" ∈ ["mask2", "mask3"] := by decide
  obtain ⟨hRounds, -, hLeast, -⟩ := unique_is_least_free_name "mask2" hFew
  exact ⟨hFew, hTaken, hRounds, hLeast hTaken, by decide⟩

end ShadeGraph.UniformName
