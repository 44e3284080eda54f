import Mathlib.Data.List.Forall2

/-!
# Results that may be errors

When a chain of steps succeeds, every step of it did. The lemmas here take such chains apart.
-/

namespace ShadeGraph.Except

variable {ε ε' ε'' α β σ : Type}

@[simp] theorem bind_eq_ok_iff {x : Except ε α} {f : α → Except ε β} {b : β} :
    (x >>= f) = .ok b ↔ ∃ a, x = .ok a ∧ f a = .ok b := by
  cases x <;> simp [bind, Except.bind]

theorem bind_eq_error_iff {x : Except ε α} {f : α → Except ε β} {e : ε} :
    (x >>= f) = .error e ↔ x = .error e ∨ ∃ a, x = .ok a ∧ f a = .error e := by
  cases x <;> simp [bind, Except.bind]

theorem bind_unit_eq_ok_iff {x : Except ε Unit} {f : Unit → Except ε β} {b : β} :
    (x >>= f) = .ok b ↔ x = .ok () ∧ f () = .ok b := by
  cases x <;> simp [bind, Except.bind]

@[simp] theorem pure_eq_ok_iff {a b : α} : (pure a : Except ε α) = .ok b ↔ a = b := by
  simp [pure, Except.pure]

@[simp] theorem throw_ne_ok {e : ε} {a : α} : (throw e : Except ε α) ≠ .ok a := by
  intro h
  cases h

@[simp] theorem throw_bind (e : ε) (f : α → Except ε β) : ((throw e : Except ε α) >>= f) = throw e := rfl

theorem ok_bind (a : α) (f : α → Except ε β) : ((.ok a : Except ε α) >>= f) = f a := rfl

@[simp] theorem ite_throw_eq_ok_iff {c : Prop} [Decidable c] {e : ε} {x : Except ε α} {a : α} :
    (if c then throw e else x) = .ok a ↔ ¬c ∧ x = .ok a := by
  split <;> simp [*]

@[simp] theorem mapError_eq_ok_iff {f : ε → ε'} {x : Except ε α} {a : α} :
    x.mapError f = .ok a ↔ x = .ok a := by
  cases x <;> simp [Except.mapError]

@[simp] theorem map_eq_ok_iff {f : α → β} {x : Except ε α} {b : β} :
    x.map f = .ok b ↔ ∃ a, x = .ok a ∧ f a = b := by
  cases x <;> simp [Except.map]

/-- A decided property of a result gives the result that has it. -/
theorem exists_ok_of_decide {x : Except ε α} {P : α → Prop} [DecidablePred P]
    (h : x.toOption.any (fun a => decide (P a)) = true) : ∃ a, x = .ok a ∧ P a := by
  cases x with
  | error => cases h
  | ok a => exact ⟨a, rfl, of_decide_eq_true h⟩

theorem mapError_bind (g : ε → ε') (x : Except ε α) (f : α → Except ε β) :
    (x >>= f).mapError g = x.mapError g >>= fun a => (f a).mapError g := by
  cases x <;> rfl

theorem mapError_mapError (f : ε → ε') (g : ε' → ε'') (x : Except ε α) :
    (x.mapError f).mapError g = x.mapError fun e => g (f e) := by
  cases x <;> rfl

/-- Results that agree up to `f` agree up to what `f` determines. -/
theorem mapError_congr {f : ε → ε'} {g : ε → ε''} {x y : Except ε α} (h : x.mapError f = y.mapError f)
    (hError : ∀ e e', f e = f e' → g e = g e') : x.mapError g = y.mapError g := by
  cases x with
  | ok a => cases y <;> simp_all [Except.mapError]
  | error e =>
    cases y with
    | ok b => simp [Except.mapError] at h
    | error e' =>
      have hSame : f e = f e' := by simpa [Except.mapError] using h
      simp [Except.mapError, hError e e' hSame]

theorem mapError_mapM_congr {f g : α → Except ε β} {k : ε → ε'} {l : List α}
    (h : ∀ a ∈ l, (f a).mapError k = (g a).mapError k) : (l.mapM f).mapError k = (l.mapM g).mapError k := by
  induction l with
  | nil => rfl
  | cons a rest ih =>
    rw [List.mapM_cons, List.mapM_cons, mapError_bind, mapError_bind, h a List.mem_cons_self]
    congr 1
    funext b
    rw [mapError_bind, mapError_bind, ih fun c hMem => h c (List.mem_cons_of_mem a hMem)]

theorem mapM_congr {f g : α → Except ε β} {l : List α} (h : ∀ a ∈ l, f a = g a) : l.mapM f = l.mapM g := by
  induction l with
  | nil => rfl
  | cons a rest ih =>
    rw [List.mapM_cons, List.mapM_cons, h a List.mem_cons_self, ih fun b hMem => h b (List.mem_cons_of_mem a hMem)]

/-- What holds of a state and is kept by every step holds after a run of steps. -/
theorem foldlM_induction {step : σ → α → Except ε σ} {P : σ → Prop} {l : List α}
    (hStep : ∀ a ∈ l, ∀ s s', P s → step s a = .ok s' → P s') {s s' : σ} (hStart : P s)
    (h : l.foldlM step s = .ok s') : P s' := by
  induction l generalizing s with
  | nil =>
    rw [List.foldlM_nil, pure_eq_ok_iff] at h
    exact h ▸ hStart
  | cons a rest ih =>
    rw [List.foldlM_cons, bind_eq_ok_iff] at h
    obtain ⟨t, hFirst, hRest⟩ := h
    exact ih (fun b hMem => hStep b (List.mem_cons_of_mem a hMem))
      (hStep a List.mem_cons_self s t hStart hFirst) hRest

/-- A run succeeds when an invariant, which may look at what is still to come, lets every step succeed. -/
theorem exists_foldlM_eq_ok {step : σ → α → Except ε σ} {P : σ → List α → Prop}
    (hStep : ∀ s a rest, P s (a :: rest) → ∃ s', step s a = .ok s' ∧ P s' rest) {l : List α} {s : σ} (h : P s l) :
    ∃ s', l.foldlM step s = .ok s' ∧ P s' [] := by
  induction l generalizing s with
  | nil => exact ⟨s, rfl, h⟩
  | cons a rest ih =>
    obtain ⟨t, hOk, hNext⟩ := hStep s a rest h
    obtain ⟨s', hRest, hEnd⟩ := ih hNext
    exact ⟨s', by rw [List.foldlM_cons, hOk]; exact hRest, hEnd⟩

theorem foldlM_map_eq_ok_iff {step : σ → α → Except ε σ} {step' : σ → β → Except ε' σ} {f : α → β}
    (h : ∀ s a s', step' s (f a) = .ok s' ↔ step s a = .ok s') {l : List α} {s s' : σ} :
    (l.map f).foldlM step' s = .ok s' ↔ l.foldlM step s = .ok s' := by
  induction l generalizing s with
  | nil => simp
  | cons a rest ih => simp only [List.map_cons, List.foldlM_cons, bind_eq_ok_iff, h, ih]

theorem mapM_eq_ok_iff {f : α → Except ε β} {l : List α} {r : List β} :
    l.mapM f = .ok r ↔ List.Forall₂ (fun a b => f a = .ok b) l r := by
  induction l generalizing r with
  | nil =>
    rw [List.mapM_nil, pure_eq_ok_iff, List.forall₂_nil_left_iff]
    exact eq_comm
  | cons a rest ih =>
    simp only [List.mapM_cons, bind_eq_ok_iff, pure_eq_ok_iff, List.forall₂_cons_left_iff, ih]
    constructor
    · rintro ⟨b, hHead, r', hTail, rfl⟩
      exact ⟨b, r', hHead, hTail, rfl⟩
    · rintro ⟨b, r', hHead, hTail, rfl⟩
      exact ⟨b, hHead, r', hTail, rfl⟩

theorem exists_of_mem_mapM {f : α → Except ε β} {l : List α} {r : List β} (h : l.mapM f = .ok r) {b : β}
    (hMem : b ∈ r) : ∃ a ∈ l, f a = .ok b := by
  have hForall := mapM_eq_ok_iff.mp h
  clear h
  induction hForall with
  | nil => cases hMem
  | cons hHead _ ih =>
    rcases List.mem_cons.mp hMem with rfl | hTail
    · exact ⟨_, List.mem_cons_self, hHead⟩
    · obtain ⟨a, hIn, hEq⟩ := ih hTail
      exact ⟨a, List.mem_cons_of_mem _ hIn, hEq⟩

theorem exists_ok_of_mem_mapM {f : α → Except ε β} {l : List α} {r : List β} (h : l.mapM f = .ok r) {a : α}
    (hMem : a ∈ l) : ∃ b, f a = .ok b := by
  have hForall := mapM_eq_ok_iff.mp h
  clear h
  induction hForall with
  | nil => cases hMem
  | cons hHead _ ih =>
    rcases List.mem_cons.mp hMem with rfl | hTail
    · exact ⟨_, hHead⟩
    · exact ih hTail

theorem exists_of_mapM_eq_error {f : α → Except ε β} {l : List α} {e : ε} (h : l.mapM f = .error e) :
    ∃ a ∈ l, f a = .error e := by
  induction l with
  | nil => cases h
  | cons a rest ih =>
    rw [List.mapM_cons, bind_eq_error_iff] at h
    rcases h with hHead | ⟨b, -, hTail⟩
    · exact ⟨a, List.mem_cons_self, hHead⟩
    · rcases bind_eq_error_iff.mp hTail with hRest | ⟨r, -, hPure⟩
      · obtain ⟨c, hMem, hError⟩ := ih hRest
        exact ⟨c, List.mem_cons_of_mem a hMem, hError⟩
      · cases hPure

end ShadeGraph.Except
