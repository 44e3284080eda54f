import Mathlib.Data.List.TakeWhile
import Mathlib.Tactic.Positivity
import Mathlib.Tactic.Ring
import ShadeGraph.Number.Decimal
import ShadeGraph.Number.Reading
import ShadeGraph.Proofs.Text

/-!
# Numbers read back

The text of a number is read as the number, bit for bit, unless it is not a number: all of these are written
the same. A decimal on some grid was chosen because it reads back, and on the finest grid every number is exact.
-/

namespace ShadeGraph

/-! ## Rounding -/

theorem roundHalfEven_mul_right (num den : Nat) {k : Nat} (hk : 0 < k) :
    roundHalfEven (num * k) (den * k) = roundHalfEven num den := by
  have hDiv : num * k / (den * k) = num / den := Nat.mul_div_mul_right num den hk
  have hMod : num * k % (den * k) = num % den * k := Nat.mul_mod_mul_right k num den
  have hTwice : 2 * (num % den * k) = 2 * (num % den) * k := (Nat.mul_assoc 2 (num % den) k).symm
  simp only [roundHalfEven, hDiv, hMod, hTwice, Nat.mul_lt_mul_right hk]

theorem roundHalfEven_mul (n : Nat) {den : Nat} (hden : 0 < den) : roundHalfEven (n * den) den = n := by
  simp [roundHalfEven, Nat.mul_div_cancel n hden, hden]

namespace Single

theorem nearestMagnitude_mul_right (num den : Nat) {k : Nat} (hk : 0 < k) :
    nearestMagnitude (num * k) (den * k) = nearestMagnitude num den := by
  have hScaled : num * k * 2 ^ 149 = num * 2 ^ 149 * k := by ring
  have hDiv : num * 2 ^ 149 * k / (den * k) = num * 2 ^ 149 / den := Nat.mul_div_mul_right _ den hk
  have hDen (step : Nat) : den * k * 2 ^ step = den * 2 ^ step * k := by ring
  simp only [nearestMagnitude, hScaled, hDiv, hDen, roundHalfEven_mul_right _ _ hk]

/-! ## The fields of a number -/

theorem ofMagnitude_magnitude (x : Single) : ofMagnitude x.negative x.magnitude = x := by
  obtain ⟨negative, exponent, fraction⟩ := x
  have hExponent : (exponent.val * 2 ^ 23 + fraction.val) / 2 ^ 23 % 256 = exponent.val := by omega
  have hFraction : (exponent.val * 2 ^ 23 + fraction.val) % 8388608 = fraction.val := by omega
  simp only [ofMagnitude, magnitude, mk.injEq, true_and]
  exact ⟨Fin.ext hExponent, Fin.ext hFraction⟩

theorem magnitude_lt {x : Single} (h : x.isFinite = true) : x.magnitude < infinityMagnitude := by
  have hExponent : x.exponent.val < 255 := by simpa [isFinite] using h
  have hFraction := x.fraction.isLt
  simp only [magnitude, infinityMagnitude]
  omega

theorem units_pos {x : Single} (h : x.isZero = false) : 0 < x.units := by
  rw [units]
  split
  · rename_i hExponent
    have hFraction : x.fraction.val ≠ 0 := by simpa [isZero, hExponent] using h
    omega
  · positivity

theorem nearestMagnitude_units {x : Single} (h : x.isFinite = true) :
    nearestMagnitude x.units (2 ^ 149) = x.magnitude := by
  have hScaled : x.units * 2 ^ 149 / 2 ^ 149 = x.units := Nat.mul_div_cancel _ (by positivity)
  have hRound (step : Nat) : roundHalfEven (x.units * 2 ^ 149) (2 ^ 149 * 2 ^ step) =
      roundHalfEven x.units (2 ^ step) := by
    rw [Nat.mul_comm (2 ^ 149) (2 ^ step), roundHalfEven_mul_right _ _ (by positivity)]
  have hField : (x.units.log2 - 23) * 2 ^ 23 + roundHalfEven x.units (2 ^ (x.units.log2 - 23)) = x.magnitude := by
    have hFraction := x.fraction.isLt
    by_cases hExponent : x.exponent.val = 0
    -- below the least power of two numbers are spaced as the units are
    · have hUnits : x.units = x.fraction.val := if_pos hExponent
      have hStep : x.units.log2 - 23 = 0 := by
        by_cases hZero : x.units = 0
        · rw [hZero]
          rfl
        · have hLog : x.units.log2 < 23 := (Nat.log2_lt hZero).mpr (by omega)
          omega
      have hExact : roundHalfEven x.fraction.val 1 = x.fraction.val := by
        simpa using roundHalfEven_mul x.fraction.val Nat.one_pos
      rw [hStep, pow_zero, hUnits, hExact, magnitude, hExponent]
    · have hUnits : x.units = (2 ^ 23 + x.fraction.val) * 2 ^ (x.exponent.val - 1) := if_neg hExponent
      have hLog : x.units.log2 = 23 + (x.exponent.val - 1) := by
        rw [hUnits, Nat.log2_eq_iff (by positivity)]
        constructor
        · rw [pow_add]
          exact Nat.mul_le_mul_right _ (by omega)
        · rw [show 23 + (x.exponent.val - 1) + 1 = 24 + (x.exponent.val - 1) by omega, pow_add]
          exact Nat.mul_lt_mul_of_pos_right (by omega) (by positivity)
      rw [hLog, Nat.add_sub_cancel_left, hUnits, roundHalfEven_mul _ (by positivity), magnitude]
      omega
  rw [nearestMagnitude, hScaled, hRound, hField]
  exact Nat.min_eq_left (Nat.le_of_lt (magnitude_lt h))

/-! ## The decimal that is written -/

/-- What is chosen for a number is nearest to it. -/
theorem shortest_reads_back {x : Single} (hFinite : x.isFinite = true) (hZero : x.isZero = false) :
    x.shortest.1 ≠ 0 ∧ nearestMagnitude (x.shortest.1 * 10 ^ 38) (10 ^ x.shortest.2) = x.magnitude := by
  rw [shortest]
  cases hFound : (List.range 188).findSome? fun place => (gridHit x place).map fun n => (n, place) with
  | some found =>
    obtain ⟨place, -, hHit⟩ := List.exists_of_findSome?_eq_some hFound
    obtain ⟨n, hGrid, rfl⟩ := Option.map_eq_some_iff.mp hHit
    rw [gridHit] at hGrid
    have hTest := List.find?_some hGrid
    simpa using hTest
  | none =>
    -- the decimal with all digits is exact, since units are powers of two
    have hScale : x.units * 5 ^ 149 * 10 ^ 38 = x.units * (5 ^ 149 * 10 ^ 38) := Nat.mul_assoc _ _ _
    have hTen : 10 ^ 187 = 2 ^ 149 * (5 ^ 149 * 10 ^ 38) := by decide +kernel
    refine ⟨Nat.mul_ne_zero (Nat.pos_iff_ne_zero.mp (units_pos hZero)) (by positivity), ?_⟩
    simp only [Option.getD_none]
    rw [hScale, hTen, nearestMagnitude_mul_right _ _ (by positivity), nearestMagnitude_units hFinite]

end Single

/-! ## Reading it -/

namespace Text

theorem digitsValue_append_lastDigits (digits : List Char) (width n : Nat) :
    digitsValue (digits ++ lastDigits width n) = digitsValue digits * 10 ^ width + n % 10 ^ width := by
  induction width generalizing n with
  | zero => simp [lastDigits, Nat.mod_one]
  | succ width ih =>
    have hDigit : (Nat.digitChar (n % 10)).toNat - '0'.toNat = n % 10 := by
      have hAll : ∀ d < 10, (Nat.digitChar d).toNat - '0'.toNat = d := by decide
      exact hAll _ (Nat.mod_lt n (by decide))
    have hLast (front : List Char) (c : Char) :
        digitsValue (front ++ [c]) = 10 * digitsValue front + (c.toNat - '0'.toNat) := by
      simp [digitsValue]
    rw [lastDigits, ← List.append_assoc, hLast, ih, hDigit, pow_succ', Nat.mod_mul]
    ring

theorem isDigit_of_mem_lastDigits {width n : Nat} {c : Char} (h : c ∈ lastDigits width n) : c.isDigit = true := by
  induction width generalizing n with
  | zero => cases h
  | succ width ih =>
    rcases List.mem_append.mp h with hFront | hLast
    · exact ih hFront
    · have hAll : ∀ d < 10, (Nat.digitChar d).isDigit = true := by decide
      rw [List.mem_singleton.mp hLast]
      exact hAll _ (Nat.mod_lt n (by decide))

theorem length_lastDigits (width n : Nat) : (lastDigits width n).length = width := by
  induction width generalizing n with
  | zero => rfl
  | succ width ih => rw [lastDigits, List.length_append, ih, List.length_singleton]

end Text

namespace Numeral

theorem ofText?_digits {whole : List Char} (hWhole : ∀ c ∈ whole, c.isDigit = true) (hNe : whole ≠ []) :
    ofText? whole = some ⟨whole, [], 0⟩ := by
  simp [ofText?, List.takeWhile_eq_self_iff.mpr hWhole, List.dropWhile_eq_nil_iff.mpr hWhole, hNe, ending?]

theorem ofText?_point {whole decimals : List Char} (hWhole : ∀ c ∈ whole, c.isDigit = true) (hNe : whole ≠ [])
    (hDecimals : ∀ c ∈ decimals, c.isDigit = true) :
    ofText? (whole ++ '.' :: decimals) = some ⟨whole, decimals, 0⟩ := by
  have hTake : (whole ++ '.' :: decimals).takeWhile Char.isDigit = whole := by
    rw [List.takeWhile_append_of_pos hWhole]
    simp
  have hDrop : (whole ++ '.' :: decimals).dropWhile Char.isDigit = '.' :: decimals := by
    rw [List.dropWhile_append_of_pos hWhole]
    simp
  simp [ofText?, hTake, hDrop, List.takeWhile_eq_self_iff.mpr hDecimals, List.dropWhile_eq_nil_iff.mpr hDecimals, hNe,
    ending?]

theorem nearest_of_power_zero (negative : Bool) {whole decimals : List Char}
    (h : Text.digitsValue (whole ++ decimals) ≠ 0) :
    nearest negative ⟨whole, decimals, 0⟩ =
      Single.nearest negative (Text.digitsValue (whole ++ decimals)) (10 ^ decimals.length) := by
  simp only [nearest]
  rw [if_neg, if_neg]
  · simp
  · omega
  · simp only [h, decide_false, Bool.false_or, decide_eq_true_eq]
    omega

end Numeral

namespace Single

theorem head?_positional (count place : Nat) : ∃ c, (positional count place).head? = some c ∧ c.isDigit = true := by
  have hDigits (n : Nat) (rest : List Char) :
      ∃ c, (Nat.toDigits 10 n ++ rest).head? = some c ∧ c.isDigit = true := by
    obtain ⟨c, tail, hDigits⟩ := List.exists_cons_of_ne_nil (Nat.toDigits_ne_nil (n := n) (b := 10))
    refine ⟨c, by rw [hDigits]; rfl, Nat.isDigit_of_mem_toDigits (b := 10) (n := n) (by decide) (by decide) ?_⟩
    rw [hDigits]
    exact List.mem_cons_self
  rw [positional]
  split
  · simpa using hDigits _ []
  · exact hDigits _ _

/-- A decimal that is written out is read as the number nearest to it. -/
theorem unsigned?_positional (negative : Bool) {count : Nat} (place : Nat) (h : count ≠ 0) :
    unsigned? negative (positional count place) =
      some (ofMagnitude negative (nearestMagnitude (count * 10 ^ 38) (10 ^ place))) := by
  have hDigits (n : Nat) : ∀ c ∈ Nat.toDigits 10 n, c.isDigit = true := fun c hMem =>
    Nat.isDigit_of_mem_toDigits (by decide) (by decide) hMem
  rw [positional]
  split
  · rename_i hPlace
    have hValue : Text.digitsValue (Nat.toDigits 10 (count * 10 ^ (38 - place)) ++ []) = count * 10 ^ (38 - place) := by
      rw [List.append_nil, Text.digitsValue_toDigits]
    have hNe : count * 10 ^ (38 - place) ≠ 0 := Nat.mul_ne_zero h (by positivity)
    have hScale : count * 10 ^ 38 = count * 10 ^ (38 - place) * 10 ^ place := by
      rw [Nat.mul_assoc, ← pow_add, Nat.sub_add_cancel hPlace]
    have hMagnitude := nearestMagnitude_mul_right (count * 10 ^ (38 - place)) 1 (k := 10 ^ place) (by positivity)
    rw [Nat.one_mul] at hMagnitude
    rw [unsigned?, Numeral.ofText?_digits (hDigits _) Nat.toDigits_ne_nil]
    simp only [Numeral.nearest_of_power_zero negative (hValue ▸ hNe), hValue, List.length_nil, pow_zero, nearest]
    rw [hScale, hMagnitude]
  · rename_i hPlace
    have hSplit : place = place - 38 + 38 := by omega
    have hValue : Text.digitsValue (Nat.toDigits 10 (count / 10 ^ (place - 38)) ++ Text.lastDigits (place - 38) count) =
        count := by
      rw [Text.digitsValue_append_lastDigits, Text.digitsValue_toDigits, Nat.div_add_mod']
    have hMagnitude := nearestMagnitude_mul_right count (10 ^ (place - 38)) (k := 10 ^ 38) (by positivity)
    rw [← pow_add, ← hSplit] at hMagnitude
    rw [unsigned?, Numeral.ofText?_point (hDigits _) Nat.toDigits_ne_nil fun c => Text.isDigit_of_mem_lastDigits]
    simp only [Numeral.nearest_of_power_zero negative (hValue.symm ▸ h), hValue, Text.length_lastDigits, nearest]
    rw [hMagnitude]

/-- The one number that stands for all that are not a number. -/
def canonical (x : Single) : Single := if x.isNaN then nan else x

theorem ofText?_signed {x : Single} {magnitude : List Char} {y : Single}
    (hHead : ∃ c, magnitude.head? = some c ∧ c ≠ '-' ∧ c ≠ '+') (h : unsigned? x.negative magnitude = some y) :
    ofText? (x.signed magnitude).toList = some y := by
  rw [signed, String.toList_ofList]
  cases hNegative : x.negative with
  | true =>
    rw [hNegative] at h
    exact h
  | false =>
    rw [hNegative] at h
    obtain ⟨c, hFirst, hMinus, hPlus⟩ := hHead
    cases magnitude with
    | nil => cases hFirst
    | cons first rest =>
      cases hFirst
      rw [if_neg Bool.false_ne_true, ofText?]
      · exact h
      · rintro rest' hSame
        exact hMinus (List.cons.inj hSame).1
      · rintro rest' hSame
        exact hPlus (List.cons.inj hSame).1

/-- The text of a number is read as the number. -/
theorem ofText?_text (x : Single) : ofText? x.text.toList = some x.canonical := by
  rw [text, canonical]
  split
  · rfl
  · rename_i hNumber
    split
    · rename_i hInfinite
      have hInfinity : infinity x.negative = x := by
        obtain ⟨negative, exponent, fraction⟩ := x
        have hExponent : exponent.val = 255 := by
          have hGe : ¬exponent.val < 255 := by simpa [isFinite] using hInfinite
          have hLt := exponent.isLt
          omega
        have hFraction : fraction.val = 0 := by simpa [isNaN, hExponent] using hNumber
        simp only [infinity, mk.injEq, true_and]
        exact ⟨Fin.ext hExponent.symm, Fin.ext hFraction.symm⟩
      apply ofText?_signed ⟨'i', rfl, by decide, by decide⟩
      rw [hInfinity.symm]
      cases x.negative <;> rfl
    · rename_i hFinite
      split
      · rename_i hZero
        apply ofText?_signed ⟨'0', rfl, by decide, by decide⟩
        have hValue : unsigned? x.negative ['0'] = some (ofMagnitude x.negative 0) := by cases x.negative <;> rfl
        have hMagnitude : x.magnitude = 0 := by simpa [isZero, magnitude] using hZero
        rw [hValue, ← hMagnitude, ofMagnitude_magnitude]
      · rename_i hZero
        have hFinite' : x.isFinite = true := by simpa using hFinite
        have hZero' : x.isZero = false := by simpa using hZero
        obtain ⟨hNe, hReads⟩ := shortest_reads_back hFinite' hZero'
        obtain ⟨c, hHead, hDigit⟩ := head?_positional x.shortest.1 x.shortest.2
        apply ofText?_signed ⟨c, hHead, ?_, ?_⟩
        · rw [unsigned?_positional _ _ hNe, hReads, ofMagnitude_magnitude]
        · rintro rfl
          cases hDigit
        · rintro rfl
          cases hDigit

end Single

end ShadeGraph
