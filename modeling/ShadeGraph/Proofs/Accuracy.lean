import ShadeGraph.Proofs.Literals
import Mathlib.Tactic.FieldSimp
import Mathlib.Tactic.Linarith

/-!
# How near literals come

The decimal that is written for a number is within half a unit of its last place, also where the number is as small or
as great as single precision goes. A literal holds one such decimal for each component, and a matrix holds them column
by column.
-/

namespace ShadeGraph

/-! ## Rounding -/

theorem roundHalfEven_mul_near (num : Nat) {den : Nat} (hDen : 0 < den) :
    2 * (roundHalfEven num den * den) ≤ 2 * num + den ∧ 2 * num ≤ 2 * (roundHalfEven num den * den) + den := by
  have hDiv := Nat.div_add_mod' num den
  have hMod := Nat.mod_lt num hDen
  have hNext : (num / den + 1) * den = num / den * den + den := Nat.succ_mul _ _
  unfold roundHalfEven
  dsimp only
  split
  · omega
  · split
    · rw [hNext]
      omega
    · split
      · omega
      · rw [hNext]
        omega

theorem abs_roundHalfEven_sub_le (num : Nat) {den : Nat} (hDen : 0 < den) :
    |(roundHalfEven num den : ℚ) - num / den| ≤ 1 / 2 := by
  have hPos : (0 : ℚ) < den := by exact_mod_cast hDen
  obtain ⟨hAbove, hBelow⟩ := roundHalfEven_mul_near num hDen
  have hAbove' : 2 * (roundHalfEven num den * den : ℚ) ≤ 2 * num + den := by exact_mod_cast hAbove
  have hBelow' : 2 * (num : ℚ) ≤ 2 * (roundHalfEven num den * den) + den := by exact_mod_cast hBelow
  have hQuotient : (roundHalfEven num den : ℚ) - num / den = (roundHalfEven num den * den - num) / den := by
    field_simp
  rw [hQuotient, abs_div, abs_of_pos hPos, div_le_iff₀ hPos, abs_le]
  constructor <;> linarith

/-! ## Decimals -/

/-- The factor that a minus sign stands for. -/
def signOf (negative : Bool) : ℚ := if negative then -1 else 1

theorem abs_signOf (negative : Bool) : |signOf negative| = 1 := by
  cases negative <;> simp [signOf]

/-- A decimal as it is written: at least one digit before the point, and a fixed number of digits after it. -/
structure FixedDecimal (places : Nat) where
  negative : Bool
  whole : List Char
  decimals : List Char
  whole_ne_nil : whole ≠ []
  isDigit_whole : ∀ c ∈ whole, c.isDigit = true
  isDigit_decimals : ∀ c ∈ decimals, c.isDigit = true
  length_decimals : decimals.length = places

namespace FixedDecimal

variable {places : Nat}

def text (d : FixedDecimal places) : String :=
  String.ofList ((if d.negative then ['-'] else []) ++ d.whole ++ '.' :: d.decimals)

def toRat (d : FixedDecimal places) : ℚ :=
  signOf d.negative * (Text.digitsValue d.whole + Text.digitsValue d.decimals / 10 ^ places)

end FixedDecimal

/-! ## Numbers -/

namespace Single

/-- The number that the fields of a finite number stand for. -/
def toRat (x : Single) : ℚ :=
  let significand : ℚ := (if x.exponent.val = 0 then 0 else 1) + x.fraction.val / 2 ^ 23
  signOf x.negative * significand * 2 ^ ((max x.exponent.val 1 : ℤ) - 127)

theorem toRat_eq_units (x : Single) : x.toRat = signOf x.negative * (x.units / 2 ^ 149) := by
  rw [toRat, units, mul_assoc]
  congr 1
  by_cases hZero : x.exponent.val = 0
  · have hPower : (max (x.exponent.val : ℤ) 1) - 127 = -126 := by omega
    rw [if_pos hZero, if_pos hZero, hPower, zpow_neg, zero_add, div_eq_mul_inv, div_eq_mul_inv, mul_assoc]
    norm_num
  · obtain ⟨k, hExponent⟩ := Nat.exists_eq_succ_of_ne_zero hZero
    have hPower : (max (x.exponent.val : ℤ) 1) - 127 = k - 126 := by omega
    rw [if_neg hZero, if_neg hZero, hPower, hExponent, zpow_sub₀ two_ne_zero, Nat.succ_sub_one]
    push_cast
    field_simp
    norm_num

/-- The decimal that is written for a number. -/
def decimal (x : Single) (places : Nat) : FixedDecimal places :=
  let count := roundHalfEven (x.units * 10 ^ places) (2 ^ 149)
  { negative := x.negative
    whole := Nat.toDigits 10 (count / 10 ^ places)
    decimals := Text.lastDigits places count
    whole_ne_nil := Nat.toDigits_ne_nil
    isDigit_whole := fun _ => Nat.isDigit_of_mem_toDigits (by decide) (by decide)
    isDigit_decimals := fun _ => Text.isDigit_of_mem_lastDigits
    length_decimals := Text.length_lastDigits places count }

theorem text_decimal (x : Single) (places : Nat) : (x.decimal places).text = x.fixed places := by
  rw [fixed, signed, FixedDecimal.text]
  cases hSign : x.negative <;> simp [decimal, hSign]

theorem toRat_decimal (x : Single) (places : Nat) :
    (x.decimal places).toRat =
      signOf x.negative * (roundHalfEven (x.units * 10 ^ places) (2 ^ 149) / 10 ^ places) := by
  have hDecimals (n : Nat) : Text.digitsValue (Text.lastDigits places n) = n % 10 ^ places := by
    simpa [Text.digitsValue] using Text.digitsValue_append_lastDigits [] places n
  have hSplit (n : Nat) : ((n / 10 ^ places : Nat) : ℚ) + (n % 10 ^ places : Nat) / 10 ^ places = n / 10 ^ places := by
    have hDiv : ((n / 10 ^ places : Nat) : ℚ) * 10 ^ places + (n % 10 ^ places : Nat) = n := by
      exact_mod_cast Nat.div_add_mod' n (10 ^ places)
    rw [← hDiv]
    field_simp
  rw [FixedDecimal.toRat, decimal, Text.digitsValue_toDigits, hDecimals, hSplit]

theorem abs_toRat_decimal_sub_le (x : Single) (places : Nat) :
    |(x.decimal places).toRat - x.toRat| ≤ 1 / 2 / 10 ^ places := by
  have hSteps : 0 < 2 ^ 149 := by positivity
  have hNear := abs_roundHalfEven_sub_le (x.units * 10 ^ places) hSteps
  simp only [Nat.cast_mul, Nat.cast_pow, Nat.cast_ofNat] at hNear
  have hScale (count : ℚ) : count / 10 ^ places - x.units / 2 ^ 149 =
      (count - x.units * 10 ^ places / 2 ^ 149) / 10 ^ places := by
    field_simp
  have hTen : (0 : ℚ) < 10 ^ places := by positivity
  rw [toRat_decimal, toRat_eq_units, ← mul_sub, abs_mul, abs_signOf, one_mul, hScale, abs_div, abs_of_pos hTen]
  gcongr

/-- The text is a decimal with six places and the number's sign, half a unit of the last place away at most. -/
def WrittenAs (x : Single) (text : String) : Prop :=
  ∃ d : FixedDecimal 6, d.text = text ∧ d.negative = x.negative ∧ |d.toRat - x.toRat| ≤ 5 / 10 ^ 7

theorem writtenAs_of_literal {x : Single} {text : String} (h : x.literal = .ok text) : x.WrittenAs text := by
  rw [literal] at h
  split at h
  · cases h
    refine ⟨x.decimal 6, text_decimal x 6, rfl, ?_⟩
    calc |(x.decimal 6).toRat - x.toRat|
      _ ≤ 1 / 2 / 10 ^ 6 := abs_toRat_decimal_sub_le x 6
      _ = 5 / 10 ^ 7 := by norm_num
  · cases h

end Single

/-! ## Values -/

inductive Axis
  | x
  | y
  | z

def Axis.pick {α : Type} (x y z : α) : Axis → α
  | .x => x
  | .y => y
  | .z => z

def Vec3.coordinate (v : Vec3) (axis : Axis) : Single := axis.pick v.x v.y v.z

/-- An element of the basis, by its row and its column. -/
def Transform.element (t : Transform) (row column : Axis) : Single :=
  (row.pick t.row0 t.row1 t.row2).coordinate column

/-- The numerals of three components, in order. -/
def Axis.listed (numeral : Axis → String) : String := numeral .x ++ ", " ++ numeral .y ++ ", " ++ numeral .z

theorem Vec3.exists_numerals {v : Vec3} {text : String} (h : v.components = .ok text) :
    ∃ numeral : Axis → String, (∀ axis, (v.coordinate axis).WrittenAs (numeral axis)) ∧ Axis.listed numeral = text := by
  simp only [components, Except.bind_eq_ok_iff, Except.pure_eq_ok_iff] at h
  obtain ⟨x, hX, y, hY, z, hZ, rfl⟩ := h
  refine ⟨Axis.pick x y z, fun axis => ?_, rfl⟩
  cases axis with
  | x => exact Single.writtenAs_of_literal hX
  | y => exact Single.writtenAs_of_literal hY
  | z => exact Single.writtenAs_of_literal hZ

namespace PortValue

/-- A vector of three numerals and a fourth entry. -/
def column (numeral : Axis → String) (last : String) : String := "vec4(" ++ Axis.listed numeral ++ ", " ++ last ++ ")"

/-- How values are written. The numerals of a matrix are numbered by their columns first, and then by their rows. -/
inductive WrittenAs : PortValue → String → Prop
  | scalar {x : Single} {text : String} (hText : x.WrittenAs text) : WrittenAs (.scalar x) text
  | vector3 {v : Vec3} {numeral : Axis → String} (hNumeral : ∀ axis, (v.coordinate axis).WrittenAs (numeral axis)) :
      WrittenAs (.vector3 v) ("vec3(" ++ Axis.listed numeral ++ ")")
  | no : WrittenAs (.boolean false) "false"
  | yes : WrittenAs (.boolean true) "true"
  | transform {t : Transform} {numeral : Axis → Axis → String} {origin : Axis → String}
      (hNumeral : ∀ column row, (t.element row column).WrittenAs (numeral column row))
      (hOrigin : ∀ row, (t.origin.coordinate row).WrittenAs (origin row)) :
      WrittenAs (.transform t)
        ("mat4(" ++ column (numeral .x) "0.0" ++ ", " ++ column (numeral .y) "0.0" ++ ", " ++
          column (numeral .z) "0.0" ++ ", " ++ column origin "1.0" ++ ")")

theorem writtenAs_of_transform {t : Transform} {text : String} (h : t.literal = .ok text) :
    WrittenAs (.transform t) text := by
  simp only [Transform.literal, Except.bind_eq_ok_iff, Except.pure_eq_ok_iff] at h
  obtain ⟨column0, h0, column1, h1, column2, h2, origin, hOrigin, rfl⟩ := h
  obtain ⟨numeral0, hNumeral0, rfl⟩ := Vec3.exists_numerals h0
  obtain ⟨numeral1, hNumeral1, rfl⟩ := Vec3.exists_numerals h1
  obtain ⟨numeral2, hNumeral2, rfl⟩ := Vec3.exists_numerals h2
  obtain ⟨last, hLast, rfl⟩ := Vec3.exists_numerals hOrigin
  -- The columns are read across the rows.
  have hNumeral : ∀ column row, (t.element row column).WrittenAs (column.pick numeral0 numeral1 numeral2 row) := by
    intro column row
    cases column with
    | x => cases row <;> exact hNumeral0 _
    | y => cases row <;> exact hNumeral1 _
    | z => cases row <;> exact hNumeral2 _
  convert WrittenAs.transform hNumeral hLast using 1
  rw [← String.toList_inj]
  simp [column, Axis.pick]

/-- A value has a literal exactly if its numbers are finite, and the literal is accurate. -/
theorem literal_accurate (v : PortValue) :
    ((∃ text, v.literal = .ok text) ↔ ∀ x ∈ v.numbers, x.isFinite = true) ∧
      ∀ text, v.literal = .ok text → v.WrittenAs text := by
  refine ⟨exists_literal_iff, fun text hText => ?_⟩
  cases v with
  | scalar x => exact .scalar (Single.writtenAs_of_literal hText)
  | vector3 v =>
    simp only [literal, Vec3.literal, Except.bind_eq_ok_iff, Except.pure_eq_ok_iff] at hText
    obtain ⟨components, hComponents, rfl⟩ := hText
    obtain ⟨numeral, hNumeral, rfl⟩ := Vec3.exists_numerals hComponents
    exact .vector3 hNumeral
  | boolean b =>
    cases b <;> cases hText
    · exact .no
    · exact .yes
  | transform t => exact writtenAs_of_transform hText

/-- A number half way between two decimals, a negative zero and the least number, in one row. -/
def skewed : Transform :=
  ⟨⟨.ofBits 0x3C000000, .ofBits 0x80000000, .ofBits 1⟩, ⟨.one, .half, .zero⟩, .zero, ⟨.zero, .zero, .half⟩⟩

theorem literal_accurate_skewed :
    let text := "mat4(vec4(0.007812, 1.000000, 0.000000, 0.0), vec4(-0.000000, 0.500000, 0.000000, 0.0), " ++
      "vec4(0.000000, 0.000000, 0.000000, 0.0), vec4(0.000000, 0.000000, 0.500000, 1.0))"
    literal (.transform skewed) = .ok text ∧ WrittenAs (.transform skewed) text := by
  intro text
  have hTie : (Single.ofBits 0x3C000000).literal = .ok "0.007812" := by rfl
  have hNegative : (Single.ofBits 0x80000000).literal = .ok "-0.000000" := by rfl
  have hLeast : (Single.ofBits 1).literal = .ok "0.000000" := by rfl
  have hZero : Single.zero.literal = .ok "0.000000" := by rfl
  have hHalf : Single.half.literal = .ok "0.500000" := by rfl
  have hOne : Single.one.literal = .ok "1.000000" := by rfl
  have hLiteral : literal (.transform skewed) = .ok text := by
    simp [literal, Transform.literal, skewed, Transform.column0, Transform.column1, Transform.column2, Vec3.components,
      Vec3.zero, Vec3.splat, hTie, hNegative, hLeast, hZero, hHalf, hOne, text]
  exact ⟨hLiteral, (literal_accurate (.transform skewed)).2 text hLiteral⟩

end PortValue

end ShadeGraph
