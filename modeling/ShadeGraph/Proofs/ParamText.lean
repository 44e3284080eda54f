import ShadeGraph.Proofs.Canonical

/-!
# Parameters read back

The text of a parameter stands on one line, no blanks surround it, and it is read as the value it was written from. Of
the kinds of parameters only choices can break this, by the labels they list; those of the standard nodes do not.
-/

namespace ShadeGraph

namespace Text

theorem isBlank_head_of_length_le {text : List Char} (h : text.length ≤ (text.dropWhile isBlank).length) :
    ∀ c ∈ text.head?, isBlank c = false := by
  intro c hHead
  have hNot := List.head?_dropWhile_not isBlank text
  rw [(List.dropWhile_suffix isBlank).eq_of_length_le h, Option.mem_def.mp hHead] at hNot
  exact hNot

theorem Trimmed.of_trim_eq {text : List Char} (h : trim text = text) : Trimmed text := by
  have hEnd : ((trimStart text).reverse.dropWhile isBlank).length = text.length := by
    rw [← List.length_reverse]
    exact congrArg List.length h
  have hStart : text.length ≤ (trimStart text).length := by
    have hReverse : (trimStart text).reverse.length = (trimStart text).length := List.length_reverse
    rw [← hEnd, ← hReverse]
    exact (List.dropWhile_suffix isBlank).length_le
  have hSame : trimStart text = text := (List.dropWhile_suffix isBlank).eq_of_length_le hStart
  refine ⟨isBlank_head_of_length_le hStart, ?_⟩
  rw [← List.head?_reverse]
  apply isBlank_head_of_length_le
  rw [hSame] at hEnd
  rw [hEnd, List.length_reverse]

/-! ## Whole numbers -/

/-- The bound of whole numbers, which takes 64 bits with the sign. -/
def integerBound : Nat := 2 ^ (63 : Nat)

theorem integer?_toDigits {n : Nat} (h : n < integerBound) : integer? (Nat.toDigits 10 n) = some (n : Int) := by
  have hRead : below? (2 ^ (63 : Nat)) (Nat.toDigits 10 n) = some n := below?_toDigits h
  cases hDigits : Nat.toDigits 10 n with
  | nil => exact absurd hDigits Nat.toDigits_ne_nil
  | cons first rest =>
    have hFirst : first.isDigit = true :=
      Nat.isDigit_of_mem_toDigits (by decide) (by decide) (hDigits ▸ List.mem_cons_self)
    rw [hDigits] at hRead
    unfold integer?
    split
    · rename_i hMinus
      rw [(List.cons.inj hMinus).1] at hFirst
      exact absurd hFirst (by decide)
    · rw [hRead]
      rfl

theorem integer?_minus_toDigits {n : Nat} (h : n ≤ integerBound) :
    integer? ('-' :: Nat.toDigits 10 n) = some (-(n : Int)) := by
  have hBound : Option.filter (fun m => decide (m ≤ 2 ^ (63 : Nat))) (some n) = some n :=
    Option.filter_some_pos (decide_eq_true h)
  simp only [integer?, natural?_toDigits, hBound]
  rfl

theorem integer?_toString {v : Int} (hLow : -(integerBound : Int) ≤ v) (hHigh : v < integerBound) :
    integer? (toString v).toList = some v := by
  cases v with
  | ofNat n =>
    change integer? (Nat.repr n).toList = some (n : Int)
    rw [Nat.repr, String.toList_ofList]
    apply integer?_toDigits
    exact Int.ofNat_lt.mp hHigh
  | negSucc n =>
    have hBound : n + 1 ≤ integerBound := by
      rw [Int.negSucc_eq, Int.neg_le_neg_iff] at hLow
      exact Int.ofNat_le.mp hLow
    change integer? ("-" ++ Nat.repr (n + 1)).toList = some (-((n + 1 : Nat) : Int))
    have hMinus : "-".toList = ['-'] := rfl
    rw [String.toList_append, hMinus, List.singleton_append, Nat.repr, String.toList_ofList]
    exact integer?_minus_toDigits hBound

end Text

/-! ## Values -/

theorem ParamSpec.check_eq_ok_iff {spec : ParamSpec} {v : ParamValue} : spec.check v = .ok () ↔
    spec.kind.fits v = true ∧ ∀ index, v = .choice index → index < spec.kind.labels.length := by
  unfold check
  cases hFits : spec.kind.fits v with
  | false => simp
  | true =>
    simp only [Bool.not_true, Bool.false_eq_true, if_false, true_and]
    split
    · rename_i variants index hKind
      simp [hKind, ParamKind.labels]
    · rename_i hOther
      refine iff_of_true rfl ?_
      rintro index rfl
      cases hKind : spec.kind with
      | choice variants => exact absurd rfl (hOther variants index hKind)
      | _ => simp [hKind, ParamKind.fits] at hFits

/-- Whole numbers are those of a machine, and every other component is a number. -/
structure ParamValue.IsExact (v : ParamValue) : Prop where
  whole : ∀ i, v = .int i → -(Text.integerBound : Int) ≤ i ∧ i < Text.integerBound
  number : ∀ x ∈ v.numbers, x.isNaN = false

/-- The text of a value is read as the value, stands on one line, and has no blanks around it. -/
structure ParamValue.ReadsBack (v : ParamValue) (kind : ParamKind) : Prop where
  read : ParamValue.read kind (v.write kind).toList = .ok v
  newline : '\n' ∉ (v.write kind).toList
  trim : Text.trim (v.write kind).toList = (v.write kind).toList

/-- Labels that differ, each of which can stand for itself on a line. -/
structure ParamKind.IsLegible (kind : ParamKind) : Prop where
  nodup : kind.labels.Nodup
  line : ∀ label ∈ kind.labels, Text.IsValue label.toList

namespace ParamValue

theorem write_choice {variants : List String} {index : Nat} (h : index < variants.length) :
    (choice index).write (.choice variants) = variants[index] := by
  simp [write, h]

theorem read_write {kind : ParamKind} (hNodup : kind.labels.Nodup) {v : ParamValue} (hFits : kind.fits v = true)
    (hRange : ∀ index, v = .choice index → index < kind.labels.length) (hExact : v.IsExact) :
    read kind (v.write kind).toList = .ok v := by
  cases v with
  | int i =>
    cases kind <;> cases hFits
    obtain ⟨hLow, hHigh⟩ := hExact.whole i rfl
    simp only [read, write, Text.integer?_toString hLow hHigh]
  | float x =>
    cases kind <;> cases hFits
    have hNumber := Single.canonical_eq_self (hExact.number x (List.mem_singleton.mpr rfl))
    simp only [read, write, ValueText.readScalar_text, hNumber, Except.map]
  | bool b =>
    cases kind <;> cases hFits
    simp only [read, write, ValueText.readBool_booleanLiteral, Except.map]
  | vector3 x =>
    cases kind <;> cases hFits
    simp only [read, write, ValueText.readVec3_numbers, Vec3.canonical_eq_self hExact.number, Except.map]
  | color x =>
    cases kind <;> cases hFits
    simp only [read, write, ValueText.readColor_numbers, Color.canonical_eq_self hExact.number, Except.map]
  | transform x =>
    cases kind <;> cases hFits
    simp only [read, write, ValueText.readTransform_numbers, Transform.canonical_eq_self hExact.number, Except.map]
  | text t =>
    cases kind <;> cases hFits
    simp only [read, write, ValueText.readText_quote, Except.map]
  | choice index =>
    cases kind <;> cases hFits
    rename_i variants
    have hIndex : index < variants.length := hRange index rfl
    have hNodup : variants.Nodup := hNodup
    rw [write_choice hIndex, read, ValueText.readChoice_getElem hNodup hIndex]
    rfl
  | resource path? =>
    cases kind <;> cases hFits
    cases path? with
    | none => rfl
    | some path => simp only [read, write, ValueText.readResource_quote, Except.map]

theorem readsBack_of_check {spec : ParamSpec} (hLegible : spec.kind.IsLegible) {v : ParamValue}
    (hCheck : spec.check v = .ok ()) (hExact : v.IsExact) : v.ReadsBack spec.kind := by
  obtain ⟨hFits, hRange⟩ := ParamSpec.check_eq_ok_iff.mp hCheck
  have hValue := isValue_write hLegible.line v
  exact ⟨read_write hLegible.nodup hFits hRange hExact, hValue.newline, hValue.toTrimmed.trim_eq⟩

/-- Each label is the text of its own number, so two equal ones would be read alike. -/
theorem isLegible_of_readsBack {kind : ParamKind} {name : String}
    (h : ∀ v, ParamSpec.check ⟨name, kind⟩ v = .ok () → v.IsExact → v.ReadsBack kind) : kind.IsLegible := by
  cases kind with
  | choice variants =>
    have hLabel {index : Nat} (hIndex : index < variants.length) : (choice index).ReadsBack (.choice variants) := by
      apply h
      · rw [ParamSpec.check_eq_ok_iff]
        refine ⟨rfl, ?_⟩
        rintro _ ⟨⟩
        exact hIndex
      · refine ⟨?_, ?_⟩
        · rintro _ ⟨⟩
        · exact fun x hMem => absurd hMem List.not_mem_nil
    constructor
    · rw [ParamKind.labels, List.nodup_iff_injective_get]
      intro i j hSame
      have hText : (choice i).write (.choice variants) = (choice j).write (.choice variants) := by
        rw [write_choice i.isLt, write_choice j.isLt]
        exact hSame
      have hRead := (hLabel i.isLt).read
      rw [hText, (hLabel j.isLt).read] at hRead
      exact Fin.ext (choice.inj (Except.ok.inj hRead)).symm
    · intro label hMem
      obtain ⟨index, hIndex, rfl⟩ := List.mem_iff_getElem.mp hMem
      have hBack := hLabel hIndex
      rw [← write_choice hIndex]
      exact ⟨.of_trim_eq hBack.trim, hBack.newline⟩
  | _ => exact ⟨List.nodup_nil, fun _ hMem => absurd hMem List.not_mem_nil⟩

end ParamValue

/-! ## The standard nodes -/

namespace StandardNode

theorem isLegible_of_mem_schema {n : StandardNode} {spec : ParamSpec} (h : spec ∈ NodeModel.schema n) :
    spec.kind.IsLegible :=
  ⟨(n.isSavable_schema spec h).labels_nodup, (n.isSavable_schema spec h).label⟩

end StandardNode

namespace ParamValue

/-- A parameter kind has texts that read back, one line each and without blanks around, exactly if its labels differ
and are such lines. Every parameter of a standard node is of such a kind; and every text reads back from its quotes. -/
theorem texts_read_back :
    (∀ kind : ParamKind, kind.IsLegible ↔ ∀ nodeKind name v,
      ParamSpec.validate [⟨name, kind⟩] nodeKind name v = .ok () → v.IsExact → v.ReadsBack kind) ∧
    (∀ (n : StandardNode) (name : String) (v : ParamValue),
      ParamSpec.validate (NodeModel.schema n) (NodeModel.kind n) name v = .ok () → v.IsExact →
        ∃ spec, (NodeModel.schema n).find? (·.name = name) = some spec ∧ v.ReadsBack spec.kind) ∧
    ∀ text : String, Text.unquote (Text.quote text).toList = .ok text := by
  refine ⟨?_, ?_, Text.unquote_quote⟩
  · intro kind
    have hValidate (nodeKind name : String) (v : ParamValue) :
        ParamSpec.validate [⟨name, kind⟩] nodeKind name v = ParamSpec.check ⟨name, kind⟩ v := by
      simp [ParamSpec.validate]
    simp only [hValidate]
    constructor
    · intro hLegible _ name v hCheck hExact
      exact readsBack_of_check hLegible hCheck hExact
    · intro hBack
      exact isLegible_of_readsBack (hBack "" "")
  · intro n name v hValid hExact
    rw [ParamSpec.validate] at hValid
    cases hFind : (NodeModel.schema n).find? (·.name = name) with
    | none =>
      rw [hFind] at hValid
      cases hValid
    | some spec =>
      rw [hFind] at hValid
      have hLegible := StandardNode.isLegible_of_mem_schema (List.mem_of_find?_eq_some hFind)
      exact ⟨spec, rfl, readsBack_of_check hLegible hValid hExact⟩

/-- A path with quotes, breaks and blanks at its ends; the last source of a texture; and labels that look like each
other's numbers. -/
theorem texts_read_back_texture :
    let schema := NodeModel.schema (StandardNode.texture {})
    let path : ParamValue := .resource (some " \"a\\\r\n\tb\" ")
    (∃ spec, schema.find? (·.name = "texture") = some spec ∧ path.ReadsBack spec.kind) ∧
      (∃ spec, schema.find? (·.name = "source") = some spec ∧ (choice 5).ReadsBack spec.kind) ∧
      (choice 0).ReadsBack (.choice ["1", "0"]) := by
  have hExact {v : ParamValue} (hWhole : ∀ i, v ≠ .int i) (hNumbers : v.numbers = []) : v.IsExact :=
    ⟨fun i hInt => absurd hInt (hWhole i), fun x hMem => by simp [hNumbers] at hMem⟩
  have hLegible : (ParamKind.choice ["1", "0"]).IsLegible := ⟨by decide, by decide⟩
  intro schema path
  refine ⟨?_, ?_, ?_⟩
  · exact texts_read_back.2.1 (.texture {}) "texture" path rfl (hExact (by simp [path]) rfl)
  · exact texts_read_back.2.1 (.texture {}) "source" (.choice 5) rfl (hExact (by simp) rfl)
  · exact (texts_read_back.1 _).mp hLegible "" "" (.choice 0) rfl (hExact (by simp) rfl)

end ParamValue

end ShadeGraph
