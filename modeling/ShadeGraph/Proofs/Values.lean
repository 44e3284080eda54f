import ShadeGraph.Param.Text
import ShadeGraph.Proofs.Decimal
import ShadeGraph.Proofs.Except

/-!
# Values read back

The text of a value is read as the value, with every component that is not a number replaced by the one that
stands for them all.
-/

namespace ShadeGraph

/-! ## Components -/

namespace Single

theorem text_canonical (x : Single) : x.canonical.text = x.text := by
  rw [canonical]
  split
  · rename_i hNaN
    have hSame : nan.isNaN = true := by decide
    rw [text, text, if_pos hSame, if_pos hNaN]
  · rfl

theorem canonical_eq_self {x : Single} (h : x.isNaN = false) : x.canonical = x := by
  rw [canonical, h, if_neg Bool.false_ne_true]

theorem isNaN_of_isFinite {x : Single} (h : x.isFinite = true) : x.isNaN = false := by
  have hExponent : x.exponent.val < 255 := by simpa [isFinite] using h
  rw [isNaN, decide_eq_false (Nat.ne_of_lt hExponent), Bool.false_and]

theorem agrees_self {x : Single} (h : x.isNaN = false) : x.agrees x = true := by
  simp [agrees, h]

theorem isPlain_positional (count place : Nat) : Text.IsPlain (positional count place) := by
  have hDigits (n : Nat) : ∀ c ∈ Nat.toDigits 10 n, Text.isPlainChar c = true := fun c hMem =>
    Text.isPlainChar_of_isDigit (Nat.isDigit_of_mem_toDigits (by decide) (by decide) hMem)
  rw [positional]
  split
  · exact ⟨Nat.toDigits_ne_nil, hDigits _⟩
  · refine ⟨by simp, ?_⟩
    intro c hMem
    rcases List.mem_append.mp hMem with hWhole | hRest
    · exact hDigits _ c hWhole
    · rcases List.mem_cons.mp hRest with rfl | hDecimal
      · rfl
      · exact Text.isPlainChar_of_isDigit (Text.isDigit_of_mem_lastDigits hDecimal)

theorem isPlain_signed (x : Single) {magnitude : List Char} (h : Text.IsPlain magnitude) :
    Text.IsPlain (x.signed magnitude).toList := by
  rw [signed, String.toList_ofList]
  split
  · refine ⟨by simp, ?_⟩
    intro c hMem
    rcases List.mem_cons.mp hMem with rfl | hRest
    · rfl
    · exact h.isPlainChar c hRest
  · exact h

theorem isPlain_text (x : Single) : Text.IsPlain x.text.toList := by
  rw [text]
  split
  · decide
  · split
    · exact isPlain_signed x (by decide)
    · split
      · exact isPlain_signed x (by decide)
      · exact isPlain_signed x (isPlain_positional _ _)

end Single

def Vec3.canonical (v : Vec3) : Vec3 := ⟨v.x.canonical, v.y.canonical, v.z.canonical⟩

def Color.canonical (c : Color) : Color := ⟨c.r.canonical, c.g.canonical, c.b.canonical, c.a.canonical⟩

def Transform.canonical (t : Transform) : Transform :=
  ⟨t.row0.canonical, t.row1.canonical, t.row2.canonical, t.origin.canonical⟩

def Position.canonical (p : Position) : Position := ⟨p.x.canonical, p.y.canonical⟩

namespace ValueText

theorem numbers_map_canonical (values : List Single) : numbers (values.map Single.canonical) = numbers values := by
  rw [numbers, numbers, List.map_map]
  congr 1
  exact List.map_congr_left fun x _ => x.text_canonical

theorem isValue_numbers (values : List Single) : Text.IsValue (numbers values).toList := by
  apply Text.isValue_joinWith (by decide)
  intro text hMem
  obtain ⟨x, -, rfl⟩ := List.mem_map.mp hMem
  exact ⟨x.isPlain_text.isValue, x.isPlain_text.ne_nil⟩

theorem readNumbers_numbers {values : List Single} (hNe : values ≠ []) :
    readNumbers values.length (numbers values).toList = .ok (values.map Single.canonical) := by
  have hParts : (Text.splitOn ',' (numbers values).toList).map Text.trim =
      (values.map Single.text).map String.toList := by
    apply Text.map_trim_splitOn_joinWith rfl (by decide) (by simpa using hNe)
    intro text hMem
    obtain ⟨x, -, rfl⟩ := List.mem_map.mp hMem
    exact ⟨x.isPlain_text.not_mem (by decide), x.isPlain_text.trimmed⟩
  simp only [readNumbers, hParts, List.length_map, if_true]
  rw [Except.mapM_eq_ok_iff, List.forall₂_map_left_iff, List.forall₂_map_left_iff, List.forall₂_map_right_iff,
    List.forall₂_same]
  intro x _
  rw [readNumber, Single.ofText?_text]

theorem readScalar_text (x : Single) : readScalar x.text.toList = .ok x.canonical := by
  have hText : numbers [x] = x.text := by
    simp only [numbers, List.map_cons, List.map_nil, Text.joinWith]
  have hRead := readNumbers_numbers (List.cons_ne_nil x [])
  rw [hText, List.length_singleton] at hRead
  simp [readScalar, hRead]

theorem readPosition_numbers (p : Position) : readPosition (numbers p.toList).toList = .ok p.canonical := by
  have hRead : readNumbers 2 (numbers p.toList).toList = .ok [p.x.canonical, p.y.canonical] :=
    readNumbers_numbers (List.cons_ne_nil _ _)
  simp [readPosition, hRead, Position.canonical]

theorem readVec3_numbers (v : Vec3) : readVec3 (numbers v.toList).toList = .ok v.canonical := by
  have hRead : readNumbers 3 (numbers v.toList).toList = .ok [v.x.canonical, v.y.canonical, v.z.canonical] :=
    readNumbers_numbers (List.cons_ne_nil _ _)
  simp [readVec3, hRead, Vec3.canonical]

theorem readColor_numbers (c : Color) : readColor (numbers c.toList).toList = .ok c.canonical := by
  have hRead : readNumbers 4 (numbers c.toList).toList =
      .ok [c.r.canonical, c.g.canonical, c.b.canonical, c.a.canonical] :=
    readNumbers_numbers (List.cons_ne_nil _ _)
  simp [readColor, hRead, Color.canonical]

theorem readTransform_numbers (t : Transform) : readTransform (numbers t.toList).toList = .ok t.canonical := by
  have hRead : readNumbers 12 (numbers t.toList).toList = .ok t.canonical.toList :=
    readNumbers_numbers (List.cons_ne_nil _ _)
  simp [readTransform, hRead]

theorem readBool_booleanLiteral (b : Bool) : readBool (booleanLiteral b).toList = .ok b := by
  cases b <;> rfl

theorem readText_quote (text : String) : readText (Text.quote text).toList = .ok text := by
  rw [readText, Text.unquote_quote]
  rfl

/-- Labels that differ are told apart, whatever numbers they look like. -/
theorem readChoice_getElem {variants : List String} (hNodup : variants.Nodup) {index : Nat}
    (h : index < variants.length) :
    readChoice variants variants[index].toList = .ok index := by
  have hFind : variants.findIdx? (· = String.ofList variants[index].toList) = some index := by
    rw [String.ofList_toList, List.findIdx?_eq_some_iff_getElem]
    refine ⟨h, by simp, ?_⟩
    intro j hj
    rw [decide_eq_true_eq]
    intro hSame
    exact Nat.ne_of_lt hj (hNodup.getElem_inj_iff.mp hSame)
  simp only [readChoice, hFind]

theorem isValue_booleanLiteral (b : Bool) : Text.IsValue (booleanLiteral b).toList := by
  cases b <;> decide

theorem toList_resource (path : String) : ("res(" ++ Text.quote path ++ ")").toList =
    'r' :: 'e' :: 's' :: '(' :: ((Text.quote path).toList ++ [')']) := by
  simp [String.toList_append]

theorem readResource_quote (path : String) :
    readResource ("res(" ++ Text.quote path ++ ")").toList = .ok (some path) := by
  have hPath : resourcePath? ("res(" ++ Text.quote path ++ ")").toList = some (Text.quote path).toList := by
    have hStart : "res(".toList = ['r', 'e', 's', '('] := rfl
    rw [toList_resource, resourcePath?, hStart]
    simp [List.isPrefixOf?, Text.isSuffixOf?_append_singleton]
  have hNull : ("res(" ++ Text.quote path ++ ")").toList ≠ "null".toList := by
    rw [toList_resource]
    intro hSame
    cases (List.cons.inj hSame).1
  rw [readResource, if_neg hNull, hPath]
  simp only [(Text.isValue_quote path).trim_eq, readText_quote]
  rfl

theorem isValue_resource (path : String) : Text.IsValue ("res(" ++ Text.quote path ++ ")").toList := by
  rw [toList_resource]
  refine ⟨⟨?_, ?_⟩, ?_⟩
  · intro c hHead
    cases hHead
    rfl
  · intro c hLast
    rw [← List.cons_append, ← List.cons_append, ← List.cons_append, ← List.cons_append,
      List.getLast?_append_of_ne_nil _ (by simp)] at hLast
    cases hLast
    rfl
  · simp [(Text.isValue_quote path).newline]

end ValueText

/-! ## Parameters -/

def ParamKind.labels : ParamKind → List String
  | .choice variants => variants
  | _ => []

theorem ParamValue.isValue_write {kind : ParamKind} (hLabels : ∀ label ∈ kind.labels, Text.IsValue label.toList)
    (v : ParamValue) : Text.IsValue (v.write kind).toList := by
  cases v with
  | int v =>
    cases v with
    | ofNat n => exact (Text.isPlain_repr n).isValue
    | negSucc n =>
      have hDigits := Text.isPlain_repr (n + 1)
      change Text.IsValue ("-" ++ Nat.repr (n + 1)).toList
      rw [String.toList_append]
      refine Text.IsPlain.isValue ⟨by simp, ?_⟩
      intro c hMem
      rcases List.mem_append.mp hMem with hSign | hDigit
      · rw [List.mem_singleton.mp hSign]
        decide
      · exact hDigits.isPlainChar c hDigit
  | float v => exact v.isPlain_text.isValue
  | bool v => exact ValueText.isValue_booleanLiteral v
  | vector3 v => exact ValueText.isValue_numbers _
  | color v => exact ValueText.isValue_numbers _
  | transform v => exact ValueText.isValue_numbers _
  | text v => exact Text.isValue_quote v
  | choice index =>
    cases kind with
    | choice variants =>
      rw [write]
      cases hLabel : variants[index]? with
      | none => exact (Text.isPlain_repr index).isValue
      | some label => exact hLabels label (List.mem_of_getElem? hLabel)
    | _ => exact (Text.isPlain_repr index).isValue
  | resource path? =>
    cases path? with
    | none =>
      change Text.IsValue "null".toList
      decide
    | some path => exact ValueText.isValue_resource path

/-! ## Defaults of ports -/

namespace PortValue

def canonical : PortValue → PortValue
  | .scalar v => .scalar v.canonical
  | .vector3 v => .vector3 v.canonical
  | .boolean v => .boolean v
  | .transform v => .transform v.canonical

theorem read_write (v : PortValue) : read v.type v.write.toList = .ok v.canonical := by
  cases v with
  | scalar v => simp [read, type, write, ValueText.readScalar_text, Except.map, canonical]
  | vector3 v => simp [read, type, write, ValueText.readVec3_numbers, Except.map, canonical]
  | boolean v => simp [read, type, write, ValueText.readBool_booleanLiteral, Except.map, canonical]
  | transform v => simp [read, type, write, ValueText.readTransform_numbers, Except.map, canonical]

theorem isValue_write (v : PortValue) : Text.IsValue v.write.toList := by
  cases v <;> rw [write]
  case scalar v => exact v.isPlain_text.isValue
  case vector3 v => exact ValueText.isValue_numbers _
  case boolean v => exact ValueText.isValue_booleanLiteral v
  case transform v => exact ValueText.isValue_numbers _

/-- Only finite components have literals. -/
theorem canonical_of_literal {v : PortValue} {text : String} (h : v.literal = .ok text) : v.canonical = v := by
  have hSingle : ∀ {x : Single} {s : String}, x.literal = .ok s → x.canonical = x := by
    intro x s hLiteral
    apply Single.canonical_eq_self ∘ Single.isNaN_of_isFinite
    by_contra hInfinite
    rw [Single.literal, if_neg hInfinite] at hLiteral
    cases hLiteral
  have hVec3 : ∀ {w : Vec3} {s : String}, w.components = .ok s →
      w.x.canonical = w.x ∧ w.y.canonical = w.y ∧ w.z.canonical = w.z := by
    intro w s hComponents
    simp only [Vec3.components, Except.bind_eq_ok_iff] at hComponents
    obtain ⟨_, hx, _, hy, _, hz, -⟩ := hComponents
    exact ⟨hSingle hx, hSingle hy, hSingle hz⟩
  cases v with
  | scalar v => rw [canonical, hSingle h]
  | vector3 v =>
    simp only [literal, Vec3.literal, Except.bind_eq_ok_iff] at h
    obtain ⟨_, hComponents, -⟩ := h
    obtain ⟨hx, hy, hz⟩ := hVec3 hComponents
    simp only [canonical, Vec3.canonical, hx, hy, hz]
  | boolean v => rfl
  | transform v =>
    simp only [literal, Transform.literal, Except.bind_eq_ok_iff] at h
    obtain ⟨_, h0, _, h1, _, h2, _, hOrigin, -⟩ := h
    obtain ⟨h00, h10, h20⟩ := hVec3 h0
    obtain ⟨h01, h11, h21⟩ := hVec3 h1
    obtain ⟨h02, h12, h22⟩ := hVec3 h2
    obtain ⟨hx, hy, hz⟩ := hVec3 hOrigin
    simp only [Transform.column0, Transform.column1, Transform.column2] at h00 h01 h02 h10 h11 h12 h20 h21 h22
    simp only [canonical, Transform.canonical, Vec3.canonical, h00, h01, h02, h10, h11, h12, h20, h21, h22, hx, hy, hz]

end PortValue

end ShadeGraph
