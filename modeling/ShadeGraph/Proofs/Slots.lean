import ShadeGraph.Document.Load
import ShadeGraph.Proofs.Standard
import ShadeGraph.Proofs.Values

/-!
# Slots take what they write

A slot takes a text when the text is read as a value of its kind that the node accepts. Every slot takes the
text of the value it holds, whatever the slot of the same name held before.
-/

namespace ShadeGraph

/-! ## Choices -/

/-- Every member is listed, and the labels differ. -/
class LawfulChoice (ε : Type) [Choice ε] : Prop where
  mem_all : ∀ e : ε, e ∈ Choice.all
  labels_nodup : (Choice.labels ε).Nodup

namespace Choice

variable {ε : Type} [Choice ε] [DecidableEq ε] [LawfulChoice ε]

theorem index_lt (e : ε) : index e < (all : List ε).length :=
  List.idxOf_lt_length_of_mem (LawfulChoice.mem_all e)

theorem ofIndex?_index (e : ε) : ofIndex? (index e) = some e := by
  rw [ofIndex?, List.getElem?_eq_getElem (index_lt e)]
  exact congrArg some (List.getElem_idxOf (index_lt e))

theorem index_of_ofIndex? {n : Nat} {e : ε} (h : ofIndex? n = some e) : index e = n := by
  have hNodup : (all : List ε).Nodup := List.Nodup.of_map label LawfulChoice.labels_nodup
  obtain ⟨hLt, rfl⟩ := List.getElem?_eq_some_iff.mp h
  exact hNodup.idxOf_getElem n hLt

theorem labels_getElem?_index (e : ε) : (labels ε)[index e]? = some (label e) := by
  have hGet := ofIndex?_index e
  rw [ofIndex?] at hGet
  rw [labels, List.getElem?_map, hGet]
  rfl

theorem readChoice_label (e : ε) : ValueText.readChoice (labels ε) (label e).toList = .ok (index e) := by
  have hLt : index e < (labels ε).length := by
    rw [labels, List.length_map]
    exact index_lt e
  have hLabel : (labels ε)[index e] = label e := by
    have hGet := labels_getElem?_index e
    rw [List.getElem?_eq_getElem hLt] at hGet
    exact Option.some.inj hGet
  rw [← hLabel]
  exact ValueText.readChoice_getElem LawfulChoice.labels_nodup hLt

end Choice

/-! ## What can be put into a slot -/

namespace ParamSlot

variable {ν μ : Type}

/-- Whatever value is put in and makes a node, the two are related. -/
def Writes (slot : ParamSlot ν) (P : ParamValue → ν → Prop) : Prop :=
  ∀ value n, slot.put value = .ok n → P value n

/-- The value passes the check and makes the node `n`. -/
def Accepts (slot : ParamSlot ν) (value : ParamValue) (n : ν) : Prop :=
  slot.spec.check value = .ok () ∧ slot.put value = .ok n

theorem Writes.map {slot : ParamSlot ν} {P : ParamValue → μ → Prop} (f : ν → μ)
    (h : slot.Writes fun value n => P value (f n)) : (slot.map f).Writes P := by
  intro value m hPut
  obtain ⟨n, hPart, rfl⟩ := put_map_eq_ok_iff.mp hPut
  exact h value n hPart

theorem Accepts.map {slot : ParamSlot ν} {value : ParamValue} {n : ν} (h : slot.Accepts value n) (f : ν → μ) :
    (slot.map f).Accepts value (f n) :=
  ⟨h.1, put_map_eq_ok_iff.mpr ⟨n, h.2, rfl⟩⟩

section

variable {name : String} {P : ParamValue → ν → Prop}

theorem writes_float {held : Single} {put : Single → ν} (h : ∀ v, P (.float v) (put v)) :
    (float name held put).Writes P := by
  intro value n hPut
  cases value <;> cases hPut
  exact h _

theorem writes_bool {held : Bool} {put : Bool → ν} (h : ∀ v, P (.bool v) (put v)) : (bool name held put).Writes P := by
  intro value n hPut
  cases value <;> cases hPut
  exact h _

theorem writes_vector3 {held : Vec3} {put : Vec3 → ν} (h : ∀ v, P (.vector3 v) (put v)) :
    (vector3 name held put).Writes P := by
  intro value n hPut
  cases value <;> cases hPut
  exact h _

theorem writes_color {held : Color} {put : Color → ν} (h : ∀ v, P (.color v) (put v)) :
    (color name held put).Writes P := by
  intro value n hPut
  cases value <;> cases hPut
  exact h _

theorem writes_transform {held : Transform} {put : Transform → ν} (h : ∀ v, P (.transform v) (put v)) :
    (transform name held put).Writes P := by
  intro value n hPut
  cases value <;> cases hPut
  exact h _

theorem writes_resource {held : Option String} {put : Option String → ν} (h : ∀ v, P (.resource v) (put v)) :
    (resource name held put).Writes P := by
  intro value n hPut
  cases value <;> cases hPut
  exact h _

theorem writes_checkedText {held : String} {put : String → Except String ν}
    (h : ∀ v n, put v = .ok n → P (.text v) n) : (checkedText name held put).Writes P := by
  intro value n hPut
  obtain ⟨v, rfl, hText⟩ := put_checkedText_eq_ok_iff.mp hPut
  exact h v n hText

theorem writes_text {held : String} {put : String → ν} (h : ∀ v, P (.text v) (put v)) :
    (text name held put).Writes P := by
  refine writes_checkedText fun v n hPut => ?_
  cases hPut
  exact h v

theorem accepts_checkedText (held : String) {v : String} {put : String → Except String ν} {n : ν}
    (hPut : put v = .ok n) : (checkedText name held put).Accepts (.text v) n :=
  ⟨rfl, put_checkedText_eq_ok_iff.mpr ⟨v, rfl, hPut⟩⟩

variable {ε : Type} [Choice ε] [DecidableEq ε] [LawfulChoice ε]

theorem writes_choice {held : ε} {put : ε → ν} (h : ∀ e, P (.choice (Choice.index e)) (put e)) :
    (choice name held put).Writes P := by
  intro value n hPut
  cases value
  case choice index =>
    simp only [choice] at hPut
    split at hPut
    · rename_i e hIndex
      cases hPut
      rw [← Choice.index_of_ofIndex? hIndex]
      exact h e
    · cases hPut
  all_goals cases hPut

theorem accepts_choice (held v : ε) (put : ε → ν) :
    (choice name held put).Accepts (.choice (Choice.index v)) (put v) := by
  constructor
  · have hLt := Choice.index_lt v
    simp [choice, ParamSpec.check, ParamKind.fits, Choice.labels, hLt]
  · simp only [choice, Choice.ofIndex?_index]

end

/-! ## What a slot takes -/

/-- The text is read as a value of the slot's kind, and putting it in makes the node `n`. -/
def Takes (slot : ParamSlot ν) (text : String) (n : ν) : Prop :=
  ∃ value, ParamValue.read slot.spec.kind text.toList = .ok value ∧ slot.spec.check value = .ok () ∧
    slot.put value = .ok n

/-- How the value of a slot stands in documents. -/
def written (slot : ParamSlot ν) : String := slot.value.write slot.spec.kind

theorem Takes.map {slot : ParamSlot ν} {text : String} {n : ν} (h : slot.Takes text n) (f : ν → μ) :
    (slot.map f).Takes text (f n) := by
  obtain ⟨value, hRead, hCheck, hPut⟩ := h
  refine ⟨value, hRead, hCheck, ?_⟩
  rw [put_map_eq_ok_iff]
  exact ⟨n, hPut, rfl⟩

section

variable (name : String)

theorem takes_float (held v : Single) (put : Single → ν) (put' : Single → μ) :
    (float name held put).Takes (float name v put').written (put v.canonical) := by
  refine ⟨.float v.canonical, ?_, rfl, rfl⟩
  simp only [float, written, ParamValue.write, ParamValue.read, ValueText.readScalar_text, Except.map]

theorem takes_bool (held v : Bool) (put : Bool → ν) (put' : Bool → μ) :
    (bool name held put).Takes (bool name v put').written (put v) := by
  refine ⟨.bool v, ?_, rfl, rfl⟩
  simp only [bool, written, ParamValue.write, ParamValue.read, ValueText.readBool_booleanLiteral, Except.map]

theorem takes_vector3 (held v : Vec3) (put : Vec3 → ν) (put' : Vec3 → μ) :
    (vector3 name held put).Takes (vector3 name v put').written (put v.canonical) := by
  refine ⟨.vector3 v.canonical, ?_, rfl, rfl⟩
  simp only [vector3, written, ParamValue.write, ParamValue.read, ValueText.readVec3_numbers, Except.map]

theorem takes_color (held v : Color) (put : Color → ν) (put' : Color → μ) :
    (color name held put).Takes (color name v put').written (put v.canonical) := by
  refine ⟨.color v.canonical, ?_, rfl, rfl⟩
  simp only [color, written, ParamValue.write, ParamValue.read, ValueText.readColor_numbers, Except.map]

theorem takes_transform (held v : Transform) (put : Transform → ν) (put' : Transform → μ) :
    (transform name held put).Takes (transform name v put').written (put v.canonical) := by
  refine ⟨.transform v.canonical, ?_, rfl, rfl⟩
  simp only [transform, written, ParamValue.write, ParamValue.read, ValueText.readTransform_numbers, Except.map]

theorem takes_resource (held v : Option String) (put : Option String → ν) (put' : Option String → μ) :
    (resource name held put).Takes (resource name v put').written (put v) := by
  refine ⟨.resource v, ?_, rfl, rfl⟩
  cases v with
  | none => simp [resource, written, ParamValue.write, ParamValue.read, ValueText.readResource, Except.map]
  | some path =>
    simp only [resource, written, ParamValue.write, ParamValue.read, ValueText.readResource_quote, Except.map]

theorem takes_checkedText (held v : String) {put : String → Except String ν} (put' : String → Except String μ) {n : ν}
    (hPut : put v = .ok n) : (checkedText name held put).Takes (checkedText name v put').written n := by
  refine ⟨.text v, ?_, accepts_checkedText held hPut⟩
  simp only [checkedText, written, ParamValue.write, ParamValue.read, ValueText.readText_quote, Except.map]

theorem takes_text (held v : String) (put : String → ν) (put' : String → μ) :
    (text name held put).Takes (text name v put').written (put v) :=
  takes_checkedText name held v _ rfl

variable {ε : Type} [Choice ε] [DecidableEq ε] [LawfulChoice ε]

theorem written_choice (v : ε) (put : ε → ν) : (choice name v put).written = Choice.label v := by
  simp only [written, choice, ParamValue.write, Choice.labels_getElem?_index, Option.getD_some]

theorem takes_choice (held v : ε) (put : ε → ν) (put' : ε → μ) :
    (choice name held put).Takes (choice name v put').written (put v) := by
  refine ⟨.choice (Choice.index v), ?_, accepts_choice held v put⟩
  rw [written_choice]
  simp only [choice, ParamValue.read, Choice.readChoice_label, Except.map]

end

end ParamSlot

/-! ## The enumerations of the standard nodes -/

instance : LawfulChoice ScalarOperator := ⟨by intro e; cases e <;> decide, by decide⟩

instance : LawfulChoice VectorOperator := ⟨by intro e; cases e <;> decide, by decide⟩

instance : LawfulChoice ColorOperator := ⟨by intro e; cases e <;> decide, by decide⟩

instance : LawfulChoice TransformProduct := ⟨by intro e; cases e <;> decide, by decide⟩

instance : LawfulChoice VectorProduct := ⟨by intro e; cases e <;> decide, by decide⟩

instance : LawfulChoice ScalarFunction := ⟨by intro e; cases e <;> decide, by decide⟩

instance : LawfulChoice VectorFunction := ⟨by intro e; cases e <;> decide, by decide⟩

instance : LawfulChoice ColorFunction := ⟨by intro e; cases e <;> decide, by decide⟩

instance : LawfulChoice TransformFunction := ⟨by intro e; cases e <;> decide, by decide⟩

instance : LawfulChoice Derivative := ⟨by intro e; cases e <;> decide, by decide⟩

instance : LawfulChoice FloatClass := ⟨by intro e; cases e <;> decide, by decide⟩

instance : LawfulChoice ComparedType := ⟨by intro e; cases e <;> decide, by decide⟩

instance : LawfulChoice Relation := ⟨by intro e; cases e <;> decide, by decide⟩

instance : LawfulChoice Quantifier := ⟨by intro e; cases e <;> decide, by decide⟩

instance : LawfulChoice TextureSource := ⟨by intro e; cases e <;> decide, by decide⟩

instance : LawfulChoice CubeMapSource := ⟨by intro e; cases e <;> decide, by decide⟩

instance : LawfulChoice TextureType := ⟨by intro e; cases e <;> decide, by decide⟩

instance : LawfulChoice ColorDefault := ⟨by intro e; cases e <;> decide, by decide⟩

end ShadeGraph
