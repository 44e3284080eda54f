import ShadeGraph.Proofs.Fields
import ShadeGraph.Proofs.History

/-!
# The order of a bag

A new node takes the values of a bag one after the other, and a list of ports is checked against the other list as it is
at that time. Still the order does not matter: two parameters that were both not set before can be set in either order.
-/

namespace ShadeGraph

namespace Except

/-- Steps under different keys can be exchanged while both keys are ready, and a key stays ready until its own step is
made. Then steps that each have a key of their own can be made in any order. -/
theorem foldlM_of_perm {κ ω ε σ : Type} {step : σ → κ × ω → Except ε σ} {P : σ → κ → Prop}
    (hKeeps : ∀ {s s' : σ} {x : κ × ω} {key : κ}, P s key → key ≠ x.1 → step s x = .ok s' → P s' key)
    (hExchange : ∀ {s t s' : σ} {x y : κ × ω}, P s x.1 → P s y.1 → x.1 ≠ y.1 → step s x = .ok t →
      step t y = .ok s' → ∃ t', step s y = .ok t' ∧ step t' x = .ok s')
    {l l' : List (κ × ω)} (hPerm : l.Perm l') (hNodup : (l.map Prod.fst).Nodup) {s s' : σ}
    (hReady : ∀ x ∈ l, P s x.1) (h : l.foldlM step s = .ok s') : l'.foldlM step s = .ok s' := by
  induction hPerm generalizing s with
  | nil => exact h
  | cons x _ ih =>
    rw [List.map_cons, List.nodup_cons] at hNodup
    rw [List.foldlM_cons, bind_eq_ok_iff] at h ⊢
    obtain ⟨t, hFirst, hRest⟩ := h
    refine ⟨t, hFirst, ih hNodup.2 (fun y hMem => ?_) hRest⟩
    have hNe : y.1 ≠ x.1 := fun hSame => hNodup.1 (hSame ▸ List.mem_map_of_mem hMem)
    exact hKeeps (hReady y (List.mem_cons_of_mem x hMem)) hNe hFirst
  | swap x y rest =>
    simp only [List.foldlM_cons, bind_eq_ok_iff] at h ⊢
    obtain ⟨t, hFirst, u, hSecond, hRest⟩ := h
    have hNe : y.1 ≠ x.1 := by
      intro hSame
      simp [hSame] at hNodup
    obtain ⟨t', hFirst', hSecond'⟩ := hExchange (hReady y List.mem_cons_self)
      (hReady x (List.mem_cons_of_mem y List.mem_cons_self)) hNe hFirst hSecond
    exact ⟨t', hFirst', u, hSecond', hRest⟩
  | trans hFirst _ ih ih' =>
    refine ih' ((hFirst.map Prod.fst).nodup_iff.mp hNodup) (fun x hMem => ?_) (ih hNodup hReady h)
    exact hReady x (hFirst.mem_iff.mpr hMem)

end Except

open ParamSlot

/-! ## Checks that suffice -/

namespace ParamSlot

variable {ν μ : Type}

/-- Whatever passes the check is taken. -/
def IsTotal (slot : ParamSlot ν) : Prop :=
  ∀ value, slot.spec.check value = .ok () → ∃ n, slot.put value = .ok n

theorem isTotal_of_mem_map {slots : List (ParamSlot ν)} (h : ∀ slot ∈ slots, slot.IsTotal) (f : ν → μ) :
    ∀ slot ∈ slots.map (·.map f), slot.IsTotal := by
  intro slot hSlot value hCheck
  obtain ⟨inner, hInner, rfl⟩ := List.mem_map.mp hSlot
  obtain ⟨n, hPut⟩ := h inner hInner value hCheck
  exact ⟨f n, put_map_eq_ok_iff.mpr ⟨n, hPut, rfl⟩⟩

variable (name : String)

theorem isTotal_float (held : Single) (put : Single → ν) : (float name held put).IsTotal := by
  intro value hCheck
  cases value
  case float v => exact ⟨put v, rfl⟩
  all_goals cases hCheck

theorem isTotal_bool (held : Bool) (put : Bool → ν) : (bool name held put).IsTotal := by
  intro value hCheck
  cases value
  case bool v => exact ⟨put v, rfl⟩
  all_goals cases hCheck

theorem isTotal_vector3 (held : Vec3) (put : Vec3 → ν) : (vector3 name held put).IsTotal := by
  intro value hCheck
  cases value
  case vector3 v => exact ⟨put v, rfl⟩
  all_goals cases hCheck

theorem isTotal_color (held : Color) (put : Color → ν) : (color name held put).IsTotal := by
  intro value hCheck
  cases value
  case color v => exact ⟨put v, rfl⟩
  all_goals cases hCheck

theorem isTotal_transform (held : Transform) (put : Transform → ν) : (transform name held put).IsTotal := by
  intro value hCheck
  cases value
  case transform v => exact ⟨put v, rfl⟩
  all_goals cases hCheck

theorem isTotal_resource (held : Option String) (put : Option String → ν) : (resource name held put).IsTotal := by
  intro value hCheck
  cases value
  case resource v => exact ⟨put v, rfl⟩
  all_goals cases hCheck

theorem isTotal_text (held : String) (put : String → ν) : (text name held put).IsTotal := by
  intro value hCheck
  cases value
  case text v => exact ⟨put v, rfl⟩
  all_goals cases hCheck

theorem isTotal_choice {ε : Type} [Choice ε] [DecidableEq ε] (held : ε) (put : ε → ν) :
    (choice name held put).IsTotal := by
  intro value hCheck
  cases value
  case choice index =>
    have hLt : index < (Choice.all : List ε).length := by
      simpa [choice, ParamSpec.check, ParamKind.fits, Choice.labels] using hCheck
    refine ⟨put ((Choice.all : List ε).get ⟨index, hLt⟩), ?_⟩
    simp [choice, Choice.ofIndex?, hLt]
  all_goals cases hCheck

end ParamSlot

theorem Constant.isTotal (c : Constant) : ∀ slot ∈ c.slots, slot.IsTotal := by
  cases c with
  | scalar v => exact List.forall_mem_singleton.mpr (isTotal_float _ _ _)
  | boolean v => exact List.forall_mem_singleton.mpr (isTotal_bool _ _ _)
  | color v => exact List.forall_mem_singleton.mpr (isTotal_color _ _ _)
  | vector v => exact List.forall_mem_singleton.mpr (isTotal_vector3 _ _ _)
  | transform v => exact List.forall_mem_singleton.mpr (isTotal_transform _ _ _)

theorem Operator.isTotal (n : Operator) : ∀ slot ∈ n.slots, slot.IsTotal := by
  cases n <;> exact List.forall_mem_singleton.mpr (isTotal_choice _ _ _)

theorem FunctionNode.isTotal (n : FunctionNode) : ∀ slot ∈ n.slots, slot.IsTotal := by
  cases n <;> exact List.forall_mem_singleton.mpr (isTotal_choice _ _ _)

theorem Comparison.isTotal (c : Comparison) : ∀ slot ∈ c.slots, slot.IsTotal :=
  List.forall_mem_cons.mpr ⟨isTotal_choice _ _ _, List.forall_mem_cons.mpr
    ⟨isTotal_choice _ _ _, List.forall_mem_singleton.mpr (isTotal_choice _ _ _)⟩⟩

theorem LogicNode.isTotal (n : LogicNode) : ∀ slot ∈ n.slots, slot.IsTotal := by
  cases n with
  | floatTest tested => exact List.forall_mem_singleton.mpr (isTotal_choice _ _ _)
  | compare c => exact isTotal_of_mem_map c.isTotal _
  | _ => exact fun slot hSlot => absurd hSlot List.not_mem_nil

theorem UniformNode.isTotal (n : UniformNode) : ∀ slot ∈ n.slots, slot.IsTotal := by
  cases n with
  | value u => exact isTotal_of_mem_map (List.forall_mem_singleton.mpr (isTotal_text _ _ _)) _
  | texture u =>
    refine isTotal_of_mem_map (List.forall_mem_cons.mpr ⟨isTotal_text _ _ _, ?_⟩) _
    exact List.forall_mem_cons.mpr ⟨isTotal_choice _ _ _, List.forall_mem_cons.mpr
      ⟨isTotal_choice _ _ _, List.forall_mem_singleton.mpr (isTotal_resource _ _ _)⟩⟩
  | cubeMap u =>
    refine isTotal_of_mem_map (List.forall_mem_cons.mpr ⟨isTotal_text _ _ _, ?_⟩) _
    exact List.forall_mem_cons.mpr ⟨isTotal_choice _ _ _, List.forall_mem_cons.mpr
      ⟨isTotal_choice _ _ _, List.forall_mem_singleton.mpr (isTotal_resource _ _ _)⟩⟩

theorem TextureNode.isTotal (n : TextureNode) : ∀ slot ∈ n.slots, slot.IsTotal :=
  List.forall_mem_cons.mpr ⟨isTotal_choice _ _ _, List.forall_mem_cons.mpr
    ⟨isTotal_resource _ _ _, List.forall_mem_singleton.mpr (isTotal_choice _ _ _)⟩⟩

theorem CubeMapNode.isTotal (n : CubeMapNode) : ∀ slot ∈ n.slots, slot.IsTotal :=
  List.forall_mem_cons.mpr ⟨isTotal_choice _ _ _, List.forall_mem_cons.mpr
    ⟨isTotal_resource _ _ _, List.forall_mem_singleton.mpr (isTotal_choice _ _ _)⟩⟩

namespace StandardNode

variable {n m t : StandardNode} {name name' : String} {value value' : ParamValue}

/-- Only the lists of ports have more to pass than the check. -/
theorem exists_applyParam_iff (hOther : ∀ e, n ≠ .expression e) :
    (∃ m, NodeModel.applyParam n name value = .ok m) ↔
      ParamSpec.validate (NodeModel.schema n) (NodeModel.kind n) name value = .ok () := by
  have hTotal : ∀ slot ∈ n.slots, slot.IsTotal := by
    cases n with
    | output | formula => exact fun slot hSlot => absurd hSlot List.not_mem_nil
    | input n => exact isTotal_of_mem_map (List.forall_mem_singleton.mpr (isTotal_text _ _ _)) _
    | constant n => exact isTotal_of_mem_map n.isTotal _
    | operator n => exact isTotal_of_mem_map n.isTotal _
    | function n => exact isTotal_of_mem_map n.isTotal _
    | logic n => exact isTotal_of_mem_map n.isTotal _
    | uniform n => exact isTotal_of_mem_map n.isTotal _
    | texture n => exact isTotal_of_mem_map n.isTotal _
    | cubeMap n => exact isTotal_of_mem_map n.isTotal _
    | expression n => exact absurd rfl (hOther n)
    | globalExpression n => exact isTotal_of_mem_map (List.forall_mem_singleton.mpr (isTotal_text _ _ _)) _
  constructor
  · rintro ⟨m, hApply⟩
    exact (Except.bind_unit_eq_ok_iff.mp hApply).1
  · intro hValid
    cases hFind : find? n.slots name with
    | none =>
      have hSchema : (NodeModel.schema n).find? (·.name = name) = none := by
        rw [NodeModel.schema, List.find?_map]
        exact congrArg (Option.map ParamSlot.spec) hFind
      rw [ParamSpec.validate, hSchema] at hValid
      cases hValid
    | some slot =>
      rw [ParamSpec.validate, find?_schema hFind] at hValid
      obtain ⟨m, hPut⟩ := hTotal slot (find?_eq_some hFind).1 value hValid
      exact ⟨m, applyParam_of_accepts hFind ⟨hValid, hPut⟩⟩

end StandardNode

/-! ## Setting two parameters -/

theorem ParamSlot.Updates.comm {ν : Type} {slots t t' m m' : List (ParamSlot ν)} {name name' : String}
    {value value' : ParamValue} (hNe : name ≠ name') (hFirst : Updates slots t name value)
    (hSecond : Updates t m name' value') (hFirst' : Updates slots t' name' value')
    (hSecond' : Updates t' m' name value) : m'.map field = m.map field := by
  rw [Updates] at hFirst hSecond hFirst' hSecond'
  rw [hSecond, hSecond', hFirst, hFirst']
  simp only [List.map_map]
  refine List.map_congr_left fun slot _ => ?_
  simp only [Function.comp_apply]
  by_cases hName : slot.field.1.name = name
  · have hOther : slot.field.1.name ≠ name' := hName ▸ hNe
    simp only [if_pos hName, if_neg hOther]
  · by_cases hName' : slot.field.1.name = name'
    · simp only [if_pos hName', if_neg hName]
    · simp only [if_neg hName, if_neg hName']

namespace StandardNode

variable {n m t : StandardNode} {name name' : String} {value value' : ParamValue}

theorem kept_fresh (n : StandardNode) : n.fresh.kept = n.kept := by
  cases n <;> rfl

theorem kept_applyParam (h : NodeModel.applyParam n name value = .ok m) : m.kept = n.kept := by
  rw [← kept_fresh m, fresh_applyParam h, kept_fresh]

theorem exists_bound (n : StandardNode) : ∃ mode stage, NodeModel.bind mode stage n = n := by
  cases n with
  | output n => exact ⟨n.mode, n.stage, rfl⟩
  | input n => exact ⟨n.mode, n.stage, rfl⟩
  | _ => exact ⟨.spatial, .vertex, rfl⟩

theorem bind_applyParam {mode : Mode} {stage : Stage} (hBound : NodeModel.bind mode stage n = n)
    (h : NodeModel.applyParam n name value = .ok m) : NodeModel.bind mode stage m = m := by
  obtain ⟨slot, hSlot, -, hPut⟩ := exists_slot_of_applyParam h
  cases n with
  | output | formula => cases hSlot
  | input n =>
    obtain ⟨inputName, mode', stage'⟩ := n
    cases hBound
    have hWrites : ∀ slot ∈ (input ⟨inputName, mode, stage⟩).slots,
        slot.Writes fun _ m => NodeModel.bind mode stage m = m :=
      List.forall_mem_singleton.mpr (Writes.map input (writes_text fun _ => rfl))
    exact hWrites slot hSlot value m hPut
  | _ =>
    obtain ⟨inner, -, rfl⟩ := List.mem_map.mp hSlot
    obtain ⟨_, -, rfl⟩ := put_map_eq_ok_iff.mp hPut
    rfl

/-- What two parameters make of a node does not depend on which of them was set first. -/
theorem eq_of_applyParam_twice (hUsable : n.IsUsable) (hNe : name ≠ name') {t' m' : StandardNode}
    (hFirst : NodeModel.applyParam n name value = .ok t) (hSecond : NodeModel.applyParam t name' value' = .ok m)
    (hFirst' : NodeModel.applyParam n name' value' = .ok t') (hSecond' : NodeModel.applyParam t' name value = .ok m') :
    m' = m := by
  obtain ⟨mode, stage, hBound⟩ := n.exists_bound
  have hKind : NodeModel.kind m' = NodeModel.kind m := by
    rw [kind_applyParam hSecond', kind_applyParam hFirst', kind_applyParam hSecond, kind_applyParam hFirst]
  have hFields : m'.slots.map field = m.slots.map field := by
    have hUpdates := updates_of_applyParam hSecond
    have hUpdates' := updates_of_applyParam hSecond'
    rw [kept_applyParam hFirst] at hUpdates
    rw [kept_applyParam hFirst'] at hUpdates'
    exact Updates.comm hNe (updates_of_applyParam hFirst) hUpdates (updates_of_applyParam hFirst') hUpdates'
  have hParams : NodeModel.params m' = NodeModel.params m := by
    have hHeld := congrArg (List.map fun f : ParamSpec × ParamValue => (f.1.name, f.2)) hFields
    rwa [List.map_map, List.map_map] at hHeld
  exact eq_of_params (isUser_applyParam (isUser_applyParam hUsable hFirst').isUsable hSecond').isUsable
    (isUser_applyParam (isUser_applyParam hUsable hFirst).isUsable hSecond).isUsable
    (bind_applyParam (bind_applyParam hBound hFirst') hSecond')
    (bind_applyParam (bind_applyParam hBound hFirst) hSecond) hKind hParams

/-- Of a node that is no expression the values are checked one by one, by a schema that stays the same. -/
theorem exchange_of_total (hUsable : n.IsUsable) (hOther : ∀ e, n ≠ .expression e) (hNe : name ≠ name')
    (hFirst : NodeModel.applyParam n name value = .ok t) (hSecond : NodeModel.applyParam t name' value' = .ok m) :
    ∃ t', NodeModel.applyParam n name' value' = .ok t' ∧ NodeModel.applyParam t' name value = .ok m := by
  have hValid := (exists_applyParam_iff hOther).mp ⟨t, hFirst⟩
  have hOther' {t : StandardNode} (hFresh : t.fresh = n.fresh) (e : ExpressionNode) : t ≠ .expression e := by
    rintro rfl
    cases n with
    | expression e => exact hOther e rfl
    | _ => cases hFresh
  have hValid' := (exists_applyParam_iff (hOther' (fresh_applyParam hFirst))).mp ⟨m, hSecond⟩
  rw [schema_applyParam hFirst, kind_applyParam hFirst] at hValid'
  obtain ⟨t', hFirst'⟩ := (exists_applyParam_iff hOther).mpr hValid'
  rw [← schema_applyParam hFirst', ← kind_applyParam hFirst'] at hValid
  obtain ⟨m', hSecond'⟩ := (exists_applyParam_iff (hOther' (fresh_applyParam hFirst'))).mpr hValid
  cases eq_of_applyParam_twice hUsable hNe hFirst hSecond hFirst' hSecond'
  exact ⟨t', hFirst', hSecond'⟩

end StandardNode

/-! ## Lists of ports -/

theorem LocalPort.eq_nil_of_writeAll {ports : List LocalPort} (hUsable : ∀ p ∈ ports, p.isUsable = true)
    (h : writeAll ports = "") : ports = [] := by
  have hRead := readAll_writeAll hUsable
  rw [h] at hRead
  exact (Except.ok.inj hRead).symm

namespace ExpressionNode

/-- What a text makes of one parameter. Whether the ports can stand together is another question. -/
inductive Sets (e : ExpressionNode) : String → String → ExpressionNode → Prop
  | inputs {text : String} {ports : List LocalPort} (h : LocalPort.readAll text = .ok ports) :
      Sets e "inputs" text { e with inputs := ports }
  | outputs {text : String} {ports : List LocalPort} (h : LocalPort.readAll text = .ok ports) :
      Sets e "outputs" text { e with outputs := ports }
  | code (text : String) : Sets e "expression" text { e with code := text }

def HasLocals (e : ExpressionNode) : Prop := LocalPort.check [] (e.inputs ++ e.outputs) = .ok ()

theorem HasLocals.of_sublists {e e' : ExpressionNode} (h : e'.HasLocals) (hInputs : e.inputs.Sublist e'.inputs)
    (hOutputs : e.outputs.Sublist e'.outputs) : e.HasLocals :=
  LocalPort.check_of_sublist (hInputs.append hOutputs) h

theorem sets_of_assign {e e' : ExpressionNode} (hLocals : e.HasLocals) {name : String} {value : ParamValue}
    (h : assign e.slots "expression" name value = .ok e') :
    ∃ text, value = .text text ∧ e.Sets name text e' ∧ e'.HasLocals := by
  obtain ⟨slot, hFind, hPut⟩ := assign_eq_ok_iff.mp h
  obtain ⟨hSlot, rfl⟩ := find?_eq_some hFind
  simp only [slots, ParamSlot.text, List.mem_cons, List.not_mem_nil, or_false] at hSlot
  rcases hSlot with rfl | rfl | rfl
  · simp only [put_checkedText_eq_ok_iff, Except.mapError_eq_ok_iff, setInputs, Except.bind_eq_ok_iff,
      checked_eq_ok_iff] at hPut
    obtain ⟨text, rfl, ports, hRead, hCheck, rfl⟩ := hPut
    exact ⟨text, rfl, .inputs hRead, hCheck⟩
  · simp only [put_checkedText_eq_ok_iff, Except.mapError_eq_ok_iff, setOutputs, Except.bind_eq_ok_iff,
      checked_eq_ok_iff] at hPut
    obtain ⟨text, rfl, ports, hRead, hCheck, rfl⟩ := hPut
    exact ⟨text, rfl, .outputs hRead, hCheck⟩
  · simp only [put_checkedText_eq_ok_iff, Except.ok.injEq] at hPut
    obtain ⟨text, rfl, rfl⟩ := hPut
    exact ⟨text, rfl, .code text, hLocals⟩

theorem applyParam_eq_ok_iff {e : ExpressionNode} (hLocals : e.HasLocals) {name : String} {value : ParamValue}
    {m : StandardNode} : NodeModel.applyParam (StandardNode.expression e) name value = .ok m ↔
      ∃ text e', value = .text text ∧ e.Sets name text e' ∧ e'.HasLocals ∧ m = .expression e' := by
  constructor
  · intro h
    rw [NodeModel.applyParam, Except.bind_unit_eq_ok_iff] at h
    have hMapped : (assign e.slots "expression" name value).map StandardNode.expression = .ok m :=
      (assign_map StandardNode.expression e.slots "expression" name value).symm.trans h.2
    obtain ⟨e', hAssign, rfl⟩ := Except.map_eq_ok_iff.mp hMapped
    obtain ⟨text, rfl, hSets, hLocals'⟩ := sets_of_assign hLocals hAssign
    exact ⟨text, e', rfl, hSets, hLocals', rfl⟩
  · rintro ⟨text, e', rfl, hSets, hLocals', rfl⟩
    cases hSets with
    | inputs hRead =>
      have hSet : e.setInputs text = .ok _ :=
        Except.bind_eq_ok_iff.mpr ⟨_, hRead, checked_eq_ok_iff.mpr ⟨hLocals', rfl⟩⟩
      exact StandardNode.applyParam_of_accepts rfl
        ((accepts_checkedText _ (Except.mapError_eq_ok_iff.mpr hSet)).map _)
    | outputs hRead =>
      have hSet : e.setOutputs text = .ok _ :=
        Except.bind_eq_ok_iff.mpr ⟨_, hRead, checked_eq_ok_iff.mpr ⟨hLocals', rfl⟩⟩
      exact StandardNode.applyParam_of_accepts rfl
        ((accepts_checkedText _ (Except.mapError_eq_ok_iff.mpr hSet)).map _)
    | code => exact StandardNode.applyParam_of_accepts rfl ⟨rfl, rfl⟩

/-- A list that is to be set is still empty, so on either way the ports in between are among those at the end. -/
theorem Sets.exchange {e t m : ExpressionNode} {name name' text text' : String} (hNe : name ≠ name')
    (hInputs : name = "inputs" ∨ name' = "inputs" → e.inputs = [])
    (hOutputs : name = "outputs" ∨ name' = "outputs" → e.outputs = []) (hFirst : e.Sets name text t)
    (hSecond : t.Sets name' text' m) :
    ∃ t', e.Sets name' text' t' ∧ t'.Sets name text m ∧ t'.inputs.Sublist m.inputs ∧ t'.outputs.Sublist m.outputs := by
  cases hFirst with
  | inputs hRead =>
    cases hSecond with
    | inputs => exact absurd rfl hNe
    | outputs hRead' => exact ⟨_, .outputs hRead', .inputs hRead, by simp [hInputs], List.Sublist.refl _⟩
    | code => exact ⟨_, .code text', .inputs hRead, by simp [hInputs], List.Sublist.refl _⟩
  | outputs hRead =>
    cases hSecond with
    | inputs hRead' => exact ⟨_, .inputs hRead', .outputs hRead, List.Sublist.refl _, by simp [hOutputs]⟩
    | outputs => exact absurd rfl hNe
    | code => exact ⟨_, .code text', .outputs hRead, List.Sublist.refl _, by simp [hOutputs]⟩
  | code =>
    cases hSecond with
    | inputs hRead' => exact ⟨_, .inputs hRead', .code text, List.Sublist.refl _, List.Sublist.refl _⟩
    | outputs hRead' => exact ⟨_, .outputs hRead', .code text, List.Sublist.refl _, List.Sublist.refl _⟩
    | code => exact absurd rfl hNe

end ExpressionNode

/-! ## Bags -/

namespace StandardNode

variable {n m t : StandardNode} {name name' : String} {value value' : ParamValue}

/-- A parameter that is as in a new node of the kind. -/
def IsUnset (n : StandardNode) (name : String) : Prop :=
  n.IsUsable ∧ NodeModel.param? n name = NodeModel.param? n.fresh name

theorem IsUnset.of_applyParam (h : n.IsUnset name) (hNe : name ≠ name')
    (hApply : NodeModel.applyParam n name' value = .ok m) : m.IsUnset name := by
  refine ⟨(isUser_applyParam h.1 hApply).isUsable, ?_⟩
  rw [(param?_of_applyParam hApply).2 name hNe, fresh_applyParam hApply]
  exact h.2

theorem IsUnset.ports_eq_nil {e : ExpressionNode} (h : (expression e).IsUnset name) :
    (name = "inputs" → e.inputs = []) ∧ (name = "outputs" → e.outputs = []) := by
  have hUsable := LocalPort.isUsable_of_check h.1
  constructor
  · rintro rfl
    refine LocalPort.eq_nil_of_writeAll (fun p hMem => hUsable p (List.mem_append_left _ hMem)) ?_
    exact ParamValue.text.inj (Option.some.inj h.2)
  · rintro rfl
    refine LocalPort.eq_nil_of_writeAll (fun p hMem => hUsable p (List.mem_append_right _ hMem)) ?_
    exact ParamValue.text.inj (Option.some.inj h.2)

theorem IsUnset.exchange (h : n.IsUnset name) (h' : n.IsUnset name') (hNe : name ≠ name')
    (hFirst : NodeModel.applyParam n name value = .ok t) (hSecond : NodeModel.applyParam t name' value' = .ok m) :
    ∃ t', NodeModel.applyParam n name' value' = .ok t' ∧ NodeModel.applyParam t' name value = .ok m := by
  by_cases hExpression : ∃ e, n = .expression e
  · obtain ⟨e, rfl⟩ := hExpression
    obtain ⟨text, t, rfl, hSets, hLocals, rfl⟩ := (ExpressionNode.applyParam_eq_ok_iff h.1).mp hFirst
    obtain ⟨text', m, rfl, hSets', hLocals', rfl⟩ := (ExpressionNode.applyParam_eq_ok_iff hLocals).mp hSecond
    obtain ⟨t', hFirst', hSecond', hInputs, hOutputs⟩ := hSets.exchange hNe
      (fun hName => hName.elim h.ports_eq_nil.1 h'.ports_eq_nil.1)
      (fun hName => hName.elim h.ports_eq_nil.2 h'.ports_eq_nil.2) hSets'
    have hBetween : t'.HasLocals := hLocals'.of_sublists hInputs hOutputs
    exact ⟨.expression t', (ExpressionNode.applyParam_eq_ok_iff h.1).mpr ⟨text', t', rfl, hFirst', hBetween, rfl⟩,
      (ExpressionNode.applyParam_eq_ok_iff hBetween).mpr ⟨text, m, rfl, hSecond', hLocals', rfl⟩⟩
  · exact exchange_of_total h.1 (fun e hSame => hExpression ⟨e, hSame⟩) hNe hFirst hSecond

theorem fresh_of_mem_prototypes : ∀ n ∈ prototypes, n.fresh = n := by
  decide

theorem applyAll_of_perm {bag bag' : ParamBag} (hMem : n ∈ prototypes) (hPerm : bag.entries.Perm bag'.entries)
    (h : NodeModel.applyAll n bag.entries = .ok m) : NodeModel.applyAll n bag'.entries = .ok m := by
  refine Except.foldlM_of_perm (P := IsUnset) ?_ ?_ hPerm bag.keys_nodup (fun x _ => ?_) h
  · exact fun hUnset hNe hApply => hUnset.of_applyParam hNe hApply
  · exact fun hUnset hUnset' hNe hFirst hSecond => hUnset.exchange hUnset' hNe hFirst hSecond
  · exact ⟨(isUser_of_mem_prototypes hMem).isUsable, by rw [fresh_of_mem_prototypes n hMem]⟩

/-- Bags with the same entries, in whatever order, make the same node of a kind, or neither makes one. -/
theorem instantiate_ignores_bag_order (kind : String) {bag bag' : ParamBag} (h : bag.entries.Perm bag'.entries) :
    ((∃ cause, Command.registry.instantiate kind bag = .error cause) ∧
      ∃ cause, Command.registry.instantiate kind bag' = .error cause) ∨
    ∃ n, Command.registry.instantiate kind bag = .ok n ∧ Command.registry.instantiate kind bag' = .ok n := by
  have hSame (n : StandardNode) : Command.registry.instantiate kind bag = .ok n ↔
      Command.registry.instantiate kind bag' = .ok n := by
    rw [Registry.instantiate, Registry.instantiate]
    cases hFind : Command.registry.find? kind with
    | none => simp
    | some start =>
      have hMem : start ∈ prototypes := List.mem_of_find?_eq_some hFind
      rw [Except.mapError_eq_ok_iff, Except.mapError_eq_ok_iff]
      exact ⟨applyAll_of_perm hMem h, applyAll_of_perm hMem h.symm⟩
  cases hMade : Command.registry.instantiate kind bag with
  | ok n => exact .inr ⟨n, rfl, (hSame n).mp hMade⟩
  | error cause =>
    left
    refine ⟨⟨cause, rfl⟩, ?_⟩
    cases hMade' : Command.registry.instantiate kind bag' with
    | ok n => cases hMade.symm.trans ((hSame n).mpr hMade')
    | error cause' => exact ⟨cause', rfl⟩

/-- Ports of different names are taken in either order, and ports of one name in neither. -/
theorem instantiate_ignores_bag_order_twoLists :
    let inputs := ("inputs", ParamValue.text "float a")
    let outputs := ("outputs", ParamValue.text "vec3 b")
    let clashing := ("outputs", ParamValue.text "vec3 a")
    (∃ n, Command.registry.instantiate "expression" (.ofList [inputs, outputs]) = .ok n ∧
      Command.registry.instantiate "expression" (.ofList [outputs, inputs]) = .ok n) ∧
    (∃ cause, Command.registry.instantiate "expression" (.ofList [inputs, clashing]) = .error cause) ∧
    ∃ cause, Command.registry.instantiate "expression" (.ofList [clashing, inputs]) = .error cause := by
  intro inputs outputs clashing
  have hPerm : (Table.ofList [inputs, outputs]).entries.Perm (Table.ofList [outputs, inputs]).entries := .swap _ _ _
  have hPerm' : (Table.ofList [inputs, clashing]).entries.Perm (Table.ofList [clashing, inputs]).entries := .swap _ _ _
  constructor
  · rcases instantiate_ignores_bag_order "expression" hPerm with ⟨⟨cause, hFails⟩, -⟩ | hMade
    · cases hFails
    · exact hMade
  · rcases instantiate_ignores_bag_order "expression" hPerm' with hFails | ⟨n, hMade, -⟩
    · exact hFails
    · cases hMade

end StandardNode

end ShadeGraph
