import ShadeGraph.Proofs.Atomicity
import ShadeGraph.Proofs.Regular
import ShadeGraph.Proofs.Reload

/-!
# Parameters are independent fields

Setting a parameter changes the value of that parameter and of no other. The parameters of a node determine it: a fresh
node of its kind that is given them becomes the node again, wherever the two are bound.
-/

namespace ShadeGraph

namespace ParamSlot

variable {ν μ : Type}

def field (slot : ParamSlot ν) : ParamSpec × ParamValue := (slot.spec, slot.value)

/-- The slot of a name holds a new value, and all others hold what they held. -/
def Updates (slots slots' : List (ParamSlot ν)) (name : String) (value : ParamValue) : Prop :=
  slots'.map field = (slots.map field).map fun f => if f.1.name = name then (f.1, value) else f

/-- Whatever is put into a slot of a node, it is kept in some form there and changes no other slot. -/
def Independent (slots : ν → List (ParamSlot ν)) (kept : String → ParamValue → ParamValue) (n : ν) : Prop :=
  ∀ slot ∈ slots n, slot.Writes fun value m => Updates (slots n) (slots m) slot.spec.name (kept slot.spec.name value)

theorem fields_map (slots : List (ParamSlot ν)) (f : ν → μ) : (slots.map (·.map f)).map field = slots.map field := by
  rw [List.map_map]
  rfl

theorem find?_fields (slots : List (ParamSlot ν)) (name : String) :
    (slots.map field).find? (·.1.name = name) = (find? slots name).map field :=
  List.find?_map

/-- What is looked up by its name is read off the fields. -/
theorem find?_map_value_congr {slots slots' : List (ParamSlot ν)} (h : slots'.map field = slots.map field)
    (name : String) : (find? slots' name).map ParamSlot.value = (find? slots name).map ParamSlot.value := by
  have hFound : (find? slots' name).map field = (find? slots name).map field := by
    rw [← find?_fields, h, find?_fields]
  have hValue := congrArg (Option.map Prod.snd) hFound
  rwa [Option.map_map, Option.map_map] at hValue

theorem Updates.find?_map_value {slots slots' : List (ParamSlot ν)} {name : String} {value : ParamValue}
    (h : Updates slots slots' name value) (other : String) :
    (find? slots' other).map ParamSlot.value =
      (find? slots other).map fun slot => if other = name then value else slot.value := by
  have hFound : (find? slots' other).map field =
      (find? slots other).map fun slot => if slot.spec.name = name then (slot.spec, value) else slot.field := by
    -- An update changes no name, so it does not change which slot is found.
    have hName : (fun f : ParamSpec × ParamValue => decide (f.1.name = other)) ∘
        (fun f => if f.1.name = name then (f.1, value) else f) = fun f => decide (f.1.name = other) := by
      funext f
      simp only [Function.comp_apply]
      split <;> rfl
    rw [← find?_fields, h, List.find?_map, hName, find?_fields, Option.map_map]
    rfl
  have hValue := congrArg (Option.map Prod.snd) hFound
  rw [Option.map_map, Option.map_map] at hValue
  refine hValue.trans (Option.map_congr fun slot hSlot => ?_)
  rw [Function.comp_apply, (find?_eq_some hSlot).2]
  split <;> rfl

theorem Independent.lift {slots : ν → List (ParamSlot ν)} {slots' : μ → List (ParamSlot μ)}
    {kept : String → ParamValue → ParamValue} {n : ν} (h : Independent slots kept n) (f : ν → μ)
    (hSlots : ∀ n, slots' (f n) = (slots n).map (·.map f)) : Independent slots' kept (f n) := by
  intro slot hSlot
  rw [hSlots] at hSlot
  obtain ⟨inner, hInner, rfl⟩ := List.mem_map.mp hSlot
  refine Writes.map f fun value part hPart => ?_
  have hUpdates := h inner hInner value part hPart
  dsimp only [Updates] at hUpdates ⊢
  rw [hSlots, hSlots, fields_map, fields_map]
  exact hUpdates

end ParamSlot

open ParamSlot

/-! ## The kinds of nodes -/

/-- Most parameters are kept as they are given. -/
def keptPlainly (_ : String) (value : ParamValue) : ParamValue := value

theorem Constant.independent (c : Constant) : Independent slots keptPlainly c := by
  cases c with
  | scalar v => exact List.forall_mem_singleton.mpr (writes_float fun _ => rfl)
  | boolean v => exact List.forall_mem_singleton.mpr (writes_bool fun _ => rfl)
  | color v => exact List.forall_mem_singleton.mpr (writes_color fun _ => rfl)
  | vector v => exact List.forall_mem_singleton.mpr (writes_vector3 fun _ => rfl)
  | transform v => exact List.forall_mem_singleton.mpr (writes_transform fun _ => rfl)

theorem Operator.independent (n : Operator) : Independent slots keptPlainly n := by
  cases n <;> exact List.forall_mem_singleton.mpr (writes_choice fun _ => rfl)

theorem FunctionNode.independent (n : FunctionNode) : Independent slots keptPlainly n := by
  cases n <;> exact List.forall_mem_singleton.mpr (writes_choice fun _ => rfl)

theorem Comparison.independent (c : Comparison) : Independent slots keptPlainly c :=
  List.forall_mem_cons.mpr ⟨writes_choice fun _ => rfl, List.forall_mem_cons.mpr
    ⟨writes_choice fun _ => rfl, List.forall_mem_singleton.mpr (writes_choice fun _ => rfl)⟩⟩

theorem LogicNode.independent (n : LogicNode) : Independent slots keptPlainly n := by
  cases n with
  | floatTest tested => exact List.forall_mem_singleton.mpr (writes_choice fun _ => rfl)
  | compare c => exact c.independent.lift compare fun _ => rfl
  | _ => exact fun slot hSlot => absurd hSlot List.not_mem_nil

/-- The name of a uniform is kept as an identifier. -/
def UniformName.kept (name : String) : ParamValue → ParamValue
  | .text text => if name = uniformNameParam then .text (sanitize text) else .text text
  | value => value

theorem ValueUniform.independent (u : ValueUniform) : Independent slots UniformName.kept u :=
  List.forall_mem_singleton.mpr (writes_text fun _ => rfl)

theorem TextureUniform.independent (u : TextureUniform) : Independent slots UniformName.kept u :=
  List.forall_mem_cons.mpr ⟨writes_text fun _ => rfl, List.forall_mem_cons.mpr
    ⟨writes_choice fun _ => rfl, List.forall_mem_cons.mpr
      ⟨writes_choice fun _ => rfl, List.forall_mem_singleton.mpr (writes_resource fun _ => rfl)⟩⟩⟩

theorem CubeMapUniform.independent (u : CubeMapUniform) : Independent slots UniformName.kept u :=
  List.forall_mem_cons.mpr ⟨writes_text fun _ => rfl, List.forall_mem_cons.mpr
    ⟨writes_choice fun _ => rfl, List.forall_mem_cons.mpr
      ⟨writes_choice fun _ => rfl, List.forall_mem_singleton.mpr (writes_resource fun _ => rfl)⟩⟩⟩

theorem UniformNode.independent (n : UniformNode) : Independent slots UniformName.kept n := by
  cases n with
  | value u => exact u.independent.lift value fun _ => rfl
  | texture u => exact u.independent.lift texture fun _ => rfl
  | cubeMap u => exact u.independent.lift cubeMap fun _ => rfl

theorem TextureNode.independent (n : TextureNode) : Independent slots keptPlainly n :=
  List.forall_mem_cons.mpr ⟨writes_choice fun _ => rfl, List.forall_mem_cons.mpr
    ⟨writes_resource fun _ => rfl, List.forall_mem_singleton.mpr (writes_choice fun _ => rfl)⟩⟩

theorem CubeMapNode.independent (n : CubeMapNode) : Independent slots keptPlainly n :=
  List.forall_mem_cons.mpr ⟨writes_choice fun _ => rfl, List.forall_mem_cons.mpr
    ⟨writes_resource fun _ => rfl, List.forall_mem_singleton.mpr (writes_choice fun _ => rfl)⟩⟩

/-- A list of ports is kept as it is written. -/
def LocalPort.kept (name : String) : ParamValue → ParamValue
  | .text text =>
    if name = "inputs" ∨ name = "outputs" then
      match readAll text with
      | .ok ports => .text (writeAll ports)
      | .error _ => .text text
    else .text text
  | value => value

theorem LocalPort.kept_of_readAll {name text : String} {ports : List LocalPort}
    (hName : name = "inputs" ∨ name = "outputs") (h : readAll text = .ok ports) :
    kept name (.text text) = .text (writeAll ports) := by
  simp only [kept, if_pos hName, h]

theorem ExpressionNode.independent (n : ExpressionNode) : Independent slots LocalPort.kept n := by
  refine List.forall_mem_cons.mpr ⟨?_, List.forall_mem_cons.mpr ⟨?_, List.forall_mem_singleton.mpr ?_⟩⟩
  · refine writes_checkedText fun text m hPut => ?_
    simp only [Except.mapError_eq_ok_iff, setInputs, Except.bind_eq_ok_iff, checked_eq_ok_iff] at hPut
    obtain ⟨ports, hRead, -, rfl⟩ := hPut
    change Updates _ _ "inputs" (LocalPort.kept "inputs" (.text text))
    rw [LocalPort.kept_of_readAll (.inl rfl) hRead]
    simp [Updates, slots, field, checkedText, ParamSlot.text]
  · refine writes_checkedText fun text m hPut => ?_
    simp only [Except.mapError_eq_ok_iff, setOutputs, Except.bind_eq_ok_iff, checked_eq_ok_iff] at hPut
    obtain ⟨ports, hRead, -, rfl⟩ := hPut
    change Updates _ _ "outputs" (LocalPort.kept "outputs" (.text text))
    rw [LocalPort.kept_of_readAll (.inr rfl) hRead]
    simp [Updates, slots, field, checkedText, ParamSlot.text]
  · refine writes_text fun code => ?_
    have hKept : LocalPort.kept "expression" (.text code) = .text code := by simp [LocalPort.kept]
    change Updates _ _ "expression" (LocalPort.kept "expression" (.text code))
    rw [hKept]
    simp [Updates, slots, field, checkedText, ParamSlot.text]

theorem GlobalExpression.independent (n : GlobalExpression) : Independent slots keptPlainly n :=
  List.forall_mem_singleton.mpr (writes_text fun _ => rfl)

theorem InputNode.independent (n : InputNode) : Independent slots keptPlainly n :=
  List.forall_mem_singleton.mpr (writes_text fun _ => rfl)

namespace StandardNode

/-- What a node makes of a value that a parameter is set to. -/
def kept (n : StandardNode) : String → ParamValue → ParamValue :=
  match n with
  | .uniform _ => UniformName.kept
  | .expression _ => LocalPort.kept
  | _ => keptPlainly

theorem independent (n : StandardNode) : Independent slots n.kept n := by
  cases n with
  | output | formula => exact fun slot hSlot => absurd hSlot List.not_mem_nil
  | input n => exact n.independent.lift input fun _ => rfl
  | constant n => exact n.independent.lift constant fun _ => rfl
  | operator n => exact n.independent.lift operator fun _ => rfl
  | function n => exact n.independent.lift function fun _ => rfl
  | logic n => exact n.independent.lift logic fun _ => rfl
  | uniform n => exact n.independent.lift uniform fun _ => rfl
  | texture n => exact n.independent.lift texture fun _ => rfl
  | cubeMap n => exact n.independent.lift cubeMap fun _ => rfl
  | expression n => exact n.independent.lift expression fun _ => rfl
  | globalExpression n => exact n.independent.lift globalExpression fun _ => rfl

theorem updates_of_applyParam {n m : StandardNode} {name : String} {value : ParamValue}
    (h : NodeModel.applyParam n name value = .ok m) : Updates n.slots m.slots name (n.kept name value) := by
  obtain ⟨slot, hSlot, rfl, hPut⟩ := exists_slot_of_applyParam h
  exact n.independent slot hSlot value m hPut

theorem param?_of_applyParam {n m : StandardNode} {name : String} {value : ParamValue}
    (h : NodeModel.applyParam n name value = .ok m) :
    NodeModel.param? m name = some (n.kept name value) ∧
      ∀ other, other ≠ name → NodeModel.param? m other = NodeModel.param? n other := by
  have hUpdates := updates_of_applyParam h
  rw [NodeModel.applyParam, Except.bind_unit_eq_ok_iff] at h
  obtain ⟨slot, hFind, -⟩ := assign_eq_ok_iff.mp h.2
  constructor
  · refine (hUpdates.find?_map_value name).trans ?_
    rw [show find? n.slots name = some slot from hFind, Option.map_some, if_pos rfl]
  · intro other hOther
    refine (hUpdates.find?_map_value other).trans ?_
    simp only [if_neg hOther]
    rfl

theorem schema_applyParam {n m : StandardNode} {name : String} {value : ParamValue}
    (h : NodeModel.applyParam n name value = .ok m) : NodeModel.schema m = NodeModel.schema n := by
  have hFields := congrArg (List.map Prod.fst) (updates_of_applyParam h)
  rw [List.map_map, List.map_map, List.map_map] at hFields
  refine hFields.trans (List.map_congr_left fun slot _ => ?_)
  simp only [Function.comp_apply]
  split <;> rfl

end StandardNode

/-! ## Nodes stay of their kind -/

theorem ParamSlot.writes_of_mem_map {ν μ : Type} {slots : List (ParamSlot ν)} {f : ν → μ} {P : ParamValue → μ → Prop}
    (h : ∀ slot ∈ slots, slot.Writes fun value n => P value (f n)) : ∀ slot ∈ slots.map (·.map f), slot.Writes P := by
  intro slot hSlot
  obtain ⟨inner, hInner, rfl⟩ := List.mem_map.mp hSlot
  exact (h inner hInner).map f

theorem Constant.writes_fresh (c : Constant) : ∀ slot ∈ c.slots, slot.Writes fun _ m => m.fresh = c.fresh := by
  cases c with
  | scalar v => exact List.forall_mem_singleton.mpr (writes_float fun _ => rfl)
  | boolean v => exact List.forall_mem_singleton.mpr (writes_bool fun _ => rfl)
  | color v => exact List.forall_mem_singleton.mpr (writes_color fun _ => rfl)
  | vector v => exact List.forall_mem_singleton.mpr (writes_vector3 fun _ => rfl)
  | transform v => exact List.forall_mem_singleton.mpr (writes_transform fun _ => rfl)

theorem Operator.writes_fresh (n : Operator) : ∀ slot ∈ n.slots, slot.Writes fun _ m => m.fresh = n.fresh := by
  cases n <;> exact List.forall_mem_singleton.mpr (writes_choice fun _ => rfl)

theorem FunctionNode.writes_fresh (n : FunctionNode) : ∀ slot ∈ n.slots, slot.Writes fun _ m => m.fresh = n.fresh := by
  cases n <;> exact List.forall_mem_singleton.mpr (writes_choice fun _ => rfl)

theorem LogicNode.writes_fresh (n : LogicNode) : ∀ slot ∈ n.slots, slot.Writes fun _ m => m.fresh = n.fresh := by
  cases n with
  | floatTest tested => exact List.forall_mem_singleton.mpr (writes_choice fun _ => rfl)
  | compare c => exact writes_of_mem_map fun _ _ _ _ _ => rfl
  | _ => exact fun slot hSlot => absurd hSlot List.not_mem_nil

theorem UniformNode.writes_fresh (n : UniformNode) : ∀ slot ∈ n.slots, slot.Writes fun _ m => m.fresh = n.fresh := by
  cases n with
  | value u => exact writes_of_mem_map (List.forall_mem_singleton.mpr (writes_text fun _ => rfl))
  | texture u =>
    refine writes_of_mem_map (List.forall_mem_cons.mpr ⟨writes_text fun _ => rfl, ?_⟩)
    refine List.forall_mem_cons.mpr ⟨writes_choice fun _ => rfl, ?_⟩
    exact List.forall_mem_cons.mpr ⟨writes_choice fun _ => rfl,
      List.forall_mem_singleton.mpr (writes_resource fun _ => rfl)⟩
  | cubeMap u => exact writes_of_mem_map fun _ _ _ _ _ => rfl

namespace StandardNode

theorem writes_fresh (n : StandardNode) : ∀ slot ∈ n.slots, slot.Writes fun _ m => m.fresh = n.fresh := by
  have hLift {ν : Type} {slots : List (ParamSlot ν)} {fresh : ν → ν} {n : ν} (f : ν → StandardNode)
      (hFresh : ∀ m, (f m).fresh = f (fresh m)) (h : ∀ slot ∈ slots, slot.Writes fun _ m => fresh m = fresh n) :
      ∀ slot ∈ slots.map (·.map f), slot.Writes fun _ m => m.fresh = (f n).fresh := by
    refine writes_of_mem_map fun slot hSlot value m hPut => ?_
    have hSame := congrArg f (h slot hSlot value m hPut)
    rwa [← hFresh, ← hFresh] at hSame
  cases n with
  | output | formula => exact fun slot hSlot => absurd hSlot List.not_mem_nil
  | constant n => exact hLift constant (fun _ => rfl) n.writes_fresh
  | operator n => exact hLift operator (fun _ => rfl) n.writes_fresh
  | function n => exact hLift function (fun _ => rfl) n.writes_fresh
  | logic n => exact hLift logic (fun _ => rfl) n.writes_fresh
  | uniform n => exact hLift uniform (fun _ => rfl) n.writes_fresh
  | _ => exact writes_of_mem_map fun _ _ _ _ _ => rfl

theorem fresh_applyParam {n m : StandardNode} {name : String} {value : ParamValue}
    (h : NodeModel.applyParam n name value = .ok m) : m.fresh = n.fresh := by
  obtain ⟨slot, hSlot, -, hPut⟩ := exists_slot_of_applyParam h
  exact n.writes_fresh slot hSlot value m hPut

theorem kind_fresh (n : StandardNode) : n.fresh.kind = n.kind := by
  cases n with
  | constant n => cases n <;> rfl
  | operator n => cases n <;> rfl
  | function n => cases n <;> rfl
  | logic n => cases n <;> rfl
  | uniform n => cases n <;> rfl
  | _ => rfl

theorem kind_applyParam {n m : StandardNode} {name : String} {value : ParamValue}
    (h : NodeModel.applyParam n name value = .ok m) : NodeModel.kind m = NodeModel.kind n := by
  have hKind := congrArg kind (fresh_applyParam h)
  rwa [kind_fresh, kind_fresh] at hKind

end StandardNode

/-! ## Nodes from their parameters -/

namespace StandardNode

theorem applyAll_take {n n' m : StandardNode} {slot : ParamSlot StandardNode} {name : String} {value : ParamValue}
    {rest : List (String × ParamValue)} (hFind : find? n.slots name = some slot) (hAccepts : slot.Accepts value n')
    (hRest : NodeModel.applyAll n' rest = .ok m) : NodeModel.applyAll n ((name, value) :: rest) = .ok m := by
  rw [NodeModel.applyAll, List.foldlM_cons]
  exact Except.bind_eq_ok_iff.mpr ⟨n', applyParam_of_accepts hFind hAccepts, hRest⟩

theorem applyAll_constant (c : Constant) :
    NodeModel.applyAll (constant c.fresh) (NodeModel.params (constant c)) = .ok (constant c) := by
  cases c <;> exact applyAll_take rfl ⟨rfl, rfl⟩ rfl

theorem applyAll_operator (n : Operator) :
    NodeModel.applyAll (operator n.fresh) (NodeModel.params (operator n)) = .ok (operator n) := by
  cases n <;> exact applyAll_take rfl ((accepts_choice _ _ _).map _) rfl

theorem applyAll_function (n : FunctionNode) :
    NodeModel.applyAll (function n.fresh) (NodeModel.params (function n)) = .ok (function n) := by
  cases n <;> exact applyAll_take rfl ((accepts_choice _ _ _).map _) rfl

theorem applyAll_logic (n : LogicNode) :
    NodeModel.applyAll (logic n.fresh) (NodeModel.params (logic n)) = .ok (logic n) := by
  cases n with
  | floatTest tested => exact applyAll_take rfl ((accepts_choice _ tested _).map _) rfl
  | compare c =>
    exact applyAll_take rfl (((accepts_choice _ c.type _).map _).map _) <|
      applyAll_take rfl (((accepts_choice _ c.relation _).map _).map _) <|
      applyAll_take rfl (((accepts_choice _ c.quantifier _).map _).map _) rfl
  | _ => rfl

theorem applyAll_uniform {n : UniformNode} (hName : UniformName.sanitize n.name = n.name) :
    NodeModel.applyAll (uniform n.fresh) (NodeModel.params (uniform n)) = .ok (uniform n) := by
  cases n with
  | value u =>
    have hAll : NodeModel.applyAll (uniform (.value { type := u.type })) (NodeModel.params (uniform (.value u))) =
        .ok (uniform (.value { u with name := UniformName.sanitize u.name })) := applyAll_take rfl ⟨rfl, rfl⟩ rfl
    rwa [show UniformName.sanitize u.name = u.name from hName] at hAll
  | texture u =>
    have hAll : NodeModel.applyAll (uniform (.texture { triplanar := u.triplanar }))
        (NodeModel.params (uniform (.texture u))) =
          .ok (uniform (.texture { u with name := UniformName.sanitize u.name })) :=
      applyAll_take rfl ⟨rfl, rfl⟩ <| applyAll_take rfl (((accepts_choice _ u.texture _).map _).map _) <|
        applyAll_take rfl (((accepts_choice _ u.unbound _).map _).map _) <| applyAll_take rfl ⟨rfl, rfl⟩ rfl
    rwa [show UniformName.sanitize u.name = u.name from hName] at hAll
  | cubeMap u =>
    have hAll : NodeModel.applyAll (uniform (.cubeMap {})) (NodeModel.params (uniform (.cubeMap u))) =
        .ok (uniform (.cubeMap { u with name := UniformName.sanitize u.name })) :=
      applyAll_take rfl ⟨rfl, rfl⟩ <| applyAll_take rfl (((accepts_choice _ u.texture _).map _).map _) <|
        applyAll_take rfl (((accepts_choice _ u.unbound _).map _).map _) <| applyAll_take rfl ⟨rfl, rfl⟩ rfl
    rwa [show UniformName.sanitize u.name = u.name from hName] at hAll

theorem applyAll_texture (n : TextureNode) :
    NodeModel.applyAll (texture {}) (NodeModel.params (texture n)) = .ok (texture n) :=
  applyAll_take rfl ((accepts_choice _ n.source _).map _) <| applyAll_take rfl ⟨rfl, rfl⟩ <|
    applyAll_take rfl ((accepts_choice _ n.texture _).map _) rfl

theorem applyAll_cubeMap (n : CubeMapNode) :
    NodeModel.applyAll (cubeMap {}) (NodeModel.params (cubeMap n)) = .ok (cubeMap n) :=
  applyAll_take rfl ((accepts_choice _ n.source _).map _) <| applyAll_take rfl ⟨rfl, rfl⟩ <|
    applyAll_take rfl ((accepts_choice _ n.texture _).map _) rfl

theorem applyAll_expression {n : ExpressionNode} (h : LocalPort.check [] (n.inputs ++ n.outputs) = .ok ()) :
    NodeModel.applyAll (expression {}) (NodeModel.params (expression n)) = .ok (expression n) := by
  -- The lists of ports are checked together each time, so the inputs go in while there are no outputs.
  have hInputs := Except.mapError_eq_ok_iff (f := PortListError.message).mpr (ExpressionNode.setInputs_writeAll h)
  have hOutputs := Except.mapError_eq_ok_iff (f := PortListError.message).mpr (ExpressionNode.setOutputs_writeAll h)
  have hCode : NodeModel.applyAll (expression { inputs := n.inputs, outputs := n.outputs })
      [("expression", .text n.code)] = .ok (expression n) := applyAll_take rfl ⟨rfl, rfl⟩ rfl
  have hRest : NodeModel.applyAll (expression { inputs := n.inputs })
      [("outputs", .text (LocalPort.writeAll n.outputs)), ("expression", .text n.code)] = .ok (expression n) :=
    applyAll_take rfl ((accepts_checkedText _ hOutputs).map _) hCode
  exact applyAll_take rfl ((accepts_checkedText _ hInputs).map _) hRest

/-- A fresh node of the same kind that takes the parameters of a node one after the other becomes the node, apart from
where it stands. -/
theorem exists_applyAll_fresh {n : StandardNode} (h : n.IsUser)
    (hName : ∀ name, n.uniformName? = some name → UniformName.sanitize name = name) :
    ∃ m, NodeModel.applyAll n.fresh (NodeModel.params n) = .ok m ∧ NodeModel.params m = NodeModel.params n ∧
      ∀ mode stage, NodeModel.bind mode stage m = NodeModel.bind mode stage n := by
  cases n with
  | output => cases h.isTerminal
  | input n => exact ⟨.input { name := n.name }, applyAll_take rfl ⟨rfl, rfl⟩ rfl, rfl, fun _ _ => rfl⟩
  | constant n => exact ⟨_, applyAll_constant n, rfl, fun _ _ => rfl⟩
  | operator n => exact ⟨_, applyAll_operator n, rfl, fun _ _ => rfl⟩
  | function n => exact ⟨_, applyAll_function n, rfl, fun _ _ => rfl⟩
  | formula n => exact ⟨.formula n, rfl, rfl, fun _ _ => rfl⟩
  | logic n => exact ⟨_, applyAll_logic n, rfl, fun _ _ => rfl⟩
  | uniform n => exact ⟨_, applyAll_uniform (hName n.name rfl), rfl, fun _ _ => rfl⟩
  | texture n => exact ⟨_, applyAll_texture n, rfl, fun _ _ => rfl⟩
  | cubeMap n => exact ⟨_, applyAll_cubeMap n, rfl, fun _ _ => rfl⟩
  | expression n => exact ⟨_, applyAll_expression h.isUsable, rfl, fun _ _ => rfl⟩
  | globalExpression n => exact ⟨.globalExpression n, applyAll_take rfl ⟨rfl, rfl⟩ rfl, rfl, fun _ _ => rfl⟩

theorem names_nodup_of_mem_prototypes : ∀ n ∈ prototypes, ((NodeModel.schema n).map ParamSpec.name).Nodup := by
  decide

theorem instantiate_of_applyAll {n m : StandardNode} (h : n.isTerminal = false)
    (hAll : NodeModel.applyAll n.fresh (NodeModel.params n) = .ok m) :
    Command.registry.instantiate (NodeModel.kind n) (.ofList (NodeModel.params n)) = .ok m := by
  have hFind : Command.registry.find? (NodeModel.kind n) = some n.fresh := registry_find?_kind h
  have hNames : (NodeModel.params n).map Prod.fst = (NodeModel.schema n).map ParamSpec.name := by
    rw [NodeModel.params, NodeModel.schema, List.map_map, List.map_map]
    rfl
  have hNodup : ((NodeModel.params n).map Prod.fst).Nodup := by
    rw [hNames, ← schema_fresh]
    exact names_nodup_of_mem_prototypes _ (List.mem_of_find?_eq_some hFind)
  rw [Registry.instantiate, hFind, Except.mapError_eq_ok_iff, Table.entries_ofList hNodup]
  exact hAll

/-! ## Nodes that are made and set -/

/-- A node that came from the registry, was bound and had parameters set any number of times, in place. An attempt that
fails counts too. -/
inductive Made : StandardNode → Prop
  | new {kind : String} {bag : ParamBag} {n : StandardNode} (h : Command.registry.instantiate kind bag = .ok n) : Made n
  | bound {n : StandardNode} (h : Made n) (mode : Mode) (stage : Stage) : Made (NodeModel.bind mode stage n)
  | set {n : StandardNode} (h : Made n) (name : String) (value : ParamValue) : Made ((storeParam name value).exec n).2

/-- What all that is made has: the ports of an expression can be local variables, and the name of a uniform is one. -/
structure IsProper (n : StandardNode) : Prop where
  isUser : n.IsUser
  isName : ∀ name, NodeModel.uniformName? n = some name → UniformName.IsName name

theorem uniformName?_of_mem_prototypes :
    ∀ n ∈ prototypes, n.uniformName? = none ∨ n.uniformName? = some UniformName.fallback := by
  decide

theorem isProper_of_mem_prototypes {n : StandardNode} (h : n ∈ prototypes) : n.IsProper := by
  refine ⟨isUser_of_mem_prototypes h, fun name hName => ?_⟩
  rcases uniformName?_of_mem_prototypes n h with hNone | hSome
  · cases hName.symm.trans hNone
  · cases hName.symm.trans hSome
    exact UniformName.isName_fallback

theorem IsProper.applyParam {n m : StandardNode} {name : String} {value : ParamValue} (h : n.IsProper)
    (hApply : NodeModel.applyParam n name value = .ok m) : m.IsProper := by
  refine ⟨isUser_applyParam h.isUser.isUsable hApply, fun held hHeld => ?_⟩
  cases n with
  | uniform u =>
    obtain ⟨u', rfl, -, ⟨-, hSame⟩ | ⟨-, text, -, hNew⟩⟩ := applyParam_uniform hApply
    · exact h.isName held (hHeld ▸ congrArg some hSame.symm)
    · cases hHeld.symm.trans (congrArg some hNew)
      exact UniformName.isName_sanitize text
  | _ =>
    obtain ⟨slot, hSlot, -, hPut⟩ := exists_slot_of_applyParam hApply
    cases hHeld.symm.trans (uniformName?_put rfl hSlot hPut)

theorem Made.isProper {n : StandardNode} (h : n.Made) : n.IsProper := by
  induction h with
  | @new kind bag n hNew =>
    rw [Registry.instantiate] at hNew
    cases hFind : Command.registry.find? kind with
    | none =>
      rw [hFind] at hNew
      cases hNew
    | some start =>
      rw [hFind, Except.mapError_eq_ok_iff] at hNew
      refine Except.foldlM_induction ?_ (isProper_of_mem_prototypes (List.mem_of_find?_eq_some hFind)) hNew
      exact fun _ _ _ _ hProper hApply => hProper.applyParam hApply
  | bound _ mode stage ih =>
    refine ⟨isUser_bind ih.isUser mode stage, fun name hName => ih.isName name ?_⟩
    rwa [uniformName?_bind] at hName
  | @set n _ name value ih =>
    rw [n.performs_storeParam name value]
    cases hApply : NodeModel.applyParam n name value with
    | ok m => exact ih.applyParam hApply
    | error cause => exact ih

/-- Of a node that is made, setting a parameter with success makes it hold the value, in the form in which it is kept,
and leaves all other parameters alone; setting one in vain changes nothing. Its kind and its parameters make a node that
is the same wherever the two are bound, so it has the same ports and emits the same. -/
theorem parameters_determine_node {n : StandardNode} (h : n.Made) :
    (∀ name value m, (storeParam name value).exec n = (.ok (), m) →
      NodeModel.param? m name = some (n.kept name value) ∧
        ∀ other, other ≠ name → NodeModel.param? m other = NodeModel.param? n other) ∧
    (∀ name value cause m, (storeParam name value).exec n = (.error cause, m) → m = n) ∧
    ∃ m, Command.registry.instantiate (NodeModel.kind n) (.ofList (NodeModel.params n)) = .ok m ∧
      NodeModel.params m = NodeModel.params n ∧
      ∀ mode stage, NodeModel.bind mode stage m = NodeModel.bind mode stage n := by
  refine ⟨?_, ?_, ?_⟩
  · intro name value m hSet
    obtain ⟨m', hApply, rfl⟩ := (n.performs_storeParam name value).exec_eq_ok_iff.mp hSet
    exact param?_of_applyParam hApply
  · intro name value cause m hFails
    exact (n.performs_storeParam name value).eq_of_fails hFails
  · have hProper := h.isProper
    obtain ⟨m, hAll, hParams, hBind⟩ := exists_applyAll_fresh hProper.isUser fun name hName =>
      UniformName.sanitize_of_isName (hProper.isName name hName)
    exact ⟨m, instantiate_of_applyAll hProper.isUser.isTerminal hAll, hParams, hBind⟩

def oneInput : StandardNode := .expression { inputs := [{ type := .scalar, name := "a" }] }

/-- The text of its ports is kept as it is written, and an output with the name of the input is refused. -/
theorem parameters_determine_node_oneInput :
    oneInput.Made ∧
    (∃ m, (storeParam "outputs" (.text " vec3  b ,")).exec oneInput = (.ok (), m) ∧
      NodeModel.param? m "outputs" = some (.text "vec3 b") ∧
      NodeModel.param? m "inputs" = NodeModel.param? oneInput "inputs") ∧
    (storeParam "outputs" (.text "vec3 a")).exec oneInput =
      (.error (.invalid "outputs" "port name `a` is used twice"), oneInput) ∧
    ∃ m, Command.registry.instantiate "expression" (.ofList (NodeModel.params oneInput)) = .ok m ∧
      NodeModel.params m = NodeModel.params oneInput := by
  have hMake : Command.registry.instantiate "expression" (.ofList [("inputs", .text "float  a, ")]) = .ok oneInput :=
    rfl
  obtain ⟨hSet, hFails, m, hNew, hParams, -⟩ := parameters_determine_node (.new hMake)
  have hOutputs := hSet "outputs" (.text " vec3  b ,") _ rfl
  have hRefused : ((storeParam "outputs" (.text "vec3 a")).exec oneInput).1 =
      .error (.invalid "outputs" "port name `a` is used twice") := rfl
  have hSame := hFails "outputs" (.text "vec3 a") _ _ (Prod.ext hRefused rfl)
  exact ⟨.new hMake, ⟨_, rfl, hOutputs.1, hOutputs.2 "inputs" (by decide)⟩, Prod.ext hRefused hSame, m, hNew, hParams⟩

end StandardNode

end ShadeGraph
