import ShadeGraph.Node.Standard
import ShadeGraph.Proofs.Edits

/-!
# Facts about the standard nodes

What the graph relies on: which nodes follow the mode, what their ports are like, and what a parameter can
change.
-/

namespace ShadeGraph

namespace Port

/-- An input that takes scalars only if it is a vector. -/
structure IsInput (p : Port) : Prop where
  direction : p.direction = .input
  broadcasts : p.broadcasts = true → p.type = .vector3

@[simp] theorem isInput_input (name : String) (type : PortType) : (input name type).IsInput :=
  ⟨rfl, fun h => by cases h⟩

theorem IsInput.withDefault {p : Port} (h : p.IsInput) (value : PortValue) : (p.withDefault value).IsInput :=
  ⟨h.direction, h.broadcasts⟩

theorem IsInput.withHint {p : Port} (h : p.IsInput) (expression : String) (stages : List Stage) :
    (p.withHint expression stages).IsInput :=
  ⟨h.direction, h.broadcasts⟩

theorem IsInput.broadcast {p : Port} (h : p.IsInput) : p.broadcast.IsInput :=
  ⟨h.direction, fun hVector => by simpa [Port.broadcast] using hVector⟩

@[simp] theorem isInput_scalarInput (name : String) (value : Single) : (scalarInput name value).IsInput :=
  (isInput_input name .scalar).withDefault _

@[simp] theorem isInput_vectorInput (name : String) (value : Vec3) : (vectorInput name value).IsInput :=
  ((isInput_input name .vector3).withDefault _).broadcast

@[simp] theorem isInput_booleanInput (name : String) (value : Bool) : (booleanInput name value).IsInput :=
  (isInput_input name .boolean).withDefault _

@[simp] theorem isInput_transformInput (name : String) : (transformInput name).IsInput :=
  (isInput_input name .transform).withDefault _

theorem IsInput.feeds_of_accepts {p : Port} (h : p.IsInput) {source : PortType} (hAccepts : p.accepts source = true) :
    source.feeds p.type = true := by
  simp only [accepts, Bool.and_eq_true, Bool.or_eq_true, decide_eq_true_eq] at hAccepts
  simp only [PortType.feeds, Bool.or_eq_true, Bool.and_eq_true, decide_eq_true_eq]
  rcases hAccepts.2 with hSame | ⟨hBroadcast, hScalar⟩
  · exact .inl hSame.symm
  · exact .inr ⟨hScalar, h.broadcasts hBroadcast⟩

end Port

namespace StandardNode

/-- The ports of a node that is neither input nor output do not follow the mode. -/
theorem bind_of_not_isBuiltin {n : StandardNode} (h : Design.isBuiltin n = false) (mode : Mode) (stage : Stage) :
    NodeModel.bind mode stage n = n := by
  cases n with
  | output | input => cases h
  | _ => rfl

theorem isInput_of_mem_inputs (n : StandardNode) : ∀ p ∈ NodeModel.inputs n, p.IsInput := by
  change ∀ p ∈ n.inputs, p.IsInput
  have hCoordinate : Sampling.coordinateInput.IsInput := (Port.isInput_input _ _).withHint _ _
  cases n with
  | input | constant | globalExpression => simp [inputs]
  | output n =>
    intro p hMem
    obtain ⟨b, -, rfl⟩ := List.mem_map.mp hMem
    exact (Port.isInput_input _ _).broadcast
  | formula n =>
    intro p hMem
    obtain ⟨i, -, rfl⟩ := List.mem_map.mp hMem
    exact ((Port.isInput_input _ _).withDefault _).broadcast
  | expression n =>
    intro p hMem
    obtain ⟨i, -, rfl⟩ := List.mem_map.mp hMem
    exact ⟨rfl, fun hBroadcast => by cases hBroadcast⟩
  | operator n => cases n <;> simp [inputs, Operator.inputs]
  | function n => cases n <;> simp [inputs, FunctionNode.inputs]
  | logic n =>
    cases n with
    | compare c =>
      have hOperand (name : String) : (c.operandPort name).IsInput := by
        rw [Comparison.operandPort]
        split <;> simp
      simp [inputs, LogicNode.inputs, Comparison.inputs, or_imp, forall_and, hOperand]
    | _ => simp [inputs, LogicNode.inputs]
  | uniform n =>
    cases n with
    | texture u =>
      cases hTriplanar : u.triplanar <;>
        simp [inputs, UniformNode.inputs, TextureUniform.inputs, hTriplanar, hCoordinate, Sampling.lodInput]
    | _ => simp [inputs, UniformNode.inputs]
  | texture n => simp [inputs, TextureNode.inputs, hCoordinate, Sampling.lodInput]
  | cubeMap n => simp [inputs, CubeMapNode.inputs, hCoordinate, Sampling.lodInput]

/-- A node at file scope has nothing to read. -/
theorem outputs_eq_nil_of_isGlobal {n : StandardNode} (h : NodeModel.isGlobal n = true) : NodeModel.outputs n = [] := by
  cases n with
  | globalExpression => rfl
  | _ => cases h

def isTerminal : StandardNode → Bool
  | .output _ => true
  | _ => false

/-- The ports of an expression can be local variables. -/
def IsUsable : StandardNode → Prop
  | .expression n => LocalPort.check [] (n.inputs ++ n.outputs) = .ok ()
  | _ => True

instance : DecidablePred IsUsable := fun n =>
  match n with
  | .expression n => inferInstanceAs (Decidable (LocalPort.check [] (n.inputs ++ n.outputs) = .ok ()))
  | .output _ | .input _ | .constant _ | .operator _ | .function _ | .formula _ | .logic _ | .uniform _ | .texture _
  | .cubeMap _ | .globalExpression _ => .isTrue trivial

/-- A node of a kind that documents can name. -/
structure IsUser (n : StandardNode) : Prop where
  isTerminal : n.isTerminal = false
  isUsable : n.IsUsable

@[simp] theorem isTerminal_bind (mode : Mode) (stage : Stage) (n : StandardNode) :
    isTerminal (NodeModel.bind mode stage n) = n.isTerminal := by
  cases n <;> rfl

theorem bind_of_isTerminal {n : StandardNode} (h : n.isTerminal = true) (mode : Mode) (stage : Stage) :
    NodeModel.bind mode stage n = .output ⟨mode, stage⟩ := by
  cases n with
  | output => rfl
  | _ => cases h

theorem isUsable_bind {n : StandardNode} (h : n.IsUsable) (mode : Mode) (stage : Stage) :
    IsUsable (NodeModel.bind mode stage n) := by
  cases n <;> exact h

theorem isUser_bind {n : StandardNode} (h : n.IsUser) (mode : Mode) (stage : Stage) :
    IsUser (NodeModel.bind mode stage n) :=
  ⟨(isTerminal_bind mode stage n).trans h.isTerminal, isUsable_bind h.isUsable mode stage⟩

end StandardNode

/-! ## Parameters -/

namespace ParamSlot

theorem find?_eq_some {ν : Type} {slots : List (ParamSlot ν)} {name : String} {slot : ParamSlot ν}
    (h : find? slots name = some slot) : slot ∈ slots ∧ slot.spec.name = name :=
  ⟨List.mem_of_find?_eq_some h, by simpa using List.find?_some h⟩

theorem put_map_eq_ok_iff {ν μ : Type} {f : ν → μ} {slot : ParamSlot ν} {value : ParamValue} {m : μ} :
    (slot.map f).put value = .ok m ↔ ∃ n, slot.put value = .ok n ∧ f n = m :=
  Except.map_eq_ok_iff

theorem assign_eq_ok_iff {ν : Type} {slots : List (ParamSlot ν)} {nodeKind name : String} {value : ParamValue}
    {n : ν} : assign slots nodeKind name value = .ok n ↔
      ∃ slot, find? slots name = some slot ∧ slot.put value = .ok n := by
  rw [assign]
  split <;> simp [*]

theorem put_checkedText_eq_ok_iff {ν : Type} {name text : String} {put : String → Except String ν}
    {value : ParamValue} {n : ν} :
    (checkedText name text put).put value = .ok n ↔ ∃ v, value = .text v ∧ put v = .ok n := by
  cases value <;> simp [checkedText]

end ParamSlot

theorem ExpressionNode.checked_eq_ok_iff {n m : ExpressionNode} :
    n.checked = .ok m ↔ LocalPort.check [] (n.inputs ++ n.outputs) = .ok () ∧ n = m := by
  simp only [checked, Except.bind_unit_eq_ok_iff, Except.pure_eq_ok_iff]

namespace StandardNode

theorem exists_slot_of_applyParam {n m : StandardNode} {name : String} {value : ParamValue}
    (h : NodeModel.applyParam n name value = .ok m) :
    ∃ slot ∈ n.slots, slot.spec.name = name ∧ slot.put value = .ok m := by
  rw [NodeModel.applyParam, Except.bind_unit_eq_ok_iff] at h
  obtain ⟨slot, hFind, hPut⟩ := ParamSlot.assign_eq_ok_iff.mp h.2
  obtain ⟨hMem, hName⟩ := ParamSlot.find?_eq_some hFind
  exact ⟨slot, hMem, hName, hPut⟩

theorem isTerminal_of_applyParam {n m : StandardNode} {name : String} {value : ParamValue}
    (h : NodeModel.applyParam n name value = .ok m) : n.isTerminal = false := by
  obtain ⟨slot, hSlot, -⟩ := exists_slot_of_applyParam h
  cases n with
  | output => cases hSlot
  | _ => rfl

theorem isUser_of_put {n m : StandardNode} {slot : ParamSlot StandardNode} {value : ParamValue} (h : n.IsUsable)
    (hSlot : slot ∈ n.slots) (hPut : slot.put value = .ok m) : m.IsUser := by
  cases n with
  | output | formula => cases hSlot
  | expression n =>
    simp only [slots, ExpressionNode.slots, ParamSlot.text, List.map_cons, List.map_nil, List.mem_cons,
      List.not_mem_nil, or_false] at hSlot
    rcases hSlot with rfl | rfl | rfl
    · simp only [ParamSlot.put_map_eq_ok_iff, ParamSlot.put_checkedText_eq_ok_iff, Except.mapError_eq_ok_iff,
        ExpressionNode.setInputs, Except.bind_eq_ok_iff, ExpressionNode.checked_eq_ok_iff] at hPut
      obtain ⟨_, ⟨_, -, ports, -, hCheck, rfl⟩, rfl⟩ := hPut
      exact ⟨rfl, hCheck⟩
    · simp only [ParamSlot.put_map_eq_ok_iff, ParamSlot.put_checkedText_eq_ok_iff, Except.mapError_eq_ok_iff,
        ExpressionNode.setOutputs, Except.bind_eq_ok_iff, ExpressionNode.checked_eq_ok_iff] at hPut
      obtain ⟨_, ⟨_, -, ports, -, hCheck, rfl⟩, rfl⟩ := hPut
      exact ⟨rfl, hCheck⟩
    · simp only [ParamSlot.put_map_eq_ok_iff, ParamSlot.put_checkedText_eq_ok_iff, Except.ok.injEq] at hPut
      obtain ⟨_, ⟨_, -, rfl⟩, rfl⟩ := hPut
      exact ⟨rfl, h⟩
  | _ =>
    obtain ⟨inner, -, rfl⟩ := List.mem_map.mp hSlot
    obtain ⟨_, -, rfl⟩ := ParamSlot.put_map_eq_ok_iff.mp hPut
    exact ⟨rfl, trivial⟩

/-- Terminals have no parameters, and a parameter makes no terminal. -/
theorem isUser_applyParam {n m : StandardNode} {name : String} {value : ParamValue} (h : n.IsUsable)
    (hApply : NodeModel.applyParam n name value = .ok m) : m.IsUser := by
  obtain ⟨slot, hSlot, -, hPut⟩ := exists_slot_of_applyParam hApply
  exact isUser_of_put h hSlot hPut

/-- What hands on a sampler is a uniform, or reads one among the built-ins, which may be withheld. -/
theorem samplerName?_eq_some_cases {n : StandardNode} {ctx : EmitContext} {port : Nat} {name : String}
    (h : NodeModel.samplerName? n ctx port = some name) :
    (∃ u, n = .uniform u ∧ name = u.name) ∨
    ∃ i row, n = .input i ∧ i.builtin? = some row ∧ row.type.isSampler = true ∧
      name = if InputNode.isWithheld row ctx then "" else row.expression := by
  cases n with
  | input i =>
    obtain ⟨row, hRow, rfl⟩ := Option.map_eq_some_iff.mp h
    obtain ⟨hFind, hSampler⟩ := Option.filter_eq_some_iff.mp hRow
    exact .inr ⟨i, row, rfl, hFind, hSampler, rfl⟩
  | uniform u =>
    cases u with
    | value u => cases h
    | texture u =>
      obtain ⟨-, hSame⟩ := Option.ite_none_right_eq_some.mp h
      exact .inl ⟨_, rfl, (Option.some.inj hSame).symm⟩
    | cubeMap u =>
      obtain ⟨-, hSame⟩ := Option.ite_none_right_eq_some.mp h
      exact .inl ⟨_, rfl, (Option.some.inj hSame).symm⟩
  | _ => cases h

theorem isUser_of_mem_prototypes {n : StandardNode} (h : n ∈ prototypes) : n.IsUser := by
  simp only [prototypes, List.mem_append, List.mem_cons, List.mem_map, List.not_mem_nil, or_false] at h
  rcases h with (hFirst | ⟨f, -, rfl⟩) | hLast
  · repeat' rcases hFirst with rfl | hFirst
    all_goals exact ⟨rfl, by trivial⟩
  · exact ⟨rfl, trivial⟩
  · repeat' rcases hLast with rfl | hLast
    all_goals exact ⟨rfl, by trivial⟩

end StandardNode

end ShadeGraph
