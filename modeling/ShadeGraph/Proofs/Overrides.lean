import ShadeGraph.Proofs.Diagnosis
import ShadeGraph.Proofs.RoundTrip

/-!
# Overrides and the types of their ports

An override is checked against its port when it is set. Parameters that change the ports of a node drop what does not
fit any more, but a change of the mode, which changes the ports of the terminals, does not.
-/

namespace ShadeGraph

/-- Every override is for an input of the node, is of its type and has finite numbers only. -/
def PlacedNode.OverridesFit (n : PlacedNode StandardNode) : Prop :=
  ∀ port value, n.overrides.get? port = some value →
    NodeModel.portType? n.node .input port = some value.type ∧ ∀ x ∈ value.numbers, x.isFinite = true

theorem PlacedNode.isStable_overridesFit : IsStable OverridesFit where
  fresh _ _ port value hGet := by cases hGet
  move _ _ h := h
  prune n node h port value hGet := by
    rw [prune, Table.get?_filter, Option.filter_eq_some_iff, decide_eq_true_eq] at hGet
    exact ⟨hGet.2, (h port value hGet.1).2⟩
  insert n port value h hType hLiteral port' value' hGet := by
    rw [Table.get?_insert] at hGet
    split at hGet
    · rename_i hPort
      subst hPort
      cases hGet
      exact ⟨hType, PortValue.exists_literal_iff.mp hLiteral⟩
    · exact h port' value' hGet
  erase n port h port' value' hGet := by
    rw [Table.get?_erase] at hGet
    split at hGet
    · cases hGet
    · exact h port' value' hGet

namespace Design

variable {d d' : Design StandardNode}

def OverridesFit (d : Design StandardNode) : Prop := d.All PlacedNode.OverridesFit

/-- The overrides of the terminals are of the types that the terminals of a mode have there. -/
def TerminalsFit (d : Design StandardNode) (mode : Mode) : Prop :=
  ∀ stage id n, d.placed? stage id = some n → n.node.isTerminal = true →
    ∀ port value, n.overrides.get? port = some value →
      NodeModel.portType? (StandardNode.output ⟨mode, stage⟩) .input port = some value.type

instance (mode : Mode) : Decidable (d.TerminalsFit mode) :=
  decidable_of_iff (∀ x ∈ Stage.all.flatMap d.sites, x.2.node.isTerminal = true → ∀ y ∈ x.2.overrides.entries,
      NodeModel.portType? (StandardNode.output ⟨mode, x.1.stage⟩) .input y.1 = some y.2.type) <| by
    constructor
    · intro h stage id n hPlaced hTerminal port value hGet
      exact h (⟨stage, id⟩, n) (mem_sites_iff.mpr hPlaced) hTerminal (port, value) (Table.get?_eq_some_iff.mp hGet)
    · intro h x hMem hTerminal y hEntry
      exact h _ _ _ (mem_sites_iff.mp hMem) hTerminal y.1 y.2 (Table.get?_eq_some_iff.mpr hEntry)

/-! ## Edits -/

/-- Only at terminals can an override be of another type than its port. -/
theorem Reachable.overridesFit_iff (h : d.Reachable) : d.OverridesFit ↔ d.TerminalsFit d.mode := by
  have hRegular := h.nodesRegular
  constructor
  · intro hFit stage id n hPlaced hTerminal port value hGet
    rw [← hRegular.eq_output hPlaced hTerminal]
    exact (hFit stage id n hPlaced port value hGet).1
  · intro hFit stage id n hPlaced port value hGet
    refine ⟨?_, PortValue.exists_literal_iff.mp (h.encodes stage id n hPlaced port value hGet)⟩
    cases hTerminal : n.node.isTerminal with
    | false => exact hRegular.portType?_of_override hPlaced hTerminal hGet
    | true =>
      rw [hRegular.eq_output hPlaced hTerminal]
      exact hFit stage id n hPlaced hTerminal port value hGet

theorem terminalsFit_setMode (d : Design StandardNode) (mode : Mode) :
    (d.setMode mode).TerminalsFit mode ↔ d.TerminalsFit mode := by
  by_cases hSame : mode = d.mode
  · rw [setMode, if_pos hSame]
  · constructor
    · intro h stage id n hPlaced hTerminal port value hGet
      refine h stage id { n with node := NodeModel.bind mode stage n.node } ?_ ?_ port value hGet
      · rw [placed?_setMode hSame, hPlaced]
        rfl
      · rw [StandardNode.isTerminal_bind, hTerminal]
    · intro h stage id n hPlaced hTerminal port value hGet
      rw [placed?_setMode hSame, Option.map_eq_some_iff] at hPlaced
      obtain ⟨old, hOld, rfl⟩ := hPlaced
      rw [StandardNode.isTerminal_bind] at hTerminal
      exact h stage id old hOld hTerminal port value hGet

/-- The one edit that can leave an override that does not fit is a change of the mode. -/
theorem Reachable.overridesFit_apply_iff (h : d.Reachable) (hFit : d.OverridesFit) {edit : Edit StandardNode}
    (hEdit : edit.IsWellFormed) (hApply : edit.apply d = .ok d') :
    d'.OverridesFit ↔ ∀ mode, edit = .setMode mode → d.TerminalsFit mode := by
  by_cases hMode : ∃ mode, edit = .setMode mode
  · obtain ⟨mode, rfl⟩ := hMode
    have hChanged : d'.mode = mode := by
      cases hApply
      rw [setMode]
      split
      · exact Eq.symm (by assumption)
      · rfl
    rw [(Reachable.edit _ hEdit h hApply).overridesFit_iff, hChanged]
    cases hApply
    rw [terminalsFit_setMode]
    constructor
    · rintro hTerminals _ ⟨⟩
      exact hTerminals
    · exact fun hTerminals => hTerminals mode rfl
  · have hOther (mode : Mode) : edit ≠ .setMode mode := fun hEdit => hMode ⟨mode, hEdit⟩
    constructor
    · exact fun _ mode hEdit => absurd hEdit (hOther mode)
    · exact fun _ => All.apply PlacedNode.isStable_overridesFit hFit hOther hApply

theorem overridesFit_of_load {text : String} (h : load Command.registry text = .ok d) : d.OverridesFit := by
  refine (Reachable.load text h).overridesFit_iff.mpr ?_
  intro stage id n hPlaced hTerminal port value hGet
  have hStorable := isStorable_of_load h
  cases hStorable.outputs stage id n hPlaced hTerminal
  rw [hStorable.terminal stage n hPlaced] at hGet
  cases hGet

end Design

/-! ## Literals -/

namespace StageGraph

variable {g : StageGraph StandardNode} {n : PlacedNode StandardNode} {ctx : EmitContext}

theorem wired_ne_literal {port : Port} {e : Edge} {text : String} : g.wired ctx port e ≠ .ok (.literal text) := by
  rw [wired]
  repeat' split
  all_goals simp

/-- A literal is handed over for a default only. -/
theorem exists_default_of_literal {index : Nat} {port : Port} {text : String}
    (h : g.operandAt n ctx index port = .ok (.literal text)) :
    ∃ value, n.default? index = some value ∧ value.literal = .ok text := by
  rw [operandAt] at h
  split at h
  · exact absurd h wired_ne_literal
  · rw [unwired] at h
    split at h
    · cases h
    · split at h
      · cases h
      · rename_i value hDefault
        simp only [Except.mapError_eq_ok_iff, Except.map_eq_ok_iff, Operand.literal.injEq] at h
        obtain ⟨_, hLiteral, rfl⟩ := h
        exact ⟨value, hDefault, hLiteral⟩

end StageGraph

theorem PlacedNode.OverridesFit.portType?_eq {n : PlacedNode StandardNode} (h : n.OverridesFit) {port : Nat}
    {value : PortValue} (hDefault : n.default? port = some value) :
    NodeModel.portType? n.node .input port = some value.type := by
  rcases Option.or_eq_some_iff.mp hDefault with hOverride | ⟨-, hPort⟩
  · exact (h port value hOverride).1
  · exact (of_inputDefault? hPort).1

namespace Design

variable {d : Design StandardNode}

theorem OverridesFit.exists_typed_literal (h : d.OverridesFit) {preview : Bool} {stage : Stage} {root : NodeId}
    {emissions : List Emission} (hEmit : d.emit preview stage root = .ok emissions) {e : Emission}
    (hMem : e ∈ emissions) {index : Nat} {text : String} (hOperand : e.operands[index]? = some (.literal text)) :
    ∃ port, ∃ value : PortValue, (d.graph stage).inputPort? e.id index = some port ∧ value.type = port.type ∧
      value.literal = .ok text := by
  obtain ⟨-, placed, hPlaced, hOperands, -⟩ := StageGraph.emitNode_eq_ok_some (emits_of_mem hEmit hMem)
  have hIndex : index < (NodeModel.inputs placed.node).length := by
    rw [← StageGraph.length_operands hOperands]
    exact (List.getElem?_eq_some_iff.mp hOperand).1
  obtain ⟨port, hPort⟩ : ∃ port, NodeModel.port? placed.node .input index = some port :=
    ⟨_, List.getElem?_eq_getElem hIndex⟩
  obtain ⟨operand, hSame, hAt⟩ := StageGraph.operands_getElem? hOperands hPort
  cases hOperand.symm.trans hSame
  obtain ⟨value, hDefault, hLiteral⟩ := StageGraph.exists_default_of_literal hAt
  have hType := (h stage e.id placed hPlaced).portType?_eq hDefault
  rw [NodeModel.portType?, hPort, Option.map_some, Option.some.injEq] at hType
  refine ⟨port, value, ?_, hType.symm, hLiteral⟩
  exact StageGraph.inputPort?_eq_some_iff.mpr
    ⟨placed.node, StageGraph.node?_eq_some_iff.mpr ⟨placed, hPlaced, rfl⟩, hPort⟩

/-- Overrides have finite numbers only, and away from the terminals they are of the types of their ports. All of them
fit exactly if those of the terminals fit the terminals of the mode. Of all edits only a change of the mode can end
this, namely to a mode whose terminals differ there, and every loaded design has it. While it holds, what is handed
over for an input that nothing feeds is a literal of the input's type. -/
theorem overrides_fit_but_for_mode (hReachable : d.Reachable) :
    (∀ stage id n, d.placed? stage id = some n → ∀ port value, n.overrides.get? port = some value →
      (∀ x ∈ value.numbers, x.isFinite = true) ∧
        (n.node.isTerminal = false → NodeModel.portType? n.node .input port = some value.type)) ∧
    (d.OverridesFit ↔ d.TerminalsFit d.mode) ∧
    (∀ (edit : Edit StandardNode) (d' : Design StandardNode), edit.IsWellFormed → edit.apply d = .ok d' →
      d.OverridesFit → (d'.OverridesFit ↔ ∀ mode, edit = .setMode mode → d.TerminalsFit mode)) ∧
    (∀ (text : String) (d' : Design StandardNode), load Command.registry text = .ok d' → d'.OverridesFit) ∧
    (d.OverridesFit → ∀ preview stage root emissions, d.emit preview stage root = .ok emissions →
      ∀ e ∈ emissions, ∀ index text, e.operands[index]? = some (.literal text) →
        ∃ port, ∃ value : PortValue, (d.graph stage).inputPort? e.id index = some port ∧ value.type = port.type ∧
          value.literal = .ok text) := by
  refine ⟨?_, hReachable.overridesFit_iff, ?_, fun _ _ => overridesFit_of_load, ?_⟩
  · intro stage id n hPlaced port value hGet
    refine ⟨PortValue.exists_literal_iff.mp (hReachable.encodes stage id n hPlaced port value hGet), ?_⟩
    intro hUser
    exact hReachable.nodesRegular.portType?_of_override hPlaced hUser hGet
  · intro edit d' hEdit hApply hFit
    exact hReachable.overridesFit_apply_iff hFit hEdit hApply
  · intro hFit preview stage root emissions hEmit e hMem index text hOperand
    exact hFit.exists_typed_literal hEmit hMem hOperand

/-- The third input of the terminal is overridden. -/
def dimmed : Design StandardNode :=
  (empty .spatial).edited [.setDefault .fragment .output 2 (.scalar .half)]

theorem reachable_dimmed : dimmed.Reachable := .edited (.new .spatial) (by decide)

theorem overrides_fit_but_for_mode_dimmed :
    dimmed.Reachable ∧ dimmed.OverridesFit ∧ (dimmed.scroll .origin).OverridesFit ∧
      ¬(dimmed.setMode .particles).OverridesFit ∧ (∃ d', load Command.registry "" = .ok d' ∧ d'.OverridesFit) ∧
      ∃ e port, ∃ value : PortValue, dimmed.emit false .fragment .output = .ok [e] ∧
        e.operands[2]? = some (.literal "0.500000") ∧ (dimmed.graph .fragment).inputPort? e.id 2 = some port ∧
        value.type = port.type ∧ value.literal = .ok "0.500000" := by
  obtain ⟨-, hIff, hEdit, hLoad, hLiteral⟩ := overrides_fit_but_for_mode reachable_dimmed
  have hTerminals : dimmed.TerminalsFit .spatial := by decide +kernel
  have hOther : ¬dimmed.TerminalsFit .particles := by decide +kernel
  have hFit : dimmed.OverridesFit := hIff.mpr hTerminals
  have hOperands : (dimmed.emit false .fragment .output).map (·.map fun e => e.operands[2]?) =
      .ok [some (.literal "0.500000")] := by decide +kernel
  obtain ⟨emissions, hEmit, hMap⟩ := Except.map_eq_ok_iff.mp hOperands
  obtain ⟨e, rfl, hOperand⟩ := List.map_eq_singleton_iff.mp hMap
  obtain ⟨port, value, hTyped⟩ := hLiteral hFit false .fragment .output [e] hEmit e List.mem_cons_self 2 _ hOperand
  refine ⟨reachable_dimmed, hFit, ?_, ?_, ⟨_, rfl, hLoad "" _ rfl⟩, e, port, value, hEmit, hOperand, hTyped⟩
  · exact (hEdit (.scroll .origin) _ trivial rfl hFit).mpr (by simp)
  · exact fun hAfter => hOther ((hEdit (.setMode .particles) _ trivial rfl hFit).mp hAfter .particles rfl)

/-- In the other mode the input is a vector. The override stays and is written as it was, and nothing is reported. -/
theorem override_of_other_type_after_mode :
    (dimmed.setMode .canvas).Reachable ∧ ¬(dimmed.setMode .canvas).OverridesFit ∧
      (dimmed.setMode .canvas).compile.diagnostics = [] ∧
      ∃ e port, (dimmed.setMode .canvas).emit false .fragment .output = .ok [e] ∧
        e.operands[2]? = some (.literal "0.500000") ∧
        ((dimmed.setMode .canvas).graph .fragment).inputPort? .output 2 = some port ∧ port.type = .vector3 := by
  have hReachable : (dimmed.setMode .canvas).Reachable := .edit (.setMode .canvas) trivial reachable_dimmed rfl
  have hTerminals : ¬(dimmed.setMode .canvas).TerminalsFit .canvas := by decide +kernel
  have hOperands : ((dimmed.setMode .canvas).emit false .fragment .output).map (·.map fun e => e.operands[2]?) =
      .ok [some (.literal "0.500000")] := by decide +kernel
  have hPort : (((dimmed.setMode .canvas).graph .fragment).inputPort? .output 2).map Port.type = some .vector3 := by
    decide +kernel
  obtain ⟨emissions, hEmit, hMap⟩ := Except.map_eq_ok_iff.mp hOperands
  obtain ⟨e, rfl, hOperand⟩ := List.map_eq_singleton_iff.mp hMap
  obtain ⟨port, hInput, hType⟩ := Option.map_eq_some_iff.mp hPort
  refine ⟨hReachable, ?_, by decide +kernel, e, port, hEmit, hOperand, hInput, hType⟩
  rw [hReachable.overridesFit_iff]
  exact hTerminals

end Design

end ShadeGraph
