import ShadeGraph.Compile.Preview
import ShadeGraph.Proofs.Order
import ShadeGraph.Proofs.Text
import ShadeGraph.Proofs.Wiring

/-!
# Variables of the nodes that are emitted

Every output port has a variable of its own. A node reads those of the nodes that feed it, and these stand
before it in the order of emission.
-/

namespace ShadeGraph

/-! ## Names of variables -/

theorem toList_outputVariable (id : NodeId) (port : Nat) :
    (outputVariable id port).toList = 'n' :: (Nat.repr id.toNat).toList ++ '_' :: (Nat.repr port).toList := by
  simp [outputVariable, NodeId.text, String.toList_append]

section

variable {ν : Type} [NodeModel ν]

/-- What a node is told of its results. -/
def resultNames (id : NodeId) (n : ν) : List String :=
  (resultVariables id n).map fun v => (v.map LocalVariable.name).getD ""

theorem mem_locals_iff {id : NodeId} {n : ν} {v : LocalVariable} :
    v ∈ (resultVariables id n).filterMap (fun v => v) ↔
      ∃ port index, NodeModel.port? n .output index = some port ∧ port.type.isSampler = false ∧
        v = ⟨port.type, outputVariable id index⟩ := by
  simp only [resultVariables, List.mem_filterMap, List.mem_map, Prod.exists, List.mem_zipIdx_iff_getElem?]
  constructor
  · rintro ⟨_, ⟨port, index, hPort, rfl⟩, hSome⟩
    split at hSome
    · cases hSome
    · rename_i hValue
      cases hSome
      exact ⟨port, index, hPort, by simpa using hValue, rfl⟩
  · rintro ⟨port, index, hPort, hValue, rfl⟩
    exact ⟨_, ⟨port, index, hPort, rfl⟩, by simp [hValue]⟩

/-- What the node alone decides of its emission. -/
structure Emission.IsOf (e : Emission) (n : ν) (ctx : EmitContext) : Prop where
  isGlobal : NodeModel.isGlobal n = false
  kind : e.kind = NodeModel.kind n
  declarations : e.declarations = NodeModel.declarations n ctx
  helpers : e.helpers = NodeModel.helpers n ctx
  prologues : e.prologues = .ofFn (NodeModel.prologue n ctx)
  uniformName? : e.uniformName? = NodeModel.uniformName? n
  bindings : e.bindings = NodeModel.bindings n ctx
  warnings : e.warnings = nodeWarnings n ctx

namespace StageGraph

theorem emitNode_eq_ok_some {g : StageGraph ν} {ctx : EmitContext} {e : Emission}
    (h : g.emitNode ctx = .ok (some e)) :
    e.id = ctx.id ∧ ∃ placed, g.placed? ctx.id = some placed ∧ g.operands placed ctx = .ok e.operands ∧
      e.locals = (resultVariables ctx.id placed.node).filterMap (fun v => v) ∧
      NodeModel.body placed.node ctx (e.operands.map Operand.text) (resultNames ctx.id placed.node) = .ok e.code := by
  rw [emitNode] at h
  split at h
  · cases h
  · rename_i placed hPlaced
    simp only [Except.throw_bind, Except.ite_throw_eq_ok_iff] at h
    obtain ⟨-, h⟩ := h
    split at h
    · cases h
    · simp only [Except.bind_eq_ok_iff, Except.mapError_eq_ok_iff, Except.pure_eq_ok_iff] at h
      obtain ⟨operands, hOperands, code, hBody, hEmission⟩ := h
      cases hEmission
      exact ⟨rfl, placed, hPlaced, hOperands, rfl, hBody⟩

theorem exists_node_of_emitNode {g : StageGraph ν} {ctx : EmitContext} {e : Emission}
    (h : g.emitNode ctx = .ok (some e)) : ∃ n, g.node? ctx.id = some n ∧ e.IsOf n ctx := by
  rw [emitNode] at h
  split at h
  · cases h
  · rename_i placed hPlaced
    simp only [Except.throw_bind, Except.ite_throw_eq_ok_iff] at h
    obtain ⟨-, h⟩ := h
    split at h
    · cases h
    · rename_i hGlobal
      simp only [Except.bind_eq_ok_iff, Except.pure_eq_ok_iff] at h
      obtain ⟨operands, -, code, -, hEmission⟩ := h
      cases hEmission
      exact ⟨placed.node, by rw [node?, hPlaced]; rfl, Bool.not_eq_true _ ▸ hGlobal, rfl, rfl, rfl, rfl, rfl, rfl, rfl⟩

/-- Only nodes at file scope are emitted as nothing. -/
theorem emitNode_eq_ok_none {g : StageGraph ν} {ctx : EmitContext} (h : g.emitNode ctx = .ok none) :
    ∃ n, g.node? ctx.id = some n ∧ NodeModel.isGlobal n = true := by
  rw [emitNode] at h
  split at h
  · cases h
  · rename_i placed hPlaced
    simp only [Except.throw_bind, Except.ite_throw_eq_ok_iff] at h
    obtain ⟨-, h⟩ := h
    split at h
    · rename_i hGlobal
      exact ⟨placed.node, by rw [node?, hPlaced]; rfl, hGlobal⟩
    · simp only [Except.bind_eq_ok_iff, Except.pure_eq_ok_iff] at h
      obtain ⟨_, -, _, -, hSome⟩ := h
      cases hSome

theorem operands_getElem? {g : StageGraph ν} {n : PlacedNode ν} {ctx : EmitContext} {operands : List Operand}
    (h : g.operands n ctx = .ok operands) {index : Nat} {port : Port}
    (hPort : NodeModel.port? n.node .input index = some port) :
    ∃ operand, operands[index]? = some operand ∧ g.operandAt n ctx index port = .ok operand := by
  have hForall := Except.mapM_eq_ok_iff.mp h
  rw [NodeModel.port?, NodeModel.ports] at hPort
  obtain ⟨hIndex, rfl⟩ := List.getElem?_eq_some_iff.mp hPort
  have hLength : index < operands.length := by
    rw [← hForall.length_eq, List.length_zipIdx]
    exact hIndex
  refine ⟨operands[index], List.getElem?_eq_getElem hLength, ?_⟩
  have hAt := hForall.get (by rw [List.length_zipIdx]; exact hIndex) hLength
  simpa using hAt

/-- An edge that is read hands on its variable, spread over a vector where the types ask for it. -/
theorem wired_eq_ok {g : StageGraph ν} {ctx : EmitContext} {port : Port} {e : Edge} {operand : Operand}
    {type : PortType} (h : g.wired ctx port e = .ok operand) (hType : g.outputType? e.source e.output = some type)
    (hPort : port.type.isSampler = false) :
    type.isSampler = false ∧ operand = .wire e (type = .scalar && port.type = .vector3) := by
  obtain ⟨source, hSource, -⟩ := outputType?_eq_some_iff.mp hType
  simp only [wired, hSource, hType] at h
  split at h
  · cases h
  · rename_i hAccepts
    have hValue : type.isSampler = false := by
      simp only [Port.accepts, Bool.not_eq_true', Bool.not_eq_false, Bool.and_eq_true, Bool.or_eq_true,
        decide_eq_true_eq] at hAccepts
      rcases hAccepts.2 with hSame | hScalar
      · exact hSame ▸ hPort
      · exact hScalar.2 ▸ rfl
    rw [hValue] at h
    cases h
    exact ⟨hValue, rfl⟩

end StageGraph

/-! ## Emissions of closures -/

def Design.Emits (d : Design ν) (preview : Bool) (stage : Stage) (id : NodeId) (e? : Option Emission) : Prop :=
  (d.graph stage).emitNode ⟨d.mode, stage, id, preview⟩ = .ok e?

theorem Design.emit_eq_ok_iff {d : Design ν} {preview : Bool} {stage : Stage} {root : NodeId}
    {emissions : List Emission} : d.emit preview stage root = .ok emissions ↔
      ∃ order, (d.graph stage).order root = .ok order ∧
        ∃ all, List.Forall₂ (d.Emits preview stage) order all ∧ all.filterMap (fun e => e) = emissions := by
  simp only [emit, Except.bind_eq_ok_iff, Except.mapError_eq_ok_iff, Except.mapM_eq_ok_iff, Except.pure_eq_ok_iff]
  rfl

theorem Design.Emits.id_eq {d : Design ν} {preview : Bool} {stage : Stage} {id : NodeId} {e : Emission}
    (h : d.Emits preview stage id (some e)) : e.id = id :=
  (StageGraph.emitNode_eq_ok_some h).1

theorem ids_sublist_order {d : Design ν} {preview : Bool} {stage : Stage} {order : List NodeId}
    {all : List (Option Emission)} (h : List.Forall₂ (d.Emits preview stage) order all) :
    ((all.filterMap fun e => e).map Emission.id).Sublist order := by
  induction h with
  | nil => exact List.Sublist.refl _
  | @cons id e? _ _ hEmits _ ih =>
    cases e? with
    | none => exact ih.cons id
    | some e =>
      simp only [List.filterMap_cons, List.map_cons, hEmits.id_eq]
      exact ih.cons_cons id

/-- Where an emission stands among the others, its node stands among theirs. -/
theorem exists_order_of_emissions {d : Design ν} {preview : Bool} {stage : Stage} {order : List NodeId}
    {all : List (Option Emission)} (h : List.Forall₂ (d.Emits preview stage) order all)
    {before after : List Emission} {e : Emission} (hAll : all.filterMap (fun e => e) = before ++ e :: after) :
    ∃ first rest, order = first ++ e.id :: rest ∧ d.Emits preview stage e.id (some e) ∧
      ∀ id ∈ first, ∃ s?, d.Emits preview stage id s? ∧ ∀ s, s? = some s → s ∈ before := by
  induction h generalizing before with
  | nil => simp at hAll
  | @cons id s? ids _ hEmits _ ih =>
    cases s? with
    -- a node at file scope takes a place in the order but none among the emissions
    | none =>
      obtain ⟨first, rest, hOrder, hEmission, hFirst⟩ := ih hAll
      refine ⟨id :: first, rest, by rw [hOrder, List.cons_append], hEmission, ?_⟩
      rintro x (_ | hMem)
      · exact ⟨none, hEmits, fun s hSome => by cases hSome⟩
      · exact hFirst x (by assumption)
    | some s =>
      rw [List.filterMap_cons] at hAll
      cases before with
      | nil =>
        obtain ⟨rfl, -⟩ := List.cons.inj hAll
        have hSame := hEmits.id_eq
        exact ⟨[], ids, by rw [hSame, List.nil_append], hSame ▸ hEmits, by simp⟩
      | cons t before =>
        obtain ⟨rfl, hTail⟩ := List.cons.inj hAll
        obtain ⟨first, rest, hOrder, hEmission, hFirst⟩ := ih hTail
        refine ⟨id :: first, rest, by rw [hOrder, List.cons_append], hEmission, ?_⟩
        intro x hMem
        rcases List.mem_cons.mp hMem with rfl | hMem
        · exact ⟨some s, hEmits, fun s' hSome => by cases hSome; exact List.mem_cons_self⟩
        · obtain ⟨s?, hHere, hSome⟩ := hFirst x hMem
          exact ⟨s?, hHere, fun s' hEq => List.mem_cons_of_mem s (hSome s' hEq)⟩

theorem Design.emits_of_mem {d : Design ν} {preview : Bool} {stage : Stage} {root : NodeId} {emissions : List Emission}
    (h : d.emit preview stage root = .ok emissions) {e : Emission} (hMem : e ∈ emissions) :
    d.Emits preview stage e.id (some e) := by
  obtain ⟨order, -, all, hAll, rfl⟩ := Design.emit_eq_ok_iff.mp h
  obtain ⟨before, after, hSplit⟩ := List.append_of_mem hMem
  obtain ⟨_, _, -, hEmits, -⟩ := exists_order_of_emissions hAll hSplit
  exact hEmits

end

/-- A node with a port to read is emitted with the variable of that port. -/
theorem Design.Emits.mem_locals {d : Design StandardNode} {preview : Bool} {stage : Stage} {id : NodeId} {port : Nat}
    {type : PortType} {e? : Option Emission} (h : d.Emits preview stage id e?)
    (hType : (d.graph stage).outputType? id port = some type) (hValue : type.isSampler = false) :
    ∃ e, e? = some e ∧ e.id = id ∧ ⟨type, outputVariable id port⟩ ∈ e.locals := by
  obtain ⟨n, hNode, p, hPort, rfl⟩ := StageGraph.outputType?_eq_some_iff.mp hType
  cases e? with
  | none =>
    obtain ⟨m, hSame, hGlobal⟩ := StageGraph.emitNode_eq_ok_none h
    cases hNode.symm.trans hSame
    rw [NodeModel.port?, NodeModel.ports, StandardNode.outputs_eq_nil_of_isGlobal hGlobal] at hPort
    cases hPort
  | some e =>
    obtain ⟨hId, placed, hPlaced, -, hLocals, -⟩ := StageGraph.emitNode_eq_ok_some h
    obtain ⟨placed', hSame, rfl⟩ := StageGraph.node?_eq_some_iff.mp hNode
    cases hPlaced.symm.trans hSame
    refine ⟨e, rfl, hId, ?_⟩
    rw [hLocals]
    exact mem_locals_iff.mpr ⟨p, port, hPort, hValue, rfl⟩

section

variable {d : Design StandardNode} {preview : Bool} {stage : Stage} {root : NodeId} {before after : List Emission}
  {e : Emission} (hEmit : d.emit preview stage root = .ok (before ++ e :: after)) {c : Edge}
  (hEdge : c ∈ (d.graph stage).edges) (hTarget : c.target = e.id)

include hEmit hEdge hTarget

/-- The variable at the source of an edge into a node is declared before the node. -/
theorem Design.exists_local_of_edge {type : PortType}
    (hType : (d.graph stage).outputType? c.source c.output = some type) (hValue : type.isSampler = false) :
    ∃ s ∈ before, s.id = c.source ∧ ⟨type, outputVariable c.source c.output⟩ ∈ s.locals := by
  obtain ⟨order, hOrder, all, hAll, hSplit⟩ := Design.emit_eq_ok_iff.mp hEmit
  obtain ⟨first, rest, hPlace, -, hFirst⟩ := exists_order_of_emissions hAll hSplit
  obtain ⟨-, hBefore⟩ := StageGraph.order_sources_before hOrder (hTarget ▸ hPlace) hEdge
  obtain ⟨s?, hEmits, hMem⟩ := hFirst c.source hBefore
  obtain ⟨s, rfl, hId, hLocal⟩ := hEmits.mem_locals hType hValue
  exact ⟨s, hMem s rfl, hId, hLocal⟩

end

end ShadeGraph
