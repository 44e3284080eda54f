import ShadeGraph.Proofs.Uniforms

/-!
# Which nodes contribute to a shader

Every node of a closure that is emitted contributes, also one that adds no code of its own. Nodes at file scope are in
no closure.
-/

namespace ShadeGraph

/-- A node where it is emitted. -/
abbrev Contributor := EmitContext × StandardNode

namespace Design

variable {d : Design StandardNode} {preview : Bool} {stage : Stage} {root : NodeId}

/-- The nodes of the closure of a root, in order; there are none if the closure is not emitted. -/
def closureNodes (d : Design StandardNode) (preview : Bool) (stage : Stage) (root : NodeId) : List Contributor :=
  match d.emit preview stage root, (d.graph stage).order root with
  | .ok _, .ok order => order.filterMap fun id =>
      (d.node? stage id).map fun n => (⟨d.mode, stage, id, preview⟩, n)
  | _, _ => []

/-- The nodes of the output closures of the stages that are emitted, in order. -/
def contributors (d : Design StandardNode) : List Contributor :=
  Stage.all.flatMap fun stage => d.closureNodes false stage .output

/-- A node that a shader may end in. -/
def IsRoot (d : Design StandardNode) (stage : Stage) (root : NodeId) : Prop :=
  ∃ n, d.node? stage root = some n ∧ NodeModel.isGlobal n = false

theorem Reachable.isRoot_output (h : d.Reachable) (stage : Stage) : d.IsRoot stage .output :=
  ⟨_, (h.intact.anchored stage).terminal, rfl⟩

theorem isRoot_of_outputType? {id : NodeId} {port : Nat} {type : PortType}
    (h : (d.graph stage).outputType? id port = some type) : d.IsRoot stage id := by
  obtain ⟨n, hNode, p, hPort, -⟩ := StageGraph.outputType?_eq_some_iff.mp h
  refine ⟨n, hNode, Bool.eq_false_iff.mpr fun hGlobal => ?_⟩
  rw [NodeModel.port?, NodeModel.ports, StandardNode.outputs_eq_nil_of_isGlobal hGlobal] at hPort
  cases hPort

theorem IsRoot.exists_emission {id : NodeId} (h : d.IsRoot stage id) {e? : Option Emission}
    (hEmits : d.Emits preview stage id e?) : ∃ e, e? = some e := by
  cases e? with
  | some e => exact ⟨e, rfl⟩
  | none =>
    obtain ⟨n, hNode, hGlobal⟩ := h
    obtain ⟨m, hSame, hIsGlobal⟩ := StageGraph.emitNode_eq_ok_none hEmits
    cases hNode.symm.trans hSame
    rw [hIsGlobal] at hGlobal
    cases hGlobal

/-- Whatever is in a closure is its root or is read. -/
theorem Reachable.eq_or_read_of_mem_order (h : d.Reachable) (hRoot : d.IsRoot stage root) {order : List NodeId}
    (hOrder : (d.graph stage).order root = .ok order) {id : NodeId} (hMem : id ∈ order) :
    id = root ∨ ∃ port type, (d.graph stage).outputType? id port = some type := by
  obtain ⟨n, hNode, -⟩ := hRoot
  obtain ⟨placed, hPlaced, -⟩ := StageGraph.node?_eq_some_iff.mp hNode
  have hContains : (d.graph stage).contains root = true := StageGraph.contains_iff.mpr ⟨placed, hPlaced⟩
  rcases (h.wired stage).order_cases hContains with ⟨order', hSame, hFeeds, -⟩ | ⟨⟨_, hCycle⟩, -⟩
  · cases hOrder.symm.trans hSame
    rcases Relation.ReflTransGen.cases_head ((hFeeds id).mp hMem) with rfl | ⟨_, ⟨e, hEdge, rfl, -⟩, -⟩
    · exact .inl rfl
    · obtain ⟨⟨type, hType⟩, -⟩ := StageGraph.inRange_iff.mp ((h.wired stage).inRange e hEdge)
      exact .inr ⟨e.output, type, hType⟩
  · cases hOrder.symm.trans hCycle

/-- So it is not at file scope. -/
theorem Reachable.isRoot_of_mem_order (h : d.Reachable) (hRoot : d.IsRoot stage root) {order : List NodeId}
    (hOrder : (d.graph stage).order root = .ok order) {id : NodeId} (hMem : id ∈ order) : d.IsRoot stage id := by
  rcases h.eq_or_read_of_mem_order hRoot hOrder hMem with rfl | ⟨port, type, hType⟩
  · exact hRoot
  · exact isRoot_of_outputType? hType

/-- What feeds an emitted node is emitted too. -/
theorem exists_emission_of_edge {emissions : List Emission} (hEmit : d.emit preview stage root = .ok emissions)
    {e : Emission} (hMem : e ∈ emissions) {c : Edge} (hEdge : c ∈ (d.graph stage).edges) (hTarget : c.target = e.id)
    (hSource : d.IsRoot stage c.source) : ∃ s ∈ emissions, d.Emits preview stage c.source (some s) := by
  obtain ⟨order, hOrder, all, hAll, rfl⟩ := emit_eq_ok_iff.mp hEmit
  obtain ⟨before, after, hSplit⟩ := List.append_of_mem hMem
  obtain ⟨first, rest, hPlace, -, hFirst⟩ := exists_order_of_emissions hAll hSplit
  obtain ⟨-, hBefore⟩ := StageGraph.order_sources_before hOrder (hTarget ▸ hPlace) hEdge
  obtain ⟨s?, hEmits, hEarlier⟩ := hFirst c.source hBefore
  obtain ⟨s, rfl⟩ := hSource.exists_emission hEmits
  refine ⟨s, ?_, hEmits⟩
  rw [hSplit]
  exact List.mem_append_left _ (hEarlier s rfl)

/-- Each node of a closure has an emission, and the emissions stand in the order of the nodes. -/
theorem Reachable.forall₂_closureNodes (h : d.Reachable) (hRoot : d.IsRoot stage root) (preview : Bool) :
    List.Forall₂ (fun (x : Contributor) (y : Site × Emission) => y.2.IsOf x.2 x.1)
      (d.closureNodes preview stage root) (placedEmissions stage (d.emit preview stage root)) := by
  cases hEmit : d.emit preview stage root with
  | error failure =>
    rw [closureNodes, hEmit]
    exact .nil
  | ok emissions =>
    obtain ⟨order, hOrder, all, hAll, rfl⟩ := emit_eq_ok_iff.mp hEmit
    have hRoots : ∀ id ∈ order, d.IsRoot stage id := fun id hMem => h.isRoot_of_mem_order hRoot hOrder hMem
    rw [closureNodes, hEmit, hOrder]
    clear hEmit hOrder
    induction hAll with
    | nil => exact .nil
    | @cons id e? _ _ hEmits _ ih =>
      obtain ⟨e, rfl⟩ := (hRoots id List.mem_cons_self).exists_emission hEmits
      obtain ⟨n, hNode, hOf⟩ := StageGraph.exists_node_of_emitNode hEmits
      simp only [List.filterMap_cons, node?, hNode, Option.map_some, placedEmissions, List.map_cons]
      exact .cons hOf (ih fun id hMem => hRoots id (List.mem_cons_of_mem _ hMem))

theorem mem_closureNodes_iff {x : Contributor} : x ∈ d.closureNodes preview stage root ↔
    ∃ emissions order, d.emit preview stage root = .ok emissions ∧ (d.graph stage).order root = .ok order ∧
      ∃ id ∈ order, ∃ n, d.node? stage id = some n ∧ (⟨d.mode, stage, id, preview⟩, n) = x := by
  rw [closureNodes]
  split
  · rename_i emissions order hEmit hOrder
    simp [hEmit, hOrder, List.mem_filterMap]
  · rename_i hFails
    constructor
    · intro hMem
      cases hMem
    · rintro ⟨emissions, order, hEmit, hOrder, -⟩
      exact (hFails emissions order hEmit hOrder).elim

theorem Reachable.isGlobal_of_mem_closureNodes (h : d.Reachable) (hRoot : d.IsRoot stage root) {x : Contributor}
    (hMem : x ∈ d.closureNodes preview stage root) : NodeModel.isGlobal x.2 = false := by
  obtain ⟨_, _, -, hOrder, id, hId, n, hNode, rfl⟩ := mem_closureNodes_iff.mp hMem
  obtain ⟨m, hSame, hGlobal⟩ := h.isRoot_of_mem_order hRoot hOrder hId
  cases hNode.symm.trans hSame
  exact hGlobal

/-- A node of a closure is emitted with operands. -/
theorem Reachable.exists_operands (h : d.Reachable) (hRoot : d.IsRoot stage root) {x : Contributor}
    (hMem : x ∈ d.closureNodes preview stage root) : ∃ placed operands,
      (d.graph stage).placed? x.1.id = some placed ∧ placed.node = x.2 ∧
        (d.graph stage).operands placed x.1 = .ok operands := by
  obtain ⟨emissions, order, hEmit, hOrder, id, hId, n, hNode, rfl⟩ := mem_closureNodes_iff.mp hMem
  obtain ⟨order', hSame, all, hAll, -⟩ := emit_eq_ok_iff.mp hEmit
  cases hOrder.symm.trans hSame
  obtain ⟨e?, hEmits⟩ := Except.exists_ok_of_mem_mapM (Except.mapM_eq_ok_iff.mpr hAll) hId
  obtain ⟨e, rfl⟩ := (h.isRoot_of_mem_order hRoot hOrder hId).exists_emission hEmits
  obtain ⟨-, placed, hPlaced, hOperands, -⟩ := StageGraph.emitNode_eq_ok_some hEmits
  obtain ⟨placed', hPlaced', rfl⟩ := StageGraph.node?_eq_some_iff.mp hNode
  cases hPlaced.symm.trans hPlaced'
  exact ⟨placed, e.operands, hPlaced, rfl, hOperands⟩

/-- What can be read off the emissions of a closure can be read off its nodes. -/
theorem Reachable.map_closureNodes {β : Type} {f : Contributor → β} {g : Site × Emission → β} (h : d.Reachable)
    (hRoot : d.IsRoot stage root) (hSame : ∀ x y, y.2.IsOf x.2 x.1 → f x = g y) (preview : Bool) :
    (d.closureNodes preview stage root).map f = (placedEmissions stage (d.emit preview stage root)).map g := by
  rw [← List.forall₂_eq_eq_eq, List.forall₂_map_left_iff, List.forall₂_map_right_iff]
  exact (h.forall₂_closureNodes hRoot preview).imp hSame

theorem Reachable.map_contributors {β : Type} {f : Contributor → β} {g : Site × Emission → β} (h : d.Reachable)
    (hSame : ∀ x y, y.2.IsOf x.2 x.1 → f x = g y) : d.contributors.map f = d.emitted.map g := by
  have hStage (stage : Stage) := h.map_closureNodes (h.isRoot_output stage) hSame false
  simp only [contributors, emitted, List.map_flatMap, hStage]

end Design

end ShadeGraph
