import ShadeGraph.Compile.Preview
import ShadeGraph.Proofs.Placement

/-!
# What a shader is made from

A stage is emitted from the nodes that lead to its root, their overrides and the edges into them. Besides, a shader
holds the global nodes of every stage. Designs that agree on all that have the same shader, whatever else they hold.
-/

namespace ShadeGraph

variable {ν : Type} [NodeModel ν]

namespace StageGraph

/-- What leads to a root has the same nodes, overrides and edges in both graphs, in whatever order. -/
structure SameClosure (g h : StageGraph ν) (root : NodeId) : Prop where
  wired : g.Wired
  wired' : h.Wired
  placed : ∀ id, Relation.ReflTransGen (Joined g.edges) id root →
    (h.placed? id).map (fun n => (n.node, n.overrides.get?)) =
      (g.placed? id).map fun n => (n.node, n.overrides.get?)
  edges : ∀ e, Relation.ReflTransGen (Joined g.edges) e.target root → (e ∈ h.edges ↔ e ∈ g.edges)

namespace SameClosure

variable {g h : StageGraph ν} {root id : NodeId}

theorem refl (hWired : g.Wired) : g.SameClosure g root :=
  ⟨hWired, hWired, fun _ _ => rfl, fun _ _ => Iff.rfl⟩

theorem placed?_cases (hSame : g.SameClosure h root) (hLive : Relation.ReflTransGen (Joined g.edges) id root) :
    (g.placed? id = none ∧ h.placed? id = none) ∨
      ∃ n m, g.placed? id = some n ∧ h.placed? id = some m ∧ m.node = n.node ∧ m.overrides.get? = n.overrides.get? := by
  have hPlaced := hSame.placed id hLive
  cases hG : g.placed? id with
  | none =>
    rw [hG, Option.map_none, Option.map_eq_none_iff] at hPlaced
    exact .inl ⟨rfl, hPlaced⟩
  | some n =>
    rw [hG, Option.map_some, Option.map_eq_some_iff] at hPlaced
    obtain ⟨m, hH, hPair⟩ := hPlaced
    obtain ⟨hNode, hOverrides⟩ := Prod.mk.inj hPair
    exact .inr ⟨n, m, rfl, hH, hNode, hOverrides⟩

theorem node?_eq (hSame : g.SameClosure h root) (hLive : Relation.ReflTransGen (Joined g.edges) id root) :
    h.node? id = g.node? id := by
  rcases hSame.placed?_cases hLive with ⟨hG, hH⟩ | ⟨n, m, hG, hH, hNode, -⟩
  · rw [node?, node?, hG, hH]
  · rw [node?, node?, hG, hH, Option.map_some, Option.map_some, hNode]

theorem contains_eq (hSame : g.SameClosure h root) (hLive : Relation.ReflTransGen (Joined g.edges) id root) :
    h.contains id = g.contains id := by
  rw [Bool.eq_iff_iff, contains_iff, contains_iff]
  rcases hSame.placed?_cases hLive with ⟨hG, hH⟩ | ⟨n, m, hG, hH, -⟩
  · rw [hG, hH]
  · simp [hG, hH]

theorem order_eq (hSame : g.SameClosure h root) : h.order root = g.order root :=
  hSame.wired.order_congr hSame.wired' (hSame.contains_eq .refl) hSame.edges

theorem reading?_eq (hSame : g.SameClosure h root) (hLive : Relation.ReflTransGen (Joined g.edges) id root)
    (port : Nat) : h.reading? id port = g.reading? id port := by
  apply Option.ext
  intro e
  rw [hSame.wired'.reading?_eq_some_iff, hSame.wired.reading?_eq_some_iff]
  refine and_congr_left fun hInput => hSame.edges e ?_
  rw [hInput.1]
  exact hLive

/-- The source of an edge into the closure is in the closure. -/
theorem operandAt_eq (hSame : g.SameClosure h root) {ctx : EmitContext}
    (hLive : Relation.ReflTransGen (Joined g.edges) ctx.id root) {n m : PlacedNode ν} (hNode : m.node = n.node)
    (hOverrides : m.overrides.get? = n.overrides.get?) (index : Nat) (port : Port) :
    h.operandAt m ctx index port = g.operandAt n ctx index port := by
  rw [operandAt, operandAt, hSame.reading?_eq hLive]
  split
  · rename_i e hReading
    obtain ⟨hEdge, hTarget, -⟩ := hSame.wired.reading?_eq_some_iff.mp hReading
    have hSource : h.node? e.source = g.node? e.source := hSame.node?_eq (.head ⟨e, hEdge, rfl, hTarget⟩ hLive)
    simp only [StageGraph.wired, outputType?, hSource]
  · simp only [unwired, PlacedNode.default?, hNode, hOverrides]

theorem emitNode_eq (hSame : g.SameClosure h root) {ctx : EmitContext}
    (hLive : Relation.ReflTransGen (Joined g.edges) ctx.id root) : h.emitNode ctx = g.emitNode ctx := by
  rcases hSame.placed?_cases hLive with ⟨hG, hH⟩ | ⟨n, m, hG, hH, hNode, hOverrides⟩
  · rw [emitNode, emitNode, hG, hH]
  · simp only [emitNode, operands, hG, hH, hNode, hSame.operandAt_eq hLive hNode hOverrides]

end SameClosure

end StageGraph

namespace Design

variable {d e : Design ν}

theorem emit_congr (hMode : e.mode = d.mode) {stage : Stage} {root : NodeId}
    (hClosure : (d.graph stage).SameClosure (e.graph stage) root) (preview : Bool) :
    e.emit preview stage root = d.emit preview stage root := by
  rw [emit, emit, hClosure.order_eq, hMode]
  cases hOrder : (d.graph stage).order root with
  | error cause => rfl
  | ok order =>
    have hNode : ∀ id ∈ order, (e.graph stage).emitNode ⟨d.mode, stage, id, preview⟩ =
        (d.graph stage).emitNode ⟨d.mode, stage, id, preview⟩ := by
      intro id hMem
      have hClosed := (StageGraph.perm_order hOrder).mem_iff.mp hMem
      exact hClosure.emitNode_eq (hClosure.wired.mem_ancestry_iff.mp hClosed).2
    rw [Except.mapError, Except.ok_bind, Except.ok_bind, Except.mapM_congr hNode]

/-! ## Global nodes -/

theorem mem_globalNodes_iff {d : Design ν} {stage : Stage} {id : NodeId} {n : ν} :
    (id, n) ∈ d.globalNodes stage ↔ (d.graph stage).node? id = some n ∧ NodeModel.isGlobal n = true := by
  rw [globalNodes, List.mem_mergeSort, List.mem_filter, StageGraph.node?_eq_some_iff]
  refine and_congr_left fun _ => ?_
  constructor
  · intro hMem
    obtain ⟨⟨_, placed⟩, hEntry, hPair⟩ := List.mem_map.mp hMem
    cases hPair
    exact ⟨placed, Table.get?_eq_some_iff.mpr hEntry, rfl⟩
  · rintro ⟨placed, hPlaced, rfl⟩
    exact List.mem_map.mpr ⟨(id, placed), Table.get?_eq_some_iff.mp hPlaced, rfl⟩

theorem nodup_globalNodes (d : Design ν) (stage : Stage) : (d.globalNodes stage).Nodup := by
  rw [globalNodes, (List.mergeSort_perm _ _).nodup_iff]
  apply List.Nodup.filter
  apply List.Nodup.of_map Prod.fst
  rw [List.map_map]
  exact (d.graph stage).nodes.keys_nodup

theorem pairwise_globalNodes (d : Design ν) (stage : Stage) :
    (d.globalNodes stage).Pairwise fun a b => a.1 ≤ b.1 := by
  have hSorted : (d.globalNodes stage).Pairwise fun a b => decide (a.1 ≤ b.1) = true := by
    apply List.pairwise_mergeSort
    · intro a b c hab hbc
      exact decide_eq_true (UInt32.le_trans (of_decide_eq_true hab) (of_decide_eq_true hbc))
    · intro a b
      simpa using UInt32.le_total a.1 b.1
  exact hSorted.imp of_decide_eq_true

/-- Sorted by number, the same global nodes are the same list. -/
theorem globalNodes_congr {stage : Stage} (hGlobal : ∀ id n, NodeModel.isGlobal n = true →
      ((e.graph stage).node? id = some n ↔ (d.graph stage).node? id = some n)) :
    e.globalNodes stage = d.globalNodes stage := by
  have hMem : ∀ x, x ∈ e.globalNodes stage ↔ x ∈ d.globalNodes stage := by
    rintro ⟨id, n⟩
    rw [mem_globalNodes_iff, mem_globalNodes_iff]
    exact and_congr_left fun hIs => hGlobal id n hIs
  have hPerm : (e.globalNodes stage).Perm (d.globalNodes stage) :=
    (List.perm_ext_iff_of_nodup (e.nodup_globalNodes stage) (d.nodup_globalNodes stage)).mpr hMem
  refine List.Perm.eq_of_pairwise ?_ (e.pairwise_globalNodes stage) (d.pairwise_globalNodes stage) hPerm
  rintro ⟨id, n⟩ ⟨id', n'⟩ hLeft hRight hLe hGe
  cases UInt32.le_antisymm hLe hGe
  have hNode := (mem_globalNodes_iff.mp ((hMem _).mp hLeft)).1
  rw [(mem_globalNodes_iff.mp hRight).1] at hNode
  rw [Option.some.inj hNode]

theorem fileScope_congr (hMode : e.mode = d.mode) (hGlobal : ∀ stage id n, NodeModel.isGlobal n = true →
      ((e.graph stage).node? id = some n ↔ (d.graph stage).node? id = some n)) (preview : Bool) (a : Assembly) :
    e.fileScope preview a = d.fileScope preview a := by
  have hText (stage : Stage) : e.globalText preview stage = d.globalText preview stage := by
    funext entry
    rw [globalText, globalText, hMode]
  have hNodes (stage : Stage) : e.globalNodes stage = d.globalNodes stage := globalNodes_congr (hGlobal stage)
  simp only [fileScope, hNodes, hText]

/-! ## Shaders -/

theorem compile_congr (hMode : e.mode = d.mode) (hHeader : e.settings.header e.mode = d.settings.header d.mode)
    (hClosure : ∀ stage, (d.graph stage).SameClosure (e.graph stage) .output)
    (hGlobal : ∀ stage id n, NodeModel.isGlobal n = true →
      ((e.graph stage).node? id = some n ↔ (d.graph stage).node? id = some n)) : e.compile = d.compile := by
  simp only [compile, hHeader, fun stage => emit_congr hMode (hClosure stage), fileScope_congr hMode hGlobal]

end Design

end ShadeGraph
