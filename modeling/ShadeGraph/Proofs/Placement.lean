import Mathlib.Data.FinEnum
import Mathlib.Order.WellFounded
import ShadeGraph.Proofs.Order
import ShadeGraph.Proofs.Wiring

/-!
# What the order of emission depends on

The order asks which edges lead into the closure and not in which order they came. It exists exactly if no cycle
runs within the closure.
-/

namespace ShadeGraph

namespace StageGraph

/-- An edge leads from one node to another, and both are among some. -/
def JoinedAmong (edges : List Edge) (among : List NodeId) (a b : NodeId) : Prop :=
  Joined edges a b ∧ a ∈ among ∧ b ∈ among

section

variable {edges edges' : List Edge} {left left' : List NodeId}

/-- Among the nodes that lead to a root, only the edges into such nodes count. -/
theorem leadsTo_congr {root : NodeId}
    (hEdges : ∀ e, Relation.ReflTransGen (Joined edges) e.target root → (e ∈ edges' ↔ e ∈ edges)) {id : NodeId} :
    Relation.ReflTransGen (Joined edges') id root ↔ Relation.ReflTransGen (Joined edges) id root := by
  constructor
  · intro hPath
    induction hPath using Relation.ReflTransGen.head_induction_on with
    | refl => exact .refl
    | head hStep _ ih =>
      obtain ⟨e, hEdge, rfl, rfl⟩ := hStep
      exact .head ⟨e, (hEdges e ih).mp hEdge, rfl, rfl⟩ ih
  · intro hPath
    induction hPath using Relation.ReflTransGen.head_induction_on with
    | refl => exact .refl
    | head hStep hRest ih =>
      obtain ⟨e, hEdge, rfl, rfl⟩ := hStep
      exact .head ⟨e, (hEdges e hRest).mpr hEdge, rfl, rfl⟩ ih

theorem isReady_congr {id : NodeId} (hEdges : ∀ e, e.target = id → (e ∈ edges ↔ e ∈ edges'))
    (hLeft : ∀ x, x ∈ left ↔ x ∈ left') : isReady edges left id = isReady edges' left' id := by
  rw [Bool.eq_iff_iff, isReady_iff, isReady_iff]
  simp only [hLeft]
  constructor
  · exact fun h e hEdge hTarget => h e ((hEdges e hTarget).mpr hEdge) hTarget
  · exact fun h e hEdge hTarget => h e ((hEdges e hTarget).mp hEdge) hTarget

/-- Every step takes the least of the same nodes, whatever the order in which they are listed. -/
theorem arrange_congr (hEdges : ∀ e, e.target ∈ left → (e ∈ edges ↔ e ∈ edges')) (hLeft : left.Perm left')
    (steps : Nat) :
    (arrange edges steps left).1 = (arrange edges' steps left').1 ∧
      (arrange edges steps left).2.Perm (arrange edges' steps left').2 := by
  induction steps generalizing left left' with
  | zero => exact ⟨rfl, hLeft⟩
  | succ steps ih =>
    have hLeast : least? (left.filter (isReady edges left)) = least? (left'.filter (isReady edges' left')) := by
      apply least?_congr
      intro x
      rw [List.mem_filter, List.mem_filter, ← hLeft.mem_iff]
      refine and_congr_right fun hMem => ?_
      rw [isReady_congr (fun e hTarget => hEdges e (hTarget ▸ hMem)) fun _ => hLeft.mem_iff]
    rw [arrange, arrange, ← hLeast]
    split
    · exact ⟨rfl, hLeft⟩
    · rename_i id _
      obtain ⟨hOrder, hStuck⟩ := ih (fun e hMem => hEdges e (List.mem_of_mem_erase hMem)) (hLeft.erase id)
      exact ⟨congrArg (id :: ·) hOrder, hStuck⟩

/-! ## Cycles -/

theorem joined_filter_source {among : List NodeId} {a b : NodeId} :
    Joined (edges.filter (among.contains ·.source)) a b ↔ Joined edges a b ∧ a ∈ among := by
  simp only [Joined, List.mem_filter, List.contains_iff_mem]
  constructor
  · rintro ⟨e, ⟨hEdge, hSource⟩, rfl, rfl⟩
    exact ⟨⟨e, hEdge, rfl, rfl⟩, hSource⟩
  · rintro ⟨⟨e, hEdge, rfl, rfl⟩, hSource⟩
    exact ⟨e, ⟨hEdge, hSource⟩, rfl, rfl⟩

/-- On a path all nodes but the last are sources, so only the last needs to be looked at as a target. -/
theorem transGen_filter_source {among : List NodeId} {a b : NodeId} (hEnd : b ∈ among) :
    Relation.TransGen (Joined (edges.filter (among.contains ·.source))) a b ↔
      Relation.TransGen (JoinedAmong edges among) a b := by
  constructor
  · intro hPath
    induction hPath using Relation.TransGen.head_induction_on with
    | single hStep =>
      obtain ⟨hJoined, hSource⟩ := joined_filter_source.mp hStep
      exact .single ⟨hJoined, hSource, hEnd⟩
    | head hStep _ ih =>
      obtain ⟨hJoined, hSource⟩ := joined_filter_source.mp hStep
      obtain ⟨_, hNext, -⟩ := Relation.TransGen.head'_iff.mp ih
      exact .head ⟨hJoined, hSource, hNext.2.1⟩ ih
  · exact Relation.TransGen.mono (fun x y h => joined_filter_source.mpr ⟨h.1, h.2.1⟩) a b

/-- The search from the readers of a node finds the node exactly if a cycle runs through it. -/
theorem isOnCycle_iff {among : List NodeId} {id : NodeId} :
    isOnCycle edges among id = true ↔ Relation.TransGen (JoinedAmong edges among) id id := by
  have hSearch : isOnCycle edges among id = true ↔
      Relation.TransGen (Joined (edges.filter (among.contains ·.source))) id id := by
    simp only [isOnCycle, anyLeadsTo_iff, mem_readers, Relation.TransGen.head'_iff]
  by_cases hMem : id ∈ among
  · rw [hSearch, transGen_filter_source hMem]
  · rw [hSearch, Relation.TransGen.head'_iff, Relation.TransGen.head'_iff]
    simp only [joined_filter_source, JoinedAmong, hMem, and_false, false_and, exists_false]

theorem lowestOnCycle?_congr {among among' : List NodeId}
    (hEdges : ∀ e, e.target ∈ among → (e ∈ edges ↔ e ∈ edges')) (hAmong : among.Perm among') :
    lowestOnCycle? edges among = lowestOnCycle? edges' among' := by
  have hJoined : JoinedAmong edges among = JoinedAmong edges' among' := by
    funext a b
    simp only [JoinedAmong, Joined, ← hAmong.mem_iff, eq_iff_iff]
    constructor
    · rintro ⟨⟨e, hEdge, rfl, rfl⟩, hSource, hTarget⟩
      exact ⟨⟨e, (hEdges e hTarget).mp hEdge, rfl, rfl⟩, hSource, hTarget⟩
    · rintro ⟨⟨e, hEdge, rfl, rfl⟩, hSource, hTarget⟩
      exact ⟨⟨e, (hEdges e hTarget).mpr hEdge, rfl, rfl⟩, hSource, hTarget⟩
  apply least?_congr
  intro x
  rw [List.mem_filter, List.mem_filter, isOnCycle_iff, isOnCycle_iff, hJoined, hAmong.mem_iff]

/-- When the steps suffice, what is stuck reads from what is stuck. -/
theorem not_isReady_of_stuck {steps : Nat} (hSteps : left.length ≤ steps) {id : NodeId}
    (h : id ∈ (arrange edges steps left).2) : isReady edges (arrange edges steps left).2 id = false := by
  induction steps generalizing left with
  | zero =>
    rw [List.length_eq_zero_iff.mp (Nat.le_zero.mp hSteps)] at h
    cases h
  | succ steps ih =>
    rw [arrange] at h ⊢
    split at h
    · rename_i hNone
      simpa using List.filter_eq_nil_iff.mp (least?_eq_none_iff.mp hNone) id h
    · rename_i next hNext
      have hMem : next ∈ left := (List.mem_filter.mp (least?_mem hNext)).1
      have hPositive := List.length_pos_of_mem hMem
      refine ih ?_ h
      rw [List.length_erase_of_mem hMem]
      omega

/-- A relation without cycles has a first member in every list of numbers that is not empty. -/
theorem exists_first {r : NodeId → NodeId → Prop} (hAcyclic : ∀ id, ¬Relation.TransGen r id id) {ids : List NodeId}
    (h : ids ≠ []) : ∃ id ∈ ids, ∀ x ∈ ids, ¬r x id := by
  have hIrrefl : Std.Irrefl (Relation.TransGen r) := ⟨hAcyclic⟩
  have hWellFounded : WellFounded (Relation.TransGen r) := Finite.wellFounded_of_trans_of_irrefl _
  obtain ⟨id, hMem, hFirst⟩ := hWellFounded.has_min { x | x ∈ ids } (List.exists_mem_of_ne_nil ids h)
  exact ⟨id, hMem, fun x hOther hStep => hFirst x hOther (.single hStep)⟩

/-- What a placed node reads from is placed before it. -/
theorem idxOf_lt_of_joinedAmong {steps : Nat} (hNodup : left.Nodup) {a b : NodeId} (h : JoinedAmong edges left a b)
    (hPlaced : b ∈ (arrange edges steps left).1) :
    (arrange edges steps left).1.idxOf a < (arrange edges steps left).1.idxOf b := by
  obtain ⟨⟨e, hEdge, rfl, rfl⟩, hSource, -⟩ := h
  obtain ⟨before, after, hOrder⟩ := List.append_of_mem hPlaced
  have hBefore : e.source ∈ before := arrange_sources_before hOrder hEdge hSource
  have hNew : e.target ∉ before := by
    have hNodup' := (List.nodup_append.mp ((arrange_perm edges steps left).nodup_iff.mpr hNodup)).1
    rw [hOrder] at hNodup'
    exact fun hMem => (List.nodup_append.mp hNodup').2.2 _ hMem _ List.mem_cons_self rfl
  rw [hOrder, List.idxOf_append_of_mem hBefore, List.idxOf_append_of_notMem hNew, List.idxOf_cons_self]
  have hLt := List.idxOf_lt_length_of_mem hBefore
  omega

theorem idxOf_lt_of_path {steps : Nat} (hNodup : left.Nodup) {a b : NodeId}
    (h : Relation.TransGen (JoinedAmong edges left) a b) (hPlaced : b ∈ (arrange edges steps left).1) :
    (arrange edges steps left).1.idxOf a < (arrange edges steps left).1.idxOf b := by
  induction h with
  | single hStep => exact idxOf_lt_of_joinedAmong hNodup hStep hPlaced
  | tail _ hStep ih =>
    have hLast := idxOf_lt_of_joinedAmong hNodup hStep hPlaced
    have hMiddle := List.idxOf_lt_length_iff.mp (hLast.trans (List.idxOf_lt_length_of_mem hPlaced))
    exact (ih hMiddle).trans hLast

/-- No node on a cycle is ever placed. -/
theorem mem_stuck_of_cycle {steps : Nat} (hNodup : left.Nodup) {id : NodeId}
    (h : Relation.TransGen (JoinedAmong edges left) id id) : id ∈ (arrange edges steps left).2 := by
  have hLeft : id ∈ left := by
    obtain ⟨_, hStep, -⟩ := Relation.TransGen.head'_iff.mp h
    exact hStep.2.1
  rcases List.mem_append.mp ((arrange_perm edges steps left).mem_iff.mpr hLeft) with hPlaced | hStuck
  · exact absurd (idxOf_lt_of_path hNodup h hPlaced) (Nat.lt_irrefl _)
  · exact hStuck

/-- Everything can be placed exactly if there is no cycle. -/
theorem arrange_stuck_eq_nil_iff {steps : Nat} (hNodup : left.Nodup) (hSteps : left.length ≤ steps) :
    (arrange edges steps left).2 = [] ↔ ∀ id, ¬Relation.TransGen (JoinedAmong edges left) id id := by
  constructor
  · intro hStuck id hCycle
    have hMem : id ∈ (arrange edges steps left).2 := mem_stuck_of_cycle hNodup hCycle
    rw [hStuck] at hMem
    exact List.not_mem_nil hMem
  · intro hAcyclic
    by_contra hStuck
    obtain ⟨id, hMem, hFirst⟩ := exists_first hAcyclic hStuck
    have hSubset : (arrange edges steps left).2 ⊆ left := fun x hx =>
      (arrange_perm edges steps left).mem_iff.mp (List.mem_append_right _ hx)
    -- the first of what is stuck was ready
    have hReady : isReady edges (arrange edges steps left).2 id = true := by
      rw [isReady_iff]
      rintro e hEdge rfl hSource
      exact hFirst e.source hSource ⟨⟨e, hEdge, rfl, rfl⟩, hSubset hSource, hSubset hMem⟩
    rw [not_isReady_of_stuck hSteps hMem] at hReady
    cases hReady

end

/-! ## Orders of graphs -/

variable {ν : Type} [NodeModel ν] {g h : StageGraph ν}

theorem Wired.closure_eq (hWired : g.Wired) (root : NodeId) : g.closure root = .ok (g.ancestry root) :=
  closure_eq_ok_iff.mpr ⟨rfl, fun e hEdge _ => hWired.inRange e hEdge⟩

theorem mem_ancestry_iff {root id : NodeId} :
    id ∈ g.ancestry root ↔
      g.contains root = true ∧ Relation.ReflTransGen (Joined (g.edges.filter g.inRange)) id root := by
  have hStep (edges : List Edge) : Reach.Step (sources edges) = Function.swap (Joined edges) := by
    funext a b
    exact propext mem_sources
  rw [ancestry]
  split
  · rename_i hRoot
    rw [Reach.mem_grow_iff (sources_subset _) (by simp), Reach.Steps, hStep]
    simp [hRoot, Relation.reflTransGen_swap]
  · rename_i hRoot
    simp [hRoot]

theorem Wired.mem_ancestry_iff (hWired : g.Wired) {root id : NodeId} :
    id ∈ g.ancestry root ↔ g.contains root = true ∧ Relation.ReflTransGen (Joined g.edges) id root := by
  rw [StageGraph.mem_ancestry_iff, List.filter_eq_self.mpr hWired.inRange]

theorem Wired.exists_placed_of_leadsTo (hWired : g.Wired) {root id : NodeId} (hRoot : g.contains root = true)
    (h : Relation.ReflTransGen (Joined g.edges) id root) : ∃ placed, g.placed? id = some placed := by
  rcases Relation.ReflTransGen.cases_head h with rfl | ⟨_, ⟨e, hEdge, rfl, -⟩, -⟩
  · exact contains_iff.mp hRoot
  · obtain ⟨⟨n, hNode⟩, -⟩ := exists_nodes_of_inRange (hWired.inRange e hEdge)
    obtain ⟨placed, hPlaced, -⟩ := node?_eq_some_iff.mp hNode
    exact ⟨placed, hPlaced⟩

theorem Wired.order_eq (hWired : g.Wired) (root : NodeId) :
    g.order root =
      let arranged := arrange g.edges (g.ancestry root).length (g.ancestry root)
      if arranged.2 = [] then .ok arranged.1 else .error (.cycle ((lowestOnCycle? g.edges arranged.2).getD root)) :=
  order_eq_of_closure (hWired.closure_eq root)

/-- Graphs with the same edges into what leads to a root have the same order there, or the same cycle is found. -/
theorem Wired.order_congr (hWired : g.Wired) (hWired' : h.Wired) {root : NodeId}
    (hRoot : h.contains root = g.contains root)
    (hEdges : ∀ e, Relation.ReflTransGen (Joined g.edges) e.target root → (e ∈ h.edges ↔ e ∈ g.edges)) :
    h.order root = g.order root := by
  have hMem (id : NodeId) : id ∈ h.ancestry root ↔ id ∈ g.ancestry root := by
    rw [hWired'.mem_ancestry_iff, hWired.mem_ancestry_iff, hRoot, leadsTo_congr hEdges]
  have hClosure : (h.ancestry root).Perm (g.ancestry root) :=
    (List.perm_ext_iff_of_nodup (nodup_ancestry h root) (nodup_ancestry g root)).mpr hMem
  have hInto : ∀ e, e.target ∈ h.ancestry root → (e ∈ h.edges ↔ e ∈ g.edges) := fun e hTarget =>
    hEdges e (hWired.mem_ancestry_iff.mp ((hMem _).mp hTarget)).2
  obtain ⟨hOrder, hStuck⟩ := arrange_congr hInto hClosure (g.ancestry root).length
  have hIntoStuck : ∀ e, e.target ∈ (arrange h.edges (g.ancestry root).length (h.ancestry root)).2 →
      (e ∈ h.edges ↔ e ∈ g.edges) := fun e hTarget =>
    hInto e ((arrange_perm ..).mem_iff.mp (List.mem_append_right _ hTarget))
  rw [hWired'.order_eq, hWired.order_eq, hClosure.length_eq]
  dsimp only
  rw [hOrder, lowestOnCycle?_congr hIntoStuck hStuck]
  have hNil := hStuck.length_eq
  simp only [← List.length_eq_zero_iff, hNil]

end StageGraph

end ShadeGraph
