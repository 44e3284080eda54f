import ShadeGraph.Proofs.Countdown
import ShadeGraph.Proofs.Edits
import ShadeGraph.Proofs.Reach

/-!
# The order of emission

A closure holds the sources of all edges into it. Arranged without a rest, every node of it stands once, and
after all that it reads from.
-/

namespace ShadeGraph

namespace StageGraph

theorem arrange_succ_cases (edges : List Edge) (steps : Nat) (left : List NodeId) :
    arrange edges (steps + 1) left = ([], left) ∨
      ∃ id ∈ left, isReady edges left id = true ∧
        arrange edges (steps + 1) left =
          (id :: (arrange edges steps (left.erase id)).1, (arrange edges steps (left.erase id)).2) := by
  rw [arrange]
  split
  · exact .inl rfl
  · rename_i id hLeast
    obtain ⟨hLeft, hReady⟩ := List.mem_filter.mp (least?_mem hLeast)
    exact .inr ⟨id, hLeft, hReady, rfl⟩

theorem arrange_perm (edges : List Edge) (steps : Nat) (left : List NodeId) :
    ((arrange edges steps left).1 ++ (arrange edges steps left).2).Perm left := by
  induction steps generalizing left with
  | zero => exact List.Perm.refl left
  | succ steps ih =>
    rcases arrange_succ_cases edges steps left with hStuck | ⟨id, hLeft, -, hStep⟩
    · rw [hStuck]
      exact List.Perm.refl left
    · rw [hStep]
      exact ((ih (left.erase id)).cons id).trans (List.perm_cons_erase hLeft).symm

/-- A node is placed after all those left that it reads from. -/
theorem arrange_sources_before {edges : List Edge} {steps : Nat} {left before after : List NodeId} {e : Edge}
    (h : (arrange edges steps left).1 = before ++ e.target :: after) (hEdge : e ∈ edges) (hLeft : e.source ∈ left) :
    e.source ∈ before := by
  induction steps generalizing left before with
  | zero => simp [arrange] at h
  | succ steps ih =>
    rcases arrange_succ_cases edges steps left with hStuck | ⟨id, -, hReady, hStep⟩
    · simp [hStuck] at h
    · rw [hStep] at h
      cases before with
      | nil =>
        have hFirst : id = e.target := (List.cons.inj h).1
        exact absurd hLeft (isReady_iff.mp hReady e hEdge hFirst.symm)
      | cons first before =>
        obtain ⟨rfl, hRest⟩ := List.cons.inj h
        -- the source is placed now, or it is still left for the steps to come
        by_cases hSame : e.source = id
        · exact hSame ▸ List.mem_cons_self
        · exact List.mem_cons_of_mem _ (ih hRest ((List.mem_erase_of_ne hSame).mpr hLeft))

variable {ν : Type} [NodeModel ν]

theorem nodup_ancestry (g : StageGraph ν) (root : NodeId) : (g.ancestry root).Nodup := by
  rw [ancestry]
  split
  · exact Reach.nodup_grow (List.nodup_singleton root)
  · exact List.nodup_nil

theorem source_mem_ancestry {g : StageGraph ν} {root : NodeId} {e : Edge} (hEdge : e ∈ g.edges)
    (hRange : g.inRange e = true) (h : e.target ∈ g.ancestry root) : e.source ∈ g.ancestry root := by
  rw [ancestry] at h ⊢
  split at h
  · rename_i hRoot
    rw [if_pos hRoot]
    rw [Reach.mem_grow_iff (sources_subset _) (by simp)] at h ⊢
    obtain ⟨x, hStart, hSteps⟩ := h
    refine ⟨x, hStart, hSteps.tail ?_⟩
    exact mem_sources.mpr ⟨e, List.mem_filter.mpr ⟨hEdge, hRange⟩, rfl, rfl⟩
  · exact absurd h List.not_mem_nil

/-- A closure without error has no edge into it that lacks an end. -/
theorem closure_eq_ok_iff {g : StageGraph ν} {root : NodeId} {found : List NodeId} :
    g.closure root = .ok found ↔
      found = g.ancestry root ∧ ∀ e ∈ g.edges, e.target ∈ g.ancestry root → g.inRange e = true := by
  rw [closure]
  split
  · rename_i e hFind
    have hMem := List.mem_of_find?_eq_some hFind
    have hOut := List.find?_some hFind
    simp only [List.mem_flatMap, List.mem_filter, decide_eq_true_eq] at hMem
    obtain ⟨id, hFound, hEdge, rfl⟩ := hMem
    simp only [reduceCtorEq, false_iff, not_and, not_forall]
    intro _
    refine ⟨e, hEdge, hFound, ?_⟩
    intro hRange
    rw [hRange] at hOut
    cases hOut
  · rename_i hNone
    rw [List.find?_eq_none] at hNone
    rw [Except.ok.injEq]
    constructor
    · rintro rfl
      refine ⟨rfl, fun e hEdge hFound => ?_⟩
      have hKept := hNone e
        (List.mem_flatMap.mpr ⟨e.target, hFound, List.mem_filter.mpr ⟨hEdge, decide_eq_true rfl⟩⟩)
      simpa using hKept
    · exact fun h => h.1.symm

/-- Counting down places what a scan of all that is left would place, and in the same order. -/
theorem placed_run_of_closure {g : StageGraph ν} {root : NodeId} {found : List NodeId}
    (h : g.closure root = .ok found) :
    let placed := (Countdown.run (within g.edges found) found.length (.start (within g.edges found) found)).placed
    placed = (arrange g.edges found.length found).1 ∧
      found.filter (!placed.contains ·) = (arrange g.edges found.length found).2 := by
  have hNodup : found.Nodup := (closure_eq_ok_iff.mp h).1 ▸ nodup_ancestry g root
  have hInner : ∀ e ∈ within g.edges found, e.source ∈ found ∧ e.target ∈ found := fun e hEdge =>
    (mem_within.mp hEdge).2
  obtain ⟨hPlaced, hTracks⟩ := (Countdown.tracks_start hNodup hInner).run hNodup (fun e hEdge => (hInner e hEdge).2)
    found.length
  rw [arrange_within (List.Subset.refl found)] at hPlaced hTracks
  exact ⟨hPlaced, hTracks.left_eq.symm⟩

/-- A closure is put in order as a scan of all that is left would arrange it. -/
theorem order_eq_of_closure {g : StageGraph ν} {root : NodeId} {found : List NodeId}
    (h : g.closure root = .ok found) :
    g.order root =
      let arranged := arrange g.edges found.length found
      if arranged.2 = [] then .ok arranged.1 else .error (.cycle ((lowestOnCycle? g.edges arranged.2).getD root)) := by
  obtain ⟨hPlaced, hLeft⟩ := placed_run_of_closure h
  have hAll := (arrange_perm g.edges found.length found).length_eq
  rw [List.length_append] at hAll
  rw [order, h, Except.ok_bind]
  dsimp only
  rw [hLeft, hPlaced]
  -- fewer are placed than there are exactly if something is stuck
  by_cases hStuck : (arrange g.edges found.length found).2 = []
  · rw [hStuck, List.length_nil] at hAll
    rw [if_pos hStuck, if_neg (by omega)]
    rfl
  · have hSome := List.length_pos_iff.mpr hStuck
    rw [if_neg hStuck, if_pos (by omega)]
    rfl

/-- An order without error is the closure arranged without a rest. -/
theorem order_eq_ok_iff {g : StageGraph ν} {root : NodeId} {order : List NodeId} :
    g.order root = .ok order ↔
      ∃ found, g.closure root = .ok found ∧ arrange g.edges found.length found = (order, []) := by
  cases hClosure : g.closure root with
  | error cause => simp [StageGraph.order, hClosure]
  | ok found =>
    rw [order_eq_of_closure hClosure]
    simp only [Except.ok.injEq, exists_eq_left', Prod.ext_iff]
    split
    · rename_i hDone
      simp [hDone]
    · rename_i hStuck
      simp [hStuck]

theorem perm_order {g : StageGraph ν} {root : NodeId} {order : List NodeId} (h : g.order root = .ok order) :
    order.Perm (g.ancestry root) := by
  obtain ⟨found, hClosure, hArrange⟩ := order_eq_ok_iff.mp h
  obtain ⟨rfl, -⟩ := closure_eq_ok_iff.mp hClosure
  have hPerm := arrange_perm g.edges (g.ancestry root).length (g.ancestry root)
  rwa [hArrange, List.append_nil] at hPerm

theorem nodup_order {g : StageGraph ν} {root : NodeId} {order : List NodeId} (h : g.order root = .ok order) :
    order.Nodup :=
  (perm_order h).nodup_iff.mpr (nodup_ancestry g root)

/-- Every edge into a node of the order has its ends, and its source stands before the node. -/
theorem order_sources_before {g : StageGraph ν} {root : NodeId} {order before after : List NodeId} {e : Edge}
    (h : g.order root = .ok order) (hOrder : order = before ++ e.target :: after) (hEdge : e ∈ g.edges) :
    g.inRange e = true ∧ e.source ∈ before := by
  have hTarget : e.target ∈ g.ancestry root := by
    rw [← (perm_order h).mem_iff, hOrder]
    simp
  obtain ⟨found, hClosure, hArrange⟩ := order_eq_ok_iff.mp h
  obtain ⟨rfl, hRange⟩ := closure_eq_ok_iff.mp hClosure
  have hEnds := hRange e hEdge hTarget
  have hPlaced : (arrange g.edges (g.ancestry root).length (g.ancestry root)).1 = before ++ e.target :: after := by
    rw [hArrange]
    exact hOrder
  exact ⟨hEnds, arrange_sources_before hPlaced hEdge (source_mem_ancestry hEdge hEnds hTarget)⟩

end StageGraph

end ShadeGraph
