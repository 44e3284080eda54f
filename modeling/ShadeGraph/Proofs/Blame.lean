import ShadeGraph.Proofs.LeastOrder

/-!
# Which node a cycle is blamed on

What cannot be placed lies on a cycle or follows one. All of a cycle is among it, so the search there finds the same
cycles as the whole closure has, and the least node on any of them is named.
-/

namespace ShadeGraph.StageGraph

theorem transGen_along_cycle {α : Type} {r : α → α → Prop} {a : α} (h : Relation.TransGen r a a) :
    Relation.TransGen (fun x y => r x y ∧ Relation.TransGen r x x ∧ Relation.TransGen r y y) a a := by
  have hPart : ∀ b, Relation.TransGen r a b → Relation.ReflTransGen r b a →
      Relation.TransGen (fun x y => r x y ∧ Relation.TransGen r x x ∧ Relation.TransGen r y y) a b := by
    -- By induction on the way to a node. With the way back from there, it is a cycle through all nodes on the way.
    intro b hTo
    induction hTo with
    | single hStep =>
      intro hBack
      exact .single ⟨hStep, .head' hStep hBack, .tail' hBack hStep⟩
    | tail hTo hStep ih =>
      intro hBack
      have hFrom : Relation.TransGen r _ a := .head' hStep hBack
      exact (ih hFrom.to_reflTransGen).tail ⟨hStep, hFrom.trans hTo, .tail' (hBack.trans hTo.to_reflTransGen) hStep⟩
  exact hPart a h .refl

section

variable {edges : List Edge} {left : List NodeId} {steps : Nat} {id : NodeId}

theorem transGen_stuck_iff (hNodup : left.Nodup) :
    Relation.TransGen (JoinedAmong edges (arrange edges steps left).2) id id ↔
      Relation.TransGen (JoinedAmong edges left) id id := by
  constructor
  · have hSubset : (arrange edges steps left).2 ⊆ left := fun x hMem =>
      (arrange_perm edges steps left).mem_iff.mp (List.mem_append_right _ hMem)
    exact Relation.TransGen.mono (fun _ _ h => ⟨h.1, hSubset h.2.1, hSubset h.2.2⟩) id id
  · intro hCycle
    refine Relation.TransGen.mono (fun a b h => ?_) id id (transGen_along_cycle hCycle)
    exact ⟨h.1.1, mem_stuck_of_cycle hNodup h.2.1, mem_stuck_of_cycle hNodup h.2.2⟩

theorem mem_filter_isOnCycle_iff (hNodup : left.Nodup) :
    id ∈ (arrange edges steps left).2.filter (isOnCycle edges (arrange edges steps left).2) ↔
      Relation.TransGen (JoinedAmong edges left) id id := by
  rw [List.mem_filter, isOnCycle_iff, transGen_stuck_iff hNodup]
  exact and_iff_right_of_imp (mem_stuck_of_cycle hNodup)

variable (steps) in
theorem exists_lowestOnCycle?_stuck (hNodup : left.Nodup) (h : Relation.TransGen (JoinedAmong edges left) id id) :
    ∃ least, lowestOnCycle? edges (arrange edges steps left).2 = some least ∧
      Relation.TransGen (JoinedAmong edges left) least least ∧
      ∀ x, Relation.TransGen (JoinedAmong edges left) x x → least ≤ x := by
  have hSome : id ∈ (arrange edges steps left).2.filter (isOnCycle edges (arrange edges steps left).2) :=
    (mem_filter_isOnCycle_iff hNodup).mpr h
  cases hLeast : lowestOnCycle? edges (arrange edges steps left).2 with
  | none => exact absurd (least?_eq_none_iff.mp hLeast ▸ hSome) List.not_mem_nil
  | some least =>
    obtain ⟨hMem, hLe⟩ := least?_eq_some_iff.mp hLeast
    exact ⟨least, rfl, (mem_filter_isOnCycle_iff hNodup).mp hMem,
      fun x hCycle => hLe x ((mem_filter_isOnCycle_iff hNodup).mpr hCycle)⟩

end

/-- Where every edge into the closure of a root has its ends and a cycle runs within it, there is no order, and the
error names the least of all nodes on such cycles. It is found among what could not be placed, so the root is never
blamed in its place. -/
theorem order_blames_least_on_cycle {ν : Type} [NodeModel ν] {g : StageGraph ν} {root : NodeId}
    (hRange : ∀ e ∈ g.edges, g.Supplies root e.target → g.inRange e = true)
    (hCycle : ∃ x, Relation.TransGen (g.JoinedUnder root) x x) :
    ∃ found id, g.closure root = .ok found ∧ g.order root = .error (.cycle id) ∧
      Relation.TransGen (g.JoinedUnder root) id id ∧ (∀ x, Relation.TransGen (g.JoinedUnder root) x x → id ≤ x) ∧
      let placed := (Countdown.run (within g.edges found) found.length (.start (within g.edges found) found)).placed
      lowestOnCycle? g.edges (found.filter (!placed.contains ·)) = some id := by
  have hClosure : g.closure root = .ok (g.ancestry root) := closure_eq_ok_iff_supplies.mpr ⟨rfl, hRange⟩
  rw [← joinedAmong_eq_of_closure hClosure] at hCycle ⊢
  obtain ⟨x, hCycle⟩ := hCycle
  obtain ⟨id, hLowest, hOn, hLeast⟩ :=
    exists_lowestOnCycle?_stuck (g.ancestry root).length (nodup_ancestry g root) hCycle
  have hStuck : (arrange g.edges (g.ancestry root).length (g.ancestry root)).2 ≠ [] :=
    List.ne_nil_of_mem (mem_stuck_of_cycle (nodup_ancestry g root) hCycle)
  refine ⟨g.ancestry root, id, hClosure, ?_, hOn, hLeast, ?_⟩
  · rw [order_eq_of_closure hClosure]
    dsimp only
    rw [if_neg hStuck, hLowest, Option.getD_some]
  · intro placed
    have hUnplaced : (g.ancestry root).filter (!placed.contains ·) = _ := (placed_run_of_closure hClosure).2
    rw [hUnplaced, hLowest]

/-- Sums that read each other. The terminal reads one of them through a sum with a lower number. -/
def tangled : StageGraph StandardNode where
  nodes := (((Design.empty .spatial).edited
    [.add .fragment 2 .origin (.operator (.scalar .add)), .add .fragment 3 .origin (.operator (.scalar .add)),
      .add .fragment 5 .origin (.operator (.scalar .add))]).graph .fragment).nodes
  edges := [⟨5, 0, 3, 0⟩, ⟨3, 0, 5, 0⟩, ⟨3, 0, 2, 0⟩, ⟨2, 0, 0, 1⟩]

/-- All four nodes are left, and the terminal and its neighbour are not blamed. -/
theorem order_blames_least_on_cycle_tangled :
    tangled.closure .output = .ok [0, 2, 3, 5] ∧ tangled.order .output = .error (.cycle 3) ∧
      Relation.TransGen (tangled.JoinedUnder .output) 3 3 ∧
      ∀ x, Relation.TransGen (tangled.JoinedUnder .output) x x → 3 ≤ x := by
  have hJoined (e : Edge) (hEdge : e ∈ tangled.edges) : Joined tangled.edges e.source e.target := ⟨e, hEdge, rfl, rfl⟩
  have hThird : tangled.Supplies .output 3 :=
    ⟨rfl, .head (hJoined ⟨3, 0, 2, 0⟩ (by decide)) (.single (hJoined ⟨2, 0, 0, 1⟩ (by decide)))⟩
  have hFifth : tangled.Supplies .output 5 := Supplies.source (e := ⟨5, 0, 3, 0⟩) hThird (by decide)
  have hThere : tangled.JoinedUnder .output 3 5 := ⟨hJoined ⟨3, 0, 5, 0⟩ (by decide), hThird, hFifth⟩
  have hBack : tangled.JoinedUnder .output 5 3 := ⟨hJoined ⟨5, 0, 3, 0⟩ (by decide), hFifth, hThird⟩
  have hCycle : Relation.TransGen (tangled.JoinedUnder .output) 3 3 := .head hThere (.single hBack)
  have hRange : ∀ e ∈ tangled.edges, tangled.inRange e = true := by decide
  obtain ⟨_, id, -, hOrder, hOn, hLeast, -⟩ := order_blames_least_on_cycle (fun e hEdge _ => hRange e hEdge) ⟨3, hCycle⟩
  have hThree : tangled.order .output = .error (.cycle 3) := by rfl
  cases hOrder.symm.trans hThree
  exact ⟨by rfl, hThree, hOn, hLeast⟩

end ShadeGraph.StageGraph
