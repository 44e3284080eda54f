import ShadeGraph.Proofs.Placement

/-!
# The least order

A closure has an order exactly if no edge into it lacks an end and no cycle runs within it. Of all orders in which
sources stand before their targets, the lexicographically least one is returned.
-/

namespace ShadeGraph.StageGraph

/-! ## Scans -/

theorem mem_before_of_idxOf_lt {order before after : List NodeId} {a b : NodeId} (hOrder : order = before ++ b :: after)
    (hNodup : order.Nodup) (h : order.idxOf a < order.idxOf b) : a ∈ before := by
  subst hOrder
  have hNew : b ∉ before := fun hMem => (List.nodup_append.mp hNodup).2.2 b hMem b List.mem_cons_self rfl
  rw [List.idxOf_append_of_notMem hNew, List.idxOf_cons_self, Nat.add_zero] at h
  by_contra hLater
  rw [List.idxOf_append_of_notMem hLater] at h
  omega

/-- Whatever else lists the same nodes with all sources first, the scan yields at most that: its first is ready,
and the scan takes the least that is. -/
theorem arrange_le {edges : List Edge} {steps : Nat} {left other : List NodeId} (hNodup : left.Nodup)
    (hStuck : (arrange edges steps left).2 = []) (hPerm : other.Perm left)
    (hBefore : ∀ e ∈ edges, ∀ before after, other = before ++ e.target :: after → e.source ∈ left → e.source ∈ before) :
    (arrange edges steps left).1 ≤ other := by
  induction steps generalizing left other with
  | zero => exact List.nil_le other
  | succ steps ih =>
    cases other with
    | nil =>
      rw [hPerm.symm.eq_nil]
      exact List.nil_le []
    | cons first rest =>
      have hFirst : first ∈ left.filter (isReady edges left) := by
        rw [List.mem_filter, isReady_iff]
        refine ⟨hPerm.subset List.mem_cons_self, fun e hEdge hTarget hSource => ?_⟩
        exact absurd (hBefore e hEdge [] rest (by rw [hTarget]; rfl) hSource) List.not_mem_nil
      rw [arrange] at hStuck ⊢
      cases hLeast : least? (left.filter (isReady edges left)) with
      | none => exact absurd (least?_eq_none_iff.mp hLeast ▸ hFirst) List.not_mem_nil
      | some id =>
        rw [hLeast] at hStuck
        rcases UInt32.lt_or_eq_of_le ((least?_eq_some_iff.mp hLeast).2 first hFirst) with hLt | rfl
        · exact List.cons_le_cons_iff.mpr (.inl hLt)
        · refine List.cons_le_cons_iff.mpr (.inr ⟨rfl, ih (hNodup.erase id) hStuck ?_ ?_⟩)
          · simpa using hPerm.erase id
          · intro e hEdge before after hRest hSource
            obtain ⟨hOther, hLeft⟩ := hNodup.mem_erase_iff.mp hSource
            have hMem := hBefore e hEdge (id :: before) after (by rw [hRest]; rfl) hLeft
            exact (List.mem_cons.mp hMem).resolve_left hOther

/-! ## Graphs -/

variable {ν : Type} {g : StageGraph ν} {root id : NodeId}

/-- A root reads from a node, directly or not, or is it. Nothing reads into what is no node. -/
def Supplies (g : StageGraph ν) (root id : NodeId) : Prop :=
  g.contains root = true ∧ Relation.ReflTransGen (Joined g.edges) id root

theorem Supplies.source {e : Edge} (h : g.Supplies root e.target) (hEdge : e ∈ g.edges) : g.Supplies root e.source :=
  ⟨h.1, h.2.head ⟨e, hEdge, rfl, rfl⟩⟩

/-- An edge within what a root reads from. -/
def JoinedUnder (g : StageGraph ν) (root a b : NodeId) : Prop :=
  Joined g.edges a b ∧ g.Supplies root a ∧ g.Supplies root b

/-- All that a root reads from, each once, and sources before their targets. -/
structure IsOrder (g : StageGraph ν) (root : NodeId) (order : List NodeId) : Prop where
  mem_iff : ∀ id, id ∈ order ↔ g.Supplies root id
  nodup : order.Nodup
  source_first : ∀ e ∈ g.edges, e.target ∈ order → order.idxOf e.source < order.idxOf e.target

/-- What a root reads from stands before it. -/
theorem IsOrder.exists_append_root {order : List NodeId} (h : g.IsOrder root order) (hRoot : g.contains root = true) :
    ∃ before, order = before ++ [root] := by
  have hMem : root ∈ order := (h.mem_iff root).mpr ⟨hRoot, .refl⟩
  rcases List.eq_nil_or_concat' order with rfl | ⟨before, last, rfl⟩
  · cases hMem
  · refine ⟨before, ?_⟩
    obtain ⟨-, hPath⟩ := (h.mem_iff last).mp (by simp)
    rcases Relation.ReflTransGen.cases_head hPath with rfl | ⟨_, ⟨e, hEdge, rfl, rfl⟩, hRest⟩
    · rfl
    -- An edge from the last node would lead on to one behind it.
    · have hTarget : e.target ∈ before ++ [e.source] := (h.mem_iff e.target).mpr ⟨hRoot, hRest⟩
      have hNew : e.source ∉ before := fun hMem =>
        (List.nodup_append.mp h.nodup).2.2 e.source hMem e.source List.mem_cons_self rfl
      have hFirst := h.source_first e hEdge hTarget
      have hLength := List.idxOf_lt_length_of_mem hTarget
      rw [List.idxOf_append_of_notMem hNew, List.idxOf_cons_self, Nat.add_zero] at hFirst
      rw [List.length_append, List.length_singleton] at hLength
      omega

variable [NodeModel ν]

theorem supplies_of_mem_ancestry (h : id ∈ g.ancestry root) : g.Supplies root id := by
  obtain ⟨hRoot, hPath⟩ := mem_ancestry_iff.mp h
  exact ⟨hRoot, Relation.ReflTransGen.mono (fun _ _ => Joined.mono (List.filter_subset_self _)) _ _ hPath⟩

/-- Where no edge lacks an end, nothing is left out for the edges that are not followed. -/
theorem mem_ancestry_of_supplies (hRange : ∀ e ∈ g.edges, e.target ∈ g.ancestry root → g.inRange e = true)
    (h : g.Supplies root id) : id ∈ g.ancestry root := by
  obtain ⟨hRoot, hPath⟩ := h
  induction hPath using Relation.ReflTransGen.head_induction_on with
  | refl => exact mem_ancestry_iff.mpr ⟨hRoot, .refl⟩
  | head hStep _ ih =>
    obtain ⟨e, hEdge, rfl, rfl⟩ := hStep
    exact source_mem_ancestry hEdge (hRange e hEdge ih) ih

theorem closure_eq_ok_iff_supplies {found : List NodeId} :
    g.closure root = .ok found ↔
      found = g.ancestry root ∧ ∀ e ∈ g.edges, g.Supplies root e.target → g.inRange e = true := by
  rw [closure_eq_ok_iff]
  refine and_congr_right fun _ => ⟨fun hRange e hEdge hTarget => ?_, fun hRange e hEdge hTarget => ?_⟩
  · exact hRange e hEdge (mem_ancestry_of_supplies hRange hTarget)
  · exact hRange e hEdge (supplies_of_mem_ancestry hTarget)

theorem mem_iff_of_closure {found : List NodeId} (h : g.closure root = .ok found) :
    id ∈ found ↔ g.Supplies root id := by
  obtain ⟨rfl, hRange⟩ := closure_eq_ok_iff.mp h
  exact ⟨supplies_of_mem_ancestry, mem_ancestry_of_supplies hRange⟩

theorem joinedAmong_eq_of_closure {found : List NodeId} (h : g.closure root = .ok found) :
    JoinedAmong g.edges found = g.JoinedUnder root := by
  funext a b
  simp only [JoinedAmong, JoinedUnder, mem_iff_of_closure h]

theorem isOrder_of_order {order : List NodeId} (h : g.order root = .ok order) : g.IsOrder root order := by
  obtain ⟨found, hClosure, hArranged⟩ := order_eq_ok_iff.mp h
  have hNodup : found.Nodup := (closure_eq_ok_iff.mp hClosure).1 ▸ nodup_ancestry g root
  have hPerm := arrange_perm g.edges found.length found
  rw [hArranged, List.append_nil] at hPerm
  have hMem (id : NodeId) : id ∈ order ↔ g.Supplies root id := by rw [hPerm.mem_iff, mem_iff_of_closure hClosure]
  refine ⟨hMem, hPerm.nodup_iff.mpr hNodup, fun e hEdge hTarget => ?_⟩
  have hSource := ((hMem _).mp hTarget).source hEdge
  have hJoined : JoinedAmong g.edges found e.source e.target :=
    ⟨⟨e, hEdge, rfl, rfl⟩, hPerm.subset ((hMem _).mpr hSource), hPerm.subset hTarget⟩
  have hPlaced : e.target ∈ (arrange g.edges found.length found).1 := by rwa [hArranged]
  have hLt := idxOf_lt_of_joinedAmong hNodup hJoined hPlaced
  rwa [hArranged] at hLt

theorem order_le_of_isOrder {order other : List NodeId} (h : g.order root = .ok order) (hOther : g.IsOrder root other) :
    order ≤ other := by
  obtain ⟨found, hClosure, hArranged⟩ := order_eq_ok_iff.mp h
  have hNodup : found.Nodup := (closure_eq_ok_iff.mp hClosure).1 ▸ nodup_ancestry g root
  have hPerm : other.Perm found := (List.perm_ext_iff_of_nodup hOther.nodup hNodup).mpr fun id => by
    rw [hOther.mem_iff, mem_iff_of_closure hClosure]
  have hLe : (arrange g.edges found.length found).1 ≤ other := by
    refine arrange_le hNodup (by rw [hArranged]) hPerm fun e hEdge before after hSplit _ => ?_
    refine mem_before_of_idxOf_lt hSplit hOther.nodup (hOther.source_first e hEdge ?_)
    rw [hSplit]
    exact List.mem_append_right _ List.mem_cons_self
  rwa [hArranged] at hLe

theorem exists_order_iff :
    (∃ order, g.order root = .ok order) ↔
      (∀ e ∈ g.edges, g.Supplies root e.target → g.inRange e = true) ∧
        ∀ id, ¬Relation.TransGen (g.JoinedUnder root) id id := by
  have hNodup := nodup_ancestry g root
  constructor
  · rintro ⟨order, hOrder⟩
    obtain ⟨found, hClosure, hArranged⟩ := order_eq_ok_iff.mp hOrder
    obtain ⟨rfl, hRange⟩ := closure_eq_ok_iff_supplies.mp hClosure
    refine ⟨hRange, ?_⟩
    rw [← joinedAmong_eq_of_closure hClosure]
    exact (arrange_stuck_eq_nil_iff hNodup le_rfl).mp (by rw [hArranged])
  · rintro ⟨hRange, hAcyclic⟩
    have hClosure := closure_eq_ok_iff_supplies.mpr ⟨rfl, hRange⟩
    rw [← joinedAmong_eq_of_closure hClosure] at hAcyclic
    have hStuck := (arrange_stuck_eq_nil_iff hNodup le_rfl).mpr hAcyclic
    exact ⟨_, order_eq_ok_iff.mpr ⟨_, hClosure, Prod.ext rfl hStuck⟩⟩

/-- No step of the placement of a closure counts an edge off that is not waited for. -/
theorem isSafe_run {found : List NodeId} (h : g.closure root = .ok found) (steps : Nat) :
    ((Countdown.start (within g.edges found) found).run (within g.edges found) steps).IsSafe
      (within g.edges found) := by
  have hNodup : found.Nodup := (closure_eq_ok_iff.mp h).1 ▸ nodup_ancestry g root
  have hInner : ∀ e ∈ within g.edges found, e.source ∈ found ∧ e.target ∈ found := fun e hEdge =>
    (mem_within.mp hEdge).2
  have hTargets : ∀ e ∈ within g.edges found, e.target ∈ found := fun e hEdge => (hInner e hEdge).2
  exact ((Countdown.tracks_start hNodup hInner).run hNodup hTargets steps).2.isSafe hNodup hTargets

/-- There is an order exactly if no edge into the closure lacks an end and no cycle runs within it. It is then the
least of all orders, and no count has fallen below zero on the way. -/
theorem order_least (g : StageGraph ν) (root : NodeId) :
    ((∃ order, g.order root = .ok order) ↔
      (∀ e ∈ g.edges, g.Supplies root e.target → g.inRange e = true) ∧
        ∀ id, ¬Relation.TransGen (g.JoinedUnder root) id id) ∧
    (∀ order, g.order root = .ok order → g.IsOrder root order ∧ ∀ other, g.IsOrder root other → order ≤ other) ∧
    ∀ found, g.closure root = .ok found → ∀ steps,
      ((Countdown.start (within g.edges found) found).run (within g.edges found) steps).IsSafe
        (within g.edges found) :=
  ⟨exists_order_iff, fun _ h => ⟨isOrder_of_order h, fun _ => order_le_of_isOrder h⟩, fun _ => isSafe_run⟩

/-- A sum reads a constant twice, and the terminal reads the sum and another constant. -/
def braided : StageGraph StandardNode :=
  ((Design.empty .spatial).edited
    [.add .fragment 3 .origin (.operator (.scalar .add)), .add .fragment 4 .origin (.constant (.scalar .one)),
      .add .fragment 5 .origin (.constant (.scalar .one)), .connect .fragment ⟨5, 0, 3, 0⟩,
      .connect .fragment ⟨5, 0, 3, 1⟩, .connect .fragment ⟨3, 0, 0, 1⟩,
      .connect .fragment ⟨4, 0, 0, 2⟩]).graph .fragment

theorem order_least_braided :
    braided.order .output = .ok [4, 5, 3, 0] ∧ braided.IsOrder .output [4, 5, 3, 0] ∧
      (∀ other, braided.IsOrder .output other → [4, 5, 3, 0] ≤ other) ∧
      ∀ id, ¬Relation.TransGen (braided.JoinedUnder .output) id id := by
  have hOrder : braided.order .output = .ok [4, 5, 3, 0] := by rfl
  obtain ⟨hExists, hLeast, -⟩ := order_least braided .output
  exact ⟨hOrder, (hLeast _ hOrder).1, (hLeast _ hOrder).2, (hExists.mp ⟨_, hOrder⟩).2⟩

end ShadeGraph.StageGraph
