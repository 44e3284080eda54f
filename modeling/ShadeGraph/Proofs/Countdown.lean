import Mathlib.Data.List.Induction
import Mathlib.Data.List.Nodup
import ShadeGraph.Proofs.Paths
import ShadeGraph.Proofs.Table

/-!
# Counting edges off

A countdown knows from the numbers of edges that nodes wait for which of them are ready. The numbers are right
throughout, and none is counted below zero. So a countdown places what a scan of all that is left would place.
-/

namespace ShadeGraph

theorem least?_eq_some_iff {ids : List NodeId} {id : NodeId} :
    least? ids = some id ↔ id ∈ ids ∧ ∀ x ∈ ids, id ≤ x := by
  have hMin : least? ids = ids.min? := by cases ids <;> rfl
  rw [hMin, List.min?_eq_some_iff]

theorem least?_eq_none_iff {ids : List NodeId} : least? ids = none ↔ ids = [] := by
  cases ids <;> simp [least?]

theorem least?_mem {ids : List NodeId} {id : NodeId} (h : least? ids = some id) : id ∈ ids :=
  (least?_eq_some_iff.mp h).1

theorem least?_congr {ids ids' : List NodeId} (h : ∀ x, x ∈ ids ↔ x ∈ ids') : least? ids = least? ids' := by
  apply Option.ext
  intro id
  simp only [least?_eq_some_iff, h]

namespace StageGraph

/-! ## Scans -/

/-- Whether none of the edges leads from what is left to a node. -/
def isReady (edges : List Edge) (left : List NodeId) (id : NodeId) : Bool :=
  edges.all fun e => e.target ≠ id || !left.contains e.source

/-- Places nodes one after the other, always the least that is ready, and returns the order and what could
not be placed. -/
def arrange (edges : List Edge) : Nat → List NodeId → List NodeId × List NodeId
  | 0, left => ([], left)
  | steps + 1, left =>
    match least? (left.filter (isReady edges left)) with
    | none => ([], left)
    | some id =>
      let (order, stuck) := arrange edges steps (left.erase id)
      (id :: order, stuck)

theorem isReady_iff {edges : List Edge} {left : List NodeId} {id : NodeId} :
    isReady edges left id = true ↔ ∀ e ∈ edges, e.target = id → e.source ∉ left := by
  simp only [isReady, List.all_eq_true, Bool.or_eq_true, decide_eq_true_eq, Bool.not_eq_true',
    List.contains_eq_mem, decide_eq_false_iff_not, ne_eq]
  exact forall₂_congr fun e _ => imp_iff_not_or.symm

theorem mem_within {edges : List Edge} {among : List NodeId} {e : Edge} :
    e ∈ within edges among ↔ e ∈ edges ∧ e.source ∈ among ∧ e.target ∈ among := by
  simp [within]

/-- Edges from elsewhere keep no node from being ready. -/
theorem arrange_within {edges : List Edge} {among left : List NodeId} (h : left ⊆ among) (steps : Nat) :
    arrange (within edges among) steps left = arrange edges steps left := by
  induction steps generalizing left with
  | zero => rfl
  | succ steps ih =>
    have hReady : left.filter (isReady (within edges among) left) = left.filter (isReady edges left) := by
      apply List.filter_congr
      intro id hId
      rw [Bool.eq_iff_iff, isReady_iff, isReady_iff]
      constructor
      · rintro hFree e hEdge rfl hSource
        exact hFree e (mem_within.mpr ⟨hEdge, h hSource, h hId⟩) rfl hSource
      · exact fun hFree e hEdge => hFree e (mem_within.mp hEdge).1
    have hRest (id : NodeId) := ih (fun _ hMem => h (List.mem_of_mem_erase hMem) : left.erase id ⊆ among)
    simp only [arrange, hReady, hRest]

namespace Countdown

/-! ## Counts -/

section

variable {c : Countdown} {id x : NodeId}

theorem waiting_countOff (c : Countdown) (id x : NodeId) :
    (c.countOff id).waiting.get? x = (c.waiting.get? x).map fun count => if x = id then count - 1 else count := by
  rw [countOff]
  split
  · rename_i hNone
    by_cases hSame : x = id
    · rw [hSame, hNone]
      rfl
    · simp [hSame]
  · rename_i count hSome
    rw [Table.get?_insert]
    by_cases hSame : x = id
    · simp [hSame, hSome]
    · simp [hSame]

theorem placed_countOff (c : Countdown) (id : NodeId) : (c.countOff id).placed = c.placed := by
  rw [countOff]
  split <;> rfl

theorem mem_ready_countOff :
    x ∈ (c.countOff id).ready ↔ x ∈ c.ready ∨ x = id ∧ ∃ count ≤ 1, c.waiting.get? x = some count := by
  rw [countOff]
  split
  · rename_i hNone
    have hNever : ¬(x = id ∧ ∃ count ≤ 1, c.waiting.get? x = some count) := by
      rintro ⟨rfl, count, -, hSome⟩
      cases hNone.symm.trans hSome
    exact (or_iff_left hNever).symm
  · rename_i count hSome
    have hLast : (x = id ∧ ∃ count ≤ 1, c.waiting.get? x = some count) ↔ count - 1 = 0 ∧ x = id := by
      constructor
      · rintro ⟨rfl, count', hLe, hSame⟩
        cases hSome.symm.trans hSame
        exact ⟨by omega, rfl⟩
      · rintro ⟨hLe, rfl⟩
        exact ⟨rfl, count, by omega, hSome⟩
    rw [hLast]
    split
    · rename_i hZero
      simp [hZero]
    · rename_i hPositive
      simp [hPositive]

theorem waiting_foldl (ids : List NodeId) (c : Countdown) (x : NodeId) :
    (ids.foldl countOff c).waiting.get? x = (c.waiting.get? x).map (· - ids.count x) := by
  induction ids generalizing c with
  | nil => simp
  | cons id rest ih =>
    rw [List.foldl_cons, ih, waiting_countOff, Option.map_map]
    congr 1
    funext count
    by_cases hSame : x = id
    · simp only [Function.comp_apply, hSame, if_true, List.count_cons_self]
      omega
    · simp [hSame, Ne.symm hSame]

theorem placed_foldl (ids : List NodeId) (c : Countdown) : (ids.foldl countOff c).placed = c.placed := by
  induction ids generalizing c with
  | nil => rfl
  | cons id rest ih => rw [List.foldl_cons, ih, placed_countOff]

/-- Ready is what was ready, and what the edges that are counted off are enough for. -/
theorem mem_ready_foldl {ids : List NodeId} :
    x ∈ (ids.foldl countOff c).ready ↔
      x ∈ c.ready ∨ x ∈ ids ∧ ∃ count ≤ ids.count x, c.waiting.get? x = some count := by
  induction ids generalizing c with
  | nil => simp
  | cons id rest ih =>
    rw [List.foldl_cons, ih, mem_ready_countOff, waiting_countOff]
    by_cases hSame : x = id
    · subst hSame
      cases hCount : c.waiting.get? x with
      | none => simp
      | some count =>
        by_cases hRest : x ∈ rest
        · have hPositive : 0 < rest.count x := List.count_pos_iff.mpr hRest
          simp only [Option.map_some, Option.some.injEq, exists_eq_right', if_true, true_and, hRest,
            List.mem_cons_self, List.count_cons_self, or_assoc]
          refine or_congr_right ?_
          omega
        · simp [hRest, List.count_eq_zero_of_not_mem hRest]
    · simp [hSame, Ne.symm hSame]

/-- No node is ready twice, and a node that is ready waits for nothing. -/
structure Settled (c : Countdown) : Prop where
  nodup : c.ready.Nodup
  waiting : ∀ id ∈ c.ready, c.waiting.get? id = some 0

theorem Settled.countOff (h : c.Settled) {count : Nat} (hCount : c.waiting.get? id = some (count + 1)) :
    (c.countOff id).Settled := by
  have hNew : id ∉ c.ready := by
    intro hReady
    cases hCount.symm.trans (h.waiting id hReady)
  constructor
  · rw [Countdown.countOff, hCount]
    dsimp only
    split
    · exact List.nodup_append.mpr ⟨h.nodup, List.nodup_singleton id, by
        rintro a hMem b hSingle rfl
        exact hNew (List.mem_singleton.mp hSingle ▸ hMem)⟩
    · exact h.nodup
  · intro x hReady
    rw [waiting_countOff]
    rcases mem_ready_countOff.mp hReady with hOld | ⟨rfl, count', hLe, hSome⟩
    · rw [h.waiting x hOld]
      simp
    · rw [hSome]
      simp only [Option.map_some, if_true, Option.some.injEq]
      omega

/-- Every edge in a list is waited for. -/
def Covers (c : Countdown) (ids : List NodeId) : Prop :=
  ∀ id ∈ ids, ∃ count, c.waiting.get? id = some count ∧ ids.count id ≤ count

/-- A count is positive whenever it is counted off. -/
theorem Covers.positive {before after : List NodeId} (h : c.Covers (before ++ id :: after)) :
    ∃ count, (before.foldl Countdown.countOff c).waiting.get? id = some (count + 1) := by
  obtain ⟨count, hCount, hLe⟩ := h id (by simp)
  rw [List.count_append, List.count_cons_self] at hLe
  refine ⟨count - before.count id - 1, ?_⟩
  rw [waiting_foldl, hCount, Option.map_some]
  congr 1
  omega

theorem Settled.foldl {ids : List NodeId} (h : c.Settled) (hCovers : c.Covers ids) :
    (ids.foldl Countdown.countOff c).Settled := by
  induction ids using List.reverseRecOn with
  | nil => exact h
  | append_singleton rest id ih =>
    rw [List.foldl_append]
    obtain ⟨count, hCount⟩ := hCovers.positive
    refine Settled.countOff (ih ?_) hCount
    intro x hMem
    obtain ⟨count, hCount, hLe⟩ := hCovers x (List.mem_append_left _ hMem)
    rw [List.count_append] at hLe
    exact ⟨count, hCount, by omega⟩

end

/-! ## Runs -/

/-- How many edges lead to a node from what is left. -/
def pending (edges : List Edge) (left : List NodeId) (id : NodeId) : Nat :=
  edges.countP fun e => decide (e.target = id) && left.contains e.source

section

variable {edges : List Edge} {nodes left : List NodeId} {c : Countdown} {id x : NodeId}

theorem pending_eq_zero_iff : pending edges left id = 0 ↔ isReady edges left id = true := by
  simp [pending, List.countP_eq_zero, isReady_iff]

theorem pending_cons (e : Edge) (edges : List Edge) (left : List NodeId) (id : NodeId) :
    pending (e :: edges) left id = pending edges left id + if e.target = id ∧ e.source ∈ left then 1 else 0 := by
  simp [pending, List.countP_cons]

theorem count_readers_cons (e : Edge) (edges : List Edge) (id x : NodeId) :
    (readers (e :: edges) id).count x = (readers edges id).count x + if e.target = x ∧ e.source = id then 1 else 0 := by
  by_cases hFrom : e.source = id
  · simp [readers, hFrom, List.count_cons]
  · simp [readers, hFrom]

/-- Of the edges that a node waits for, those from the node that is placed are counted off. -/
theorem pending_erase (edges : List Edge) (hNodup : left.Nodup) (hLeft : id ∈ left) (x : NodeId) :
    pending edges left x = pending edges (left.erase id) x + (readers edges id).count x := by
  induction edges with
  | nil => rfl
  | cons e rest ih =>
    rw [pending_cons, pending_cons, count_readers_cons, ih]
    by_cases hFrom : e.source = id
    · have hGone : id ∉ left.erase id := fun hMem => (hNodup.mem_erase_iff.mp hMem).1 rfl
      simp only [hFrom, hLeft, hGone, and_true, and_false, if_false]
      omega
    · simp only [hFrom, List.mem_erase_of_ne hFrom, and_false, if_false]
      omega

/-- A countdown over nodes of which some are left. The nodes that are not left wait for nothing. -/
structure Tracks (c : Countdown) (edges : List Edge) (nodes left : List NodeId) : Prop where
  settled : c.Settled
  left_eq : left = nodes.filter (!c.placed.contains ·)
  waiting : ∀ id ∈ nodes, c.waiting.get? id = some (pending edges left id)
  ready : ∀ id, id ∈ c.ready ↔ id ∈ left ∧ isReady edges left id = true
  done : ∀ id ∈ nodes, id ∉ left → isReady edges left id = true

theorem Tracks.nodup_left (h : c.Tracks edges nodes left) (hNodup : nodes.Nodup) : left.Nodup :=
  h.left_eq ▸ hNodup.filter _

/-- Before anything is placed all nodes are left. -/
theorem tracks_start (hNodup : nodes.Nodup) (hInner : ∀ e ∈ edges, e.source ∈ nodes ∧ e.target ∈ nodes) :
    (start edges nodes).Tracks edges nodes nodes := by
  have hSources (id : NodeId) : (sources edges id).length = pending edges nodes id := by
    rw [sources, List.length_map, pending, List.countP_eq_length_filter]
    congr 1
    apply List.filter_congr
    intro e hEdge
    simp [(hInner e hEdge).1]
  have hWaiting : ∀ id ∈ nodes, (start edges nodes).waiting.get? id = some (pending edges nodes id) := by
    intro id hId
    rw [start, Table.get?_eq_some_iff, Table.entries_ofList (by simpa [Function.comp_def] using hNodup)]
    exact List.mem_map.mpr ⟨id, hId, by rw [hSources]⟩
  have hReady (id : NodeId) : id ∈ (start edges nodes).ready ↔ id ∈ nodes ∧ isReady edges nodes id = true := by
    simp only [start, List.mem_filter, decide_eq_true_eq, hSources, pending_eq_zero_iff]
  refine ⟨⟨hNodup.filter _, ?_⟩, ?_, hWaiting, hReady, fun id hId hNot => absurd hId hNot⟩
  · intro id hMem
    obtain ⟨hId, hZero⟩ := (hReady id).mp hMem
    rw [hWaiting id hId, pending_eq_zero_iff.mpr hZero]
  · exact (List.filter_eq_self.mpr fun id _ => rfl).symm

/-- The node that is placed is waited for by all its readers. -/
theorem Tracks.covers (h : c.Tracks edges nodes left) (hNodup : nodes.Nodup) (hTargets : ∀ e ∈ edges, e.target ∈ nodes)
    (hId : id ∈ left) : (c.append id).Covers (readers edges id) := by
  intro x hMem
  obtain ⟨e, hEdge, -, rfl⟩ := mem_readers.mp hMem
  refine ⟨_, h.waiting e.target (hTargets e hEdge), ?_⟩
  rw [pending_erase edges (h.nodup_left hNodup) hId]
  exact Nat.le_add_left ..

theorem Tracks.place (h : c.Tracks edges nodes left) (hNodup : nodes.Nodup) (hTargets : ∀ e ∈ edges, e.target ∈ nodes)
    (hId : id ∈ c.ready) : (c.place edges id).Tracks edges nodes (left.erase id) := by
  obtain ⟨hLeft, hIdReady⟩ := (h.ready id).mp hId
  have hNodupLeft := h.nodup_left hNodup
  have hSettled : (c.append id).Settled :=
    ⟨h.settled.nodup.erase id, fun x hMem => h.settled.waiting x (List.mem_of_mem_erase hMem)⟩
  have hWaiting : ∀ x ∈ nodes, (c.place edges id).waiting.get? x = some (pending edges (left.erase id) x) := by
    intro x hx
    rw [Countdown.place, waiting_foldl, append, h.waiting x hx, pending_erase edges hNodupLeft hLeft, Option.map_some,
      Nat.add_sub_cancel]
  -- what reads from a node that is left is left itself
  have hReader : ∀ x ∈ readers edges id, x ∈ nodes ∧ x ∈ left.erase id := by
    intro x hMem
    obtain ⟨e, hEdge, hSource, rfl⟩ := mem_readers.mp hMem
    refine ⟨hTargets e hEdge, ?_⟩
    have hWaits : ¬isReady edges left e.target = true := fun hFree =>
      isReady_iff.mp hFree e hEdge rfl (hSource ▸ hLeft)
    rw [hNodupLeft.mem_erase_iff]
    exact ⟨fun hSame => hWaits (hSame ▸ hIdReady), by_contra fun hNot => hWaits (h.done _ (hTargets e hEdge) hNot)⟩
  have hMono {x : NodeId} (hFree : isReady edges left x = true) : isReady edges (left.erase id) x = true :=
    isReady_iff.mpr fun e hEdge hTarget hSource =>
      isReady_iff.mp hFree e hEdge hTarget (List.mem_of_mem_erase hSource)
  refine ⟨hSettled.foldl (h.covers hNodup hTargets hLeft), ?_, hWaiting, fun x => ?_, fun x hx hNot => ?_⟩
  · rw [hNodupLeft.erase_eq_filter, h.left_eq, List.filter_filter, Countdown.place, placed_foldl, append]
    apply List.filter_congr
    intro x _
    by_cases hSame : x = id <;> simp [hSame]
  · rw [Countdown.place, mem_ready_foldl]
    constructor
    · rintro (hOld | ⟨hMem, count, hLe, hCount⟩)
      · obtain ⟨hNe, hOld⟩ := h.settled.nodup.mem_erase_iff.mp hOld
        obtain ⟨hx, hFree⟩ := (h.ready x).mp hOld
        exact ⟨(List.mem_erase_of_ne hNe).mpr hx, hMono hFree⟩
      · obtain ⟨hx, hxLeft⟩ := hReader x hMem
        rw [append, h.waiting x hx, pending_erase edges hNodupLeft hLeft, Option.some.injEq] at hCount
        exact ⟨hxLeft, pending_eq_zero_iff.mp (by omega)⟩
    · rintro ⟨hx, hFree⟩
      obtain ⟨hNe, hxLeft⟩ := hNodupLeft.mem_erase_iff.mp hx
      by_cases hBefore : isReady edges left x = true
      · exact .inl ((List.mem_erase_of_ne hNe).mpr ((h.ready x).mpr ⟨hxLeft, hBefore⟩))
      -- a node that becomes ready waited for the one that is placed
      · have hSplit := pending_erase edges hNodupLeft hLeft x
        rw [pending_eq_zero_iff.mpr hFree, Nat.zero_add] at hSplit
        have hPositive : 0 < (readers edges id).count x := by
          rw [← hSplit]
          exact Nat.pos_of_ne_zero fun hZero => hBefore (pending_eq_zero_iff.mp hZero)
        have hMem := List.count_pos_iff.mp hPositive
        exact .inr ⟨hMem, _, Nat.le_of_eq hSplit, h.waiting x (hReader x hMem).1⟩
  · by_cases hxLeft : x ∈ left
    · have hSame : x = id := by
        by_contra hNe
        exact hNot ((List.mem_erase_of_ne hNe).mpr hxLeft)
      exact hSame ▸ hMono hIdReady
    · exact hMono (h.done x hx hxLeft)

/-- A countdown places what a scan of all that is left places. -/
theorem Tracks.run (h : c.Tracks edges nodes left) (hNodup : nodes.Nodup) (hTargets : ∀ e ∈ edges, e.target ∈ nodes)
    (steps : Nat) : (c.run edges steps).placed = c.placed ++ (arrange edges steps left).1 ∧
      (c.run edges steps).Tracks edges nodes (arrange edges steps left).2 := by
  induction steps generalizing c left with
  | zero => exact ⟨(List.append_nil _).symm, h⟩
  | succ steps ih =>
    have hLeast : least? (left.filter (isReady edges left)) = least? c.ready :=
      least?_congr fun x => List.mem_filter.trans (h.ready x).symm
    rw [Countdown.run, arrange, hLeast]
    cases hId : least? c.ready with
    | none => exact ⟨(List.append_nil _).symm, h⟩
    | some id =>
      obtain ⟨hPlaced, hRest⟩ := ih (h.place hNodup hTargets (least?_mem hId))
      refine ⟨?_, hRest⟩
      rw [hPlaced, Countdown.place, placed_foldl, append, List.append_assoc]
      rfl

/-- The next step counts off no edge that is not waited for: whenever it lowers a count, the count is positive. -/
def IsSafe (c : Countdown) (edges : List Edge) : Prop :=
  ∀ id before reader after, least? c.ready = some id → readers edges id = before ++ reader :: after →
    ∃ count, (before.foldl countOff (c.append id)).waiting.get? reader = some (count + 1)

theorem Tracks.isSafe (h : c.Tracks edges nodes left) (hNodup : nodes.Nodup)
    (hTargets : ∀ e ∈ edges, e.target ∈ nodes) : c.IsSafe edges := by
  intro id before reader after hId hReaders
  have hCovers := h.covers hNodup hTargets ((h.ready id).mp (least?_mem hId)).1
  rw [hReaders] at hCovers
  exact hCovers.positive

end

end Countdown

end StageGraph

end ShadeGraph
