import ShadeGraph.Proofs.Reachable
import ShadeGraph.Proofs.Soundness

/-!
# The edges of reachable designs

Loads restore edges without regard to types and cycles. What is left: in every reachable design the edges have
their ends, and no input is fed twice.
-/

namespace ShadeGraph

namespace StageGraph

variable {ν : Type} [NodeModel ν]

/-- A join takes away what feeds the input first. -/
theorem Wired.join {g g' : StageGraph ν} (h : g.Wired) {stage : Stage} {e : Edge} (hJoin : g.join stage e = .ok g') :
    g'.Wired := by
  obtain ⟨hRange, rfl⟩ := join_eq_ok_iff.mp hJoin
  have hTrimmed : Wired { g with edges := g.edges.filter (!·.feeds e.target e.input) } :=
    h.trims (.of_nodes List.filter_sublist fun _ => rfl)
  apply hTrimmed.append hRange
  intro f hEdge
  simpa using (List.mem_filter.mp hEdge).2

/-- Of the edges into an input, the one that is read is the only one. -/
theorem Wired.reading?_eq {g : StageGraph ν} (h : g.Wired) {e : Edge} (hEdge : e ∈ g.edges) :
    g.reading? e.target e.input = some e := by
  have hOnly : ∀ f ∈ g.edges, f.feeds e.target e.input = true → f = e := by
    intro f hMem hFeeds
    simp only [Edge.feeds, Bool.and_eq_true, decide_eq_true_eq] at hFeeds
    exact List.inj_on_of_nodup_map h.inputs_nodup hMem hEdge (by simp [hFeeds])
  cases hRead : g.reading? e.target e.input with
  | none =>
    have hNone := List.find?_eq_none.mp hRead e (List.mem_reverse.mpr hEdge)
    simp [Edge.feeds] at hNone
  | some f =>
    rw [reading?] at hRead
    have hFeeds := List.find?_some hRead
    have hMem := List.mem_reverse.mp (List.mem_of_find?_eq_some hRead)
    rw [hOnly f hMem hFeeds]

theorem Wired.reading?_eq_some_iff {g : StageGraph ν} (hWired : g.Wired) {id : NodeId} {port : Nat} {e : Edge} :
    g.reading? id port = some e ↔ e ∈ g.edges ∧ e.target = id ∧ e.input = port := by
  constructor
  · intro hReading
    have hFeeds := List.find?_some hReading
    simp only [Edge.feeds, Bool.and_eq_true, decide_eq_true_eq] at hFeeds
    exact ⟨List.mem_reverse.mp (List.mem_of_find?_eq_some hReading), hFeeds⟩
  · rintro ⟨hEdge, rfl, rfl⟩
    exact hWired.reading?_eq hEdge

end StageGraph

namespace Design

theorem Reachable.edited {d : Design StandardNode} (h : d.Reachable) {edits : List (Edit StandardNode)}
    (hEdits : ∀ edit ∈ edits, edit.IsWellFormed) : (d.edited edits).Reachable := by
  induction edits generalizing d with
  | nil => exact h
  | cons edit rest ih =>
    rw [List.forall_mem_cons] at hEdits
    rw [Design.edited, List.foldl_cons]
    refine ih ?_ hEdits.2
    split
    · rename_i hApply
      exact .edit edit hEdits.1 h hApply
    · exact h

theorem wired_apply {d d' : Design StandardNode} {edit : Edit StandardNode} (hWired : ∀ stage, (d.graph stage).Wired)
    (h : edit.apply d = .ok d') (stage : Stage) : (d'.graph stage).Wired := by
  rcases Edit.trims_or_connects (fun stage => (hWired stage).inRange) h stage with hTrims | ⟨e, -, hCheck, hGraph⟩
  · exact (hWired stage).trims hTrims
  · obtain ⟨hSound, hFree, -⟩ := StageGraph.checkEdge_eq_ok_iff.mp hCheck
    rw [hGraph]
    exact (hWired stage).append (StageGraph.inRange_of_isSound hSound) (StageGraph.incoming?_eq_none_iff.mp hFree)

theorem wired_join {d d' : Design StandardNode} {stage' : Stage} {e : Edge} (hWired : ∀ stage, (d.graph stage).Wired)
    (h : d.join stage' e = .ok d') (stage : Stage) : (d'.graph stage).Wired := by
  obtain ⟨g, hGraph, rfl⟩ := join_eq_ok_iff.mp h
  rw [graph_withGraph]
  split
  · rename_i hStage
    subst hStage
    exact (hWired stage).join hGraph
  · exact hWired stage

theorem wired_step {d d' : Design StandardNode} (hWired : ∀ stage, (d.graph stage).Wired) (h : Step d d')
    (stage : Stage) : (d'.graph stage).Wired := by
  cases h with
  | edit edit _ hApply => exact wired_apply hWired hApply stage
  | join stage' e _ hJoin => exact wired_join hWired hJoin stage

theorem isIndexed_step {d d' : Design StandardNode} (hWired : ∀ stage, (d.graph stage).Wired)
    (hIndexed : ∀ stage, ∀ e ∈ (d.graph stage).edges, e.IsIndexed) (h : Step d d') (stage : Stage) :
    ∀ e ∈ (d'.graph stage).edges, e.IsIndexed := by
  cases h with
  | edit edit hEdit hApply =>
    rcases Edit.trims_or_connects (fun stage => (hWired stage).inRange) hApply stage with hTrims | ⟨e, rfl, -, hGraph⟩
    · exact fun f hMem => hIndexed stage f (hTrims.edges.subset hMem)
    · rw [hGraph]
      exact List.forall_mem_append.mpr ⟨hIndexed stage, List.forall_mem_singleton.mpr hEdit⟩
  | join stage' e hEdge hJoin =>
    obtain ⟨g, hGraph, rfl⟩ := join_eq_ok_iff.mp hJoin
    obtain ⟨-, rfl⟩ := StageGraph.join_eq_ok_iff.mp hGraph
    rw [graph_withGraph]
    split
    · rename_i hStage
      subst hStage
      refine List.forall_mem_append.mpr ⟨fun f hMem => ?_, List.forall_mem_singleton.mpr hEdge⟩
      exact hIndexed stage f (List.mem_filter.mp hMem).1
    · exact hIndexed stage

theorem Reachable.wired_and_isIndexed {d : Design StandardNode} (h : d.Reachable) :
    (∀ stage, (d.graph stage).Wired) ∧ ∀ stage, ∀ e ∈ (d.graph stage).edges, e.IsIndexed := by
  refine h.induction (P := fun d => (∀ stage, (d.graph stage).Wired) ∧
    ∀ stage, ∀ e ∈ (d.graph stage).edges, e.IsIndexed) ?_ ?_
  · intro mode
    have hEdges (stage : Stage) : ((empty mode : Design StandardNode).graph stage).edges = [] := by
      simp [empty, graph, StageGraph.empty]
    exact ⟨fun stage => .of_edges_eq_nil (hEdges stage), fun stage => by simp [hEdges]⟩
  · rintro d d' ⟨hWired, hIndexed⟩ hStep
    exact ⟨wired_step hWired hStep, isIndexed_step hWired hIndexed hStep⟩

theorem Reachable.wired {d : Design StandardNode} (h : d.Reachable) (stage : Stage) : (d.graph stage).Wired :=
  h.wired_and_isIndexed.1 stage

end Design

end ShadeGraph
