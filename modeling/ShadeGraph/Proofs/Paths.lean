import Mathlib.Logic.Relation
import ShadeGraph.Graph.Connect

/-!
# Paths along edges

A search from a stack of nodes finds the goal exactly if there is a path to it, whatever cycles the graph has. The
search for a cycle is one such search, so an edge that is let through leaves a graph without cycles without cycles.
-/

namespace ShadeGraph.StageGraph

def Joined (edges : List Edge) (a b : NodeId) : Prop := ∃ e ∈ edges, e.source = a ∧ e.target = b

/-- No path leads from a node back to it. -/
def Acyclic (edges : List Edge) : Prop := ∀ id, ¬Relation.TransGen (Joined edges) id id

theorem mem_readers {edges : List Edge} {a b : NodeId} : b ∈ readers edges a ↔ Joined edges a b := by
  simp [readers, Joined, and_assoc]

theorem mem_sources {edges : List Edge} {a b : NodeId} : a ∈ sources edges b ↔ Joined edges a b := by
  simp only [sources, Joined, List.mem_map, List.mem_filter, decide_eq_true_eq, and_assoc]
  exact exists_congr fun e => and_congr_right fun _ => and_comm

theorem sources_subset (edges : List Edge) (id : NodeId) : sources edges id ⊆ edges.map Edge.source := by
  intro a hMem
  obtain ⟨e, hEdge, rfl, -⟩ := mem_sources.mp hMem
  exact List.mem_map_of_mem hEdge

/-! ## Search -/

section

variable {edges : List Edge} {goal : NodeId}

theorem exists_path_of_search {steps : Nat} {visited stack : List NodeId}
    (h : search edges goal steps visited stack = true) :
    ∃ id ∈ stack, Relation.ReflTransGen (Joined edges) id goal := by
  induction steps generalizing visited stack with
  | zero => cases h
  | succ steps ih =>
    cases stack with
    | nil => cases h
    | cons id rest =>
      rw [search] at h
      split at h
      · rename_i hGoal
        exact ⟨id, List.mem_cons_self, hGoal ▸ .refl⟩
      · split at h
        · obtain ⟨x, hMem, hPath⟩ := ih h
          exact ⟨x, List.mem_cons_of_mem id hMem, hPath⟩
        · obtain ⟨x, hMem, hPath⟩ := ih h
          rcases List.mem_append.mp hMem with hReader | hRest
          · exact ⟨id, List.mem_cons_self, .head (mem_readers.mp (List.mem_reverse.mp hReader)) hPath⟩
          · exact ⟨x, List.mem_cons_of_mem id hRest, hPath⟩

/-- How many edges start at what was not visited. With the length of the stack it bounds the steps that are left. -/
def unfollowed (edges : List Edge) (visited : List NodeId) : Nat :=
  edges.countP fun e => !visited.contains e.source

theorem unfollowed_eq_add {visited : List NodeId} {id : NodeId} (hNew : id ∉ visited) (edges : List Edge) :
    unfollowed edges visited = unfollowed edges (id :: visited) + (readers edges id).length := by
  induction edges with
  | nil => rfl
  | cons e rest ih =>
    simp only [unfollowed, List.countP_cons, readers, List.length_map, List.filter_cons] at ih ⊢
    by_cases hFrom : e.source = id
    · simp only [hFrom, List.contains_eq_mem, hNew, List.mem_cons_self, decide_true, decide_false, Bool.not_true,
        Bool.not_false, if_true, Bool.false_eq_true, if_false, List.length_cons]
      simp only [List.contains_eq_mem] at ih
      omega
    · simp only [List.contains_cons, hFrom, decide_false, Bool.false_eq_true, if_false, beq_eq_false_iff_ne.mpr hFrom,
        Bool.false_or] at ih ⊢
      omega

/-- What was visited is not the goal, and what reads from it was visited or is on the stack. -/
structure Explores (edges : List Edge) (goal : NodeId) (visited stack : List NodeId) : Prop where
  goal_not_mem : goal ∉ visited
  readers : ∀ id ∈ visited, ∀ reader, Joined edges id reader → reader ∈ visited ∨ reader ∈ stack

theorem Explores.skip {visited rest : List NodeId} {id : NodeId} (h : Explores edges goal visited (id :: rest))
    (hOld : id ∈ visited) : Explores edges goal visited rest := by
  refine ⟨h.goal_not_mem, fun x hx reader hStep => ?_⟩
  rcases h.readers x hx reader hStep with hMem | hMem
  · exact .inl hMem
  · rcases List.mem_cons.mp hMem with rfl | hRest
    · exact .inl hOld
    · exact .inr hRest

theorem Explores.visit {visited rest : List NodeId} {id : NodeId} (h : Explores edges goal visited (id :: rest))
    (hOther : goal ≠ id) : Explores edges goal (id :: visited) ((StageGraph.readers edges id).reverse ++ rest) := by
  refine ⟨?_, fun x hx reader hStep => ?_⟩
  · rw [List.mem_cons, not_or]
    exact ⟨hOther, h.goal_not_mem⟩
  · rcases List.mem_cons.mp hx with rfl | hx
    · exact .inr (List.mem_append_left _ (List.mem_reverse.mpr (mem_readers.mpr hStep)))
    · rcases h.readers x hx reader hStep with hMem | hMem
      · exact .inl (List.mem_cons_of_mem id hMem)
      · rcases List.mem_cons.mp hMem with rfl | hRest
        · exact .inl List.mem_cons_self
        · exact .inr (List.mem_append_right _ hRest)

theorem Explores.mem_of_path {closed : List NodeId} (h : Explores edges goal closed []) {a b : NodeId} (ha : a ∈ closed)
    (hPath : Relation.ReflTransGen (Joined edges) a b) : b ∈ closed := by
  induction hPath with
  | refl => exact ha
  | tail _ hStep ih => exact (h.readers _ ih _ hStep).resolve_right List.not_mem_nil

/-- A search in vain ends with all that can be reached from the stack, and the goal is not among it. -/
theorem exists_closed_of_search {steps : Nat} {visited stack : List NodeId}
    (hExplores : Explores edges goal visited stack) (hSteps : stack.length + unfollowed edges visited ≤ steps)
    (h : search edges goal steps visited stack = false) :
    ∃ closed, Explores edges goal closed [] ∧ visited ⊆ closed ∧ stack ⊆ closed := by
  induction steps generalizing visited stack with
  | zero =>
    obtain rfl : stack = [] := List.length_eq_zero_iff.mp (by omega)
    exact ⟨visited, hExplores, List.Subset.refl _, List.nil_subset _⟩
  | succ steps ih =>
    cases stack with
    | nil => exact ⟨visited, hExplores, List.Subset.refl _, List.nil_subset _⟩
    | cons id rest =>
      rw [List.length_cons] at hSteps
      rw [search] at h
      split at h
      · cases h
      · rename_i hOther
        split at h
        · rename_i hOld
          have hVisited : id ∈ visited := List.contains_iff_mem.mp hOld
          obtain ⟨closed, hClosed, hSubset, hRest⟩ := ih (hExplores.skip hVisited) (by omega) h
          exact ⟨closed, hClosed, hSubset, List.cons_subset.mpr ⟨hSubset hVisited, hRest⟩⟩
        · rename_i hNew
          have hFresh : id ∉ visited := fun hMem => hNew (List.contains_iff_mem.mpr hMem)
          -- The stack grows by the readers, and their edges are followed now.
          have hFewer : ((readers edges id).reverse ++ rest).length + unfollowed edges (id :: visited) ≤ steps := by
            have hCount := unfollowed_eq_add hFresh edges
            rw [List.length_append, List.length_reverse]
            omega
          obtain ⟨closed, hClosed, hSubset, hStack⟩ := ih (hExplores.visit (Ne.symm hOther)) hFewer h
          obtain ⟨hId, hVisited⟩ := List.cons_subset.mp hSubset
          exact ⟨closed, hClosed, hVisited, List.cons_subset.mpr ⟨hId, (List.append_subset.mp hStack).2⟩⟩

/-- The search is complete, whatever cycles there are. -/
theorem anyLeadsTo_iff {starts : List NodeId} :
    anyLeadsTo edges starts goal = true ↔ ∃ id ∈ starts, Relation.ReflTransGen (Joined edges) id goal := by
  constructor
  · intro h
    obtain ⟨id, hMem, hPath⟩ := exists_path_of_search h
    exact ⟨id, List.mem_reverse.mp hMem, hPath⟩
  · rintro ⟨id, hMem, hPath⟩
    have hStart : Explores edges goal [] starts.reverse := ⟨List.not_mem_nil, fun x hx => absurd hx List.not_mem_nil⟩
    have hSteps : starts.reverse.length + unfollowed edges [] ≤ starts.length + edges.length := by
      rw [List.length_reverse]
      exact Nat.add_le_add_left List.countP_le_length _
    cases hVain : anyLeadsTo edges starts goal with
    | true => rfl
    | false =>
      obtain ⟨closed, hClosed, -, hStarts⟩ := exists_closed_of_search hStart hSteps hVain
      have hGoal : goal ∈ closed := hClosed.mem_of_path (hStarts (List.mem_reverse.mpr hMem)) hPath
      exact absurd hGoal hClosed.goal_not_mem

end

/-- The search answers whether the target is the source or leads to it. -/
theorem closesCycle_iff {ν : Type} {g : StageGraph ν} {source target : NodeId} :
    g.closesCycle source target = true ↔ Relation.ReflTransGen (Joined g.edges) target source := by
  simp only [closesCycle, Bool.or_eq_true, decide_eq_true_eq, anyLeadsTo_iff, List.mem_singleton, exists_eq_left]
  exact or_iff_right_of_imp fun hSame => hSame ▸ .refl

theorem Joined.mono {edges edges' : List Edge} (h : edges ⊆ edges') {a b : NodeId} (hJoined : Joined edges a b) :
    Joined edges' a b := by
  obtain ⟨e, hEdge, hEnds⟩ := hJoined
  exact ⟨e, h hEdge, hEnds⟩

theorem Acyclic.subset {edges edges' : List Edge} (h : Acyclic edges') (hSubset : edges ⊆ edges') :
    Acyclic edges := by
  have hJoined : Joined edges ≤ Joined edges' := fun _ _ => Joined.mono hSubset
  exact fun id hCycle => h id (Relation.TransGen.mono hJoined id id hCycle)

/-- A path that may use one more edge either does not, or it goes to its source and on from its target. -/
theorem transGen_append_edge {edges : List Edge} {e : Edge} {a b : NodeId}
    (h : Relation.TransGen (Joined (edges ++ [e])) a b) :
    Relation.TransGen (Joined edges) a b ∨
      Relation.ReflTransGen (Joined edges) a e.source ∧ Relation.ReflTransGen (Joined edges) e.target b := by
  induction h with
  | single hStep =>
    obtain ⟨f, hEdge, rfl, rfl⟩ := hStep
    rcases List.mem_append.mp hEdge with hOld | hNew
    · exact .inl (.single ⟨f, hOld, rfl, rfl⟩)
    · rw [List.mem_singleton] at hNew
      subst hNew
      exact .inr ⟨.refl, .refl⟩
  | tail _ hStep ih =>
    obtain ⟨f, hEdge, rfl, rfl⟩ := hStep
    rcases List.mem_append.mp hEdge with hOld | hNew
    · have hLast : Joined edges f.source f.target := ⟨f, hOld, rfl, rfl⟩
      exact ih.imp (fun hPath => hPath.tail hLast) fun hPaths => ⟨hPaths.1, hPaths.2.tail hLast⟩
    · rw [List.mem_singleton] at hNew
      subst hNew
      right
      rcases ih with hPath | hPaths
      · exact ⟨hPath.to_reflTransGen, .refl⟩
      · exact ⟨hPaths.1, .refl⟩

theorem Acyclic.append {edges : List Edge} {e : Edge} (h : Acyclic edges)
    (hOpen : ¬Relation.ReflTransGen (Joined edges) e.target e.source) : Acyclic (edges ++ [e]) := by
  intro id hCycle
  rcases transGen_append_edge hCycle with hOld | ⟨hTo, hFrom⟩
  · exact h id hOld
  · exact hOpen (hFrom.trans hTo)

theorem acyclic_append_iff {edges : List Edge} {e : Edge} (h : Acyclic edges) :
    Acyclic (edges ++ [e]) ↔ ¬Relation.ReflTransGen (Joined edges) e.target e.source := by
  refine ⟨fun hAcyclic hPath => ?_, h.append⟩
  have hNew : Joined (edges ++ [e]) e.source e.target :=
    ⟨e, List.mem_append_right _ (List.mem_singleton_self e), rfl, rfl⟩
  have hBack : Relation.ReflTransGen (Joined (edges ++ [e])) e.target e.source :=
    Relation.ReflTransGen.mono (fun _ _ => Joined.mono (List.subset_append_left _ _)) _ _ hPath
  exact hAcyclic e.source (.head' hNew hBack)

end ShadeGraph.StageGraph
