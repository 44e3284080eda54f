import ShadeGraph.Proofs.Closure
import ShadeGraph.Proofs.Integrity

/-!
# Nodes that do not lead to the terminal

A node is dead if it is neither global nor in the closure of the terminal of its stage. Whatever is done to a dead
node, the shader stays the same: its text, its bindings and its diagnostics. A node that was just added is dead.
-/

namespace ShadeGraph

/-! ## Global nodes stay global -/

namespace StandardNode

theorem isGlobal_bind (mode : Mode) (stage : Stage) (n : StandardNode) :
    NodeModel.isGlobal (NodeModel.bind mode stage n) = NodeModel.isGlobal n := by
  cases n <;> rfl

theorem isGlobal_applyParam {n m : StandardNode} {name : String} {value : ParamValue}
    (h : NodeModel.applyParam n name value = .ok m) : NodeModel.isGlobal m = NodeModel.isGlobal n := by
  obtain ⟨slot, hSlot, -, hPut⟩ := exists_slot_of_applyParam h
  cases n with
  | output | formula => cases hSlot
  | _ =>
    obtain ⟨inner, -, rfl⟩ := List.mem_map.mp hSlot
    obtain ⟨_, -, rfl⟩ := ParamSlot.put_map_eq_ok_iff.mp hPut
    rfl

theorem isGlobal_named {d : Design StandardNode} {n m : StandardNode} (h : d.named n = .ok m) :
    NodeModel.isGlobal m = NodeModel.isGlobal n := by
  rw [Design.named] at h
  split at h
  · cases h
    rfl
  · dsimp only at h
    split at h
    · cases h
      rfl
    · rw [Except.mapError_eq_ok_iff] at h
      exact isGlobal_applyParam h

end StandardNode

/-! ## Changes at one node -/

namespace StageGraph

variable {ν : Type} [NodeModel ν]

/-- The second graph differs from the first at one node at most: in the node, or by edges of it that are gone. -/
structure DiffersAt (g g' : StageGraph ν) (id : NodeId) : Prop extends Trims g g' where
  placed : ∀ other, other ≠ id → g'.placed? other = g.placed? other
  kept : ∀ e ∈ g.edges, e.touches id = false → e ∈ g'.edges

namespace DiffersAt

variable {g g' : StageGraph ν} {id root : NodeId}

theorem erase (g : StageGraph ν) (id : NodeId) : g.DiffersAt (g.erase id) id where
  toTrims := .erase g id
  placed other hOther := by rw [placed?_erase, if_neg hOther]
  kept e hEdge hAway := List.mem_filter.mpr ⟨hEdge, by simp [hAway]⟩

theorem insert (hWired : g.Wired) (hNew : g.contains id = false) (n : PlacedNode ν) :
    g.DiffersAt (g.insert id n) id where
  toTrims := .insert hWired.inRange hNew n
  placed other hOther := by rw [placed?_insert, if_neg hOther]
  kept _ hEdge _ := hEdge

theorem modify (g : StageGraph ν) (id : NodeId) {f : PlacedNode ν → PlacedNode ν} (h : ∀ n, (f n).node = n.node) :
    g.DiffersAt (g.modify id f) id where
  toTrims := .modify g id h
  placed other hOther := by rw [placed?_modify, if_neg hOther]
  kept _ hEdge _ := hEdge

theorem pruneEdges (g : StageGraph ν) (id : NodeId) (f : PlacedNode ν → PlacedNode ν) :
    g.DiffersAt ((g.modify id f).pruneEdges id) id where
  toTrims := .pruneEdges g id f
  placed other hOther := (placed?_modify g id f other).trans (if_neg hOther)
  kept e hEdge hAway := List.mem_filter.mpr ⟨hEdge, by simp [hAway]⟩

/-- A node that does not lead to a root is at none of the edges that do. -/
theorem sameClosure (h : g.DiffersAt g' id) (hWired : g.Wired)
    (hDead : ¬Relation.ReflTransGen (Joined g.edges) id root) : g.SameClosure g' root := by
  refine ⟨hWired, hWired.trims h.toTrims, ?_, ?_⟩
  · rintro other hLive
    have hOther : other ≠ id := by
      rintro rfl
      exact hDead hLive
    rw [h.placed other hOther]
  · rintro e hLive
    constructor
    · exact fun hEdge => h.edges.subset hEdge
    · intro hEdge
      apply h.kept e hEdge
      simp only [Edge.touches, Bool.or_eq_false_iff, decide_eq_false_iff_not]
      constructor
      · rintro rfl
        exact hDead (.head ⟨e, hEdge, rfl, rfl⟩ hLive)
      · rintro rfl
        exact hDead hLive

end DiffersAt

end StageGraph

/-! ## Shaders -/

namespace Design

/-- A node that bears on no shader: it is not global, and nothing leads from it to the terminal. -/
structure Dead (d : Design StandardNode) (stage : Stage) (id : NodeId) : Prop where
  global : ∀ n, (d.graph stage).node? id = some n → NodeModel.isGlobal n = false
  apart : ¬Relation.ReflTransGen (StageGraph.Joined (d.graph stage).edges) id .output

variable {d : Design StandardNode} {stage : Stage} {id : NodeId}

/-- A number that is not in use is dead. -/
theorem Reachable.dead_of_new (h : d.Reachable) (hNew : (d.graph stage).contains id = false) : d.Dead stage id := by
  constructor
  · intro n hNode
    obtain ⟨placed, hPlaced, -⟩ := StageGraph.node?_eq_some_iff.mp hNode
    rw [StageGraph.contains_iff.mpr ⟨placed, hPlaced⟩] at hNew
    cases hNew
  · intro hPath
    have hPlaced := (h.wired stage).exists_placed_of_leadsTo (h.contains_output stage) hPath
    rw [StageGraph.contains_iff.mpr hPlaced] at hNew
    cases hNew

namespace Dead

/-- Shaders are made from what leads to the terminals and from global nodes, and the change is at neither. -/
theorem compile_withGraph (hDead : d.Dead stage id) (hWired : ∀ stage, (d.graph stage).Wired)
    {g : StageGraph StandardNode} (hDiffers : (d.graph stage).DiffersAt g id)
    (hAfter : ∀ n, g.node? id = some n → NodeModel.isGlobal n = false) :
    (d.withGraph stage g).compile = d.compile := by
  refine compile_congr rfl rfl ?_ ?_
  · intro stage'
    rw [graph_withGraph]
    split
    · rename_i hStage
      subst hStage
      exact hDiffers.sameClosure (hWired stage') hDead.apart
    · exact .refl (hWired stage')
  · intro stage' other n hGlobal
    rw [graph_withGraph]
    split
    · rename_i hStage
      subst hStage
      by_cases hOther : other = id
      · subst hOther
        constructor
        · intro hNode
          rw [hAfter n hNode] at hGlobal
          cases hGlobal
        · intro hNode
          rw [hDead.global n hNode] at hGlobal
          cases hGlobal
      · rw [StageGraph.node?, StageGraph.node?, hDiffers.placed other hOther]
    · exact Iff.rfl

theorem compile_remove (hDead : d.Dead stage id) (hWired : ∀ stage, (d.graph stage).Wired) :
    (d.withGraph stage ((d.graph stage).erase id)).compile = d.compile := by
  apply hDead.compile_withGraph hWired (.erase _ id)
  intro n hNode
  rw [StageGraph.node?, StageGraph.placed?_erase, if_pos rfl] at hNode
  cases hNode

theorem compile_modify (hDead : d.Dead stage id) (hWired : ∀ stage, (d.graph stage).Wired)
    {f : PlacedNode StandardNode → PlacedNode StandardNode} (h : ∀ n, (f n).node = n.node) :
    (d.withGraph stage ((d.graph stage).modify id f)).compile = d.compile := by
  apply hDead.compile_withGraph hWired (.modify _ id h)
  intro n hNode
  rw [StageGraph.node?_modify_eq _ _ h] at hNode
  exact hDead.global n hNode

theorem compile_setParam (hDead : d.Dead stage id) (hWired : ∀ stage, (d.graph stage).Wired) {name : String}
    {value : ParamValue} {d' : Design StandardNode} (h : d.setParam stage id name value = .ok d') :
    d'.compile = d.compile := by
  obtain ⟨n, hNode, m, hApply, rfl⟩ := setParam_eq_ok_iff.mp h
  apply hDead.compile_withGraph hWired (.pruneEdges _ id _)
  intro m' hNew
  have hBound : m' = NodeModel.bind d.mode stage m := by
    obtain ⟨placed, hPlaced, rfl⟩ := StageGraph.node?_eq_some_iff.mp hNew
    have hModified := (StageGraph.placed?_modify _ id _ id).symm.trans hPlaced
    rw [if_pos rfl, Option.map_eq_some_iff] at hModified
    obtain ⟨_, -, rfl⟩ := hModified
    rfl
  rw [hBound, StandardNode.isGlobal_bind, StandardNode.isGlobal_applyParam hApply]
  exact hDead.global n hNode

end Dead

theorem Reachable.compile_add (hReachable : d.Reachable) {position : Position} {n : StandardNode}
    {d' : Design StandardNode} (hGlobal : NodeModel.isGlobal n = false) (h : d.add stage id position n = .ok d') :
    d'.compile = d.compile := by
  obtain ⟨-, hNew, -, m, hNamed, rfl⟩ := add_eq_ok_iff.mp h
  apply (hReachable.dead_of_new hNew).compile_withGraph hReachable.wired
    (.insert (hReachable.wired stage) hNew _)
  intro n' hNode
  rw [StageGraph.node?, StageGraph.placed?_insert, if_pos rfl] at hNode
  cases hNode
  rw [StandardNode.isGlobal_named hNamed, StandardNode.isGlobal_bind]
  exact hGlobal

/-- A node that is neither global nor in the closure of the terminal of its stage may be removed, moved, or given
other parameters and defaults, and any node but a global one may be added: the shader stays the same. -/
theorem compile_ignores_dead_nodes {d : Design StandardNode} (hReachable : d.Reachable) (stage : Stage) :
    (∃ closure, (d.graph stage).closure .output = .ok closure ∧
      ∀ id n, d.node? stage id = some n → NodeModel.isGlobal n = false → id ∉ closure →
        (∃ d', d.remove stage id = .ok d' ∧ d'.compile = d.compile) ∧
        (∀ position, ∃ d', d.move stage id position = .ok d' ∧ d'.compile = d.compile) ∧
        (∀ name value d', d.setParam stage id name value = .ok d' → d'.compile = d.compile) ∧
        (∀ port value d', d.setDefault stage id port value = .ok d' → d'.compile = d.compile) ∧
        ∀ port, (d.clearDefault stage id port).compile = d.compile) ∧
    ∀ id position n d', NodeModel.isGlobal n = false → d.add stage id position n = .ok d' →
      d'.compile = d.compile := by
  have hWired := hReachable.wired
  refine ⟨⟨_, (hWired stage).closure_eq .output, ?_⟩, fun _ _ _ _ => hReachable.compile_add⟩
  intro id n hNode hGlobal hOutside
  have hDead : d.Dead stage id := by
    refine ⟨fun m hSame => ?_, fun hPath => hOutside ?_⟩
    · cases hNode.symm.trans hSame
      exact hGlobal
    · exact (hWired stage).mem_ancestry_iff.mpr ⟨hReachable.contains_output stage, hPath⟩
  have hUser : id ≠ .output := by
    rintro rfl
    exact hDead.apart .refl
  refine ⟨?_, ?_, ?_, ?_, ?_⟩
  · exact ⟨_, remove_eq_ok_iff.mpr ⟨hUser, ⟨n, hNode⟩, rfl⟩, hDead.compile_remove hWired⟩
  · exact fun position => ⟨_, move_eq_ok_iff.mpr ⟨⟨n, hNode⟩, rfl⟩, hDead.compile_modify hWired fun _ => rfl⟩
  · exact fun name value d' hSet => hDead.compile_setParam hWired hSet
  · intro port value d' hSet
    obtain ⟨-, -, rfl⟩ := setDefault_eq_ok_iff.mp hSet
    exact hDead.compile_modify hWired fun _ => rfl
  · exact fun port => hDead.compile_modify hWired fun _ => rfl

/-- A constant feeds the terminal. A sum of the constant and a uniform feeds nothing. -/
def littered : Design StandardNode :=
  (Design.empty .spatial).edited
    [.add .fragment 2 .origin (.constant (.scalar .one)),
     .add .fragment 3 .origin (.uniform (.value { type := .scalar, name := "gloss" })),
     .add .fragment 4 .origin (.operator (.scalar .add)),
     .connect .fragment ⟨2, 0, 0, 1⟩, .connect .fragment ⟨2, 0, 4, 0⟩, .connect .fragment ⟨3, 0, 4, 1⟩]

theorem compile_ignores_dead_nodes_littered :
    (littered.graph .fragment).closure .output = .ok [0, 2] ∧
    (∃ d', littered.setParam .fragment 3 uniformNameParam (.text "sheen") = .ok d' ∧
      d'.uniformNames none ≠ littered.uniformNames none ∧ d'.compile = littered.compile) ∧
    ∃ d', littered.remove .fragment 4 = .ok d' ∧
      (d'.graph .fragment).edges.length < (littered.graph .fragment).edges.length ∧ d'.compile = littered.compile := by
  have hReachable : littered.Reachable := .edited (.new .spatial) (by decide)
  have hClosure : (littered.graph .fragment).closure .output = .ok [0, 2] := by rfl
  obtain ⟨⟨closure, hSame, hDead⟩, -⟩ := compile_ignores_dead_nodes hReachable .fragment
  cases hSame.symm.trans hClosure
  obtain ⟨-, -, hSet, -⟩ := hDead 3 _ rfl rfl (by decide)
  obtain ⟨⟨d', hRemove, hCompile⟩, -⟩ := hDead 4 _ rfl rfl (by decide)
  refine ⟨hClosure, ⟨_, rfl, by decide, hSet uniformNameParam (.text "sheen") _ rfl⟩, d', hRemove, ?_, hCompile⟩
  cases hRemove
  decide

end Design

end ShadeGraph
