import Mathlib.Data.List.Nodup
import ShadeGraph.Proofs.Edits
import ShadeGraph.Proofs.Paths
import ShadeGraph.Proofs.Standard

/-!
# Edits keep the graphs sound

An edit drops edges or adds one that passed the checks. An edge that stays either was checked again or has
the ends it had, so along every run of edits the edges have their ends, their types fit, no input is fed
twice, and there is no cycle.
-/

namespace ShadeGraph

variable {ν : Type}

namespace Design

/-- The design after a run of edits; an edit that is refused changes nothing. -/
def edited [NodeModel ν] (d : Design ν) (edits : List (Edit ν)) : Design ν :=
  edits.foldl (fun d edit => match edit.apply d with
    | .ok d' => d'
    | .error _ => d) d

theorem edited_induction [NodeModel ν] {P : Design ν → Prop}
    (hEdit : ∀ d d' edit, P d → Edit.apply d edit = .ok d' → P d') {d : Design ν} (hStart : P d)
    (edits : List (Edit ν)) : P (d.edited edits) := by
  induction edits generalizing d with
  | nil => exact hStart
  | cons edit rest ih =>
    rw [edited, List.foldl_cons]
    apply ih
    split
    · rename_i d' hApply
      exact hEdit d d' edit hStart hApply
    · exact hStart

end Design

namespace StageGraph

/-- `g'` has some of the edges of `g`, and each of them is sound or has the ends it had. -/
structure Trims [NodeModel ν] (g g' : StageGraph ν) : Prop where
  edges : g'.edges.Sublist g.edges
  ends : ∀ e ∈ g'.edges, g'.isSound e = true ∨
    (g'.node? e.source = g.node? e.source ∧ g'.node? e.target = g.node? e.target)

namespace Trims

variable [NodeModel ν]

theorem of_nodes {g g' : StageGraph ν} (hEdges : g'.edges.Sublist g.edges) (hNodes : ∀ id, g'.node? id = g.node? id) :
    g.Trims g' :=
  ⟨hEdges, fun e _ => .inr ⟨hNodes e.source, hNodes e.target⟩⟩

theorem refl (g : StageGraph ν) : g.Trims g := of_nodes (List.Sublist.refl _) fun _ => rfl

/-- A new node is at no edge. -/
theorem insert {g : StageGraph ν} {id : NodeId} (hRange : ∀ e ∈ g.edges, g.inRange e = true)
    (hNew : g.contains id = false) (n : PlacedNode ν) : g.Trims (g.insert id n) := by
  have hOther : ∀ id' m, g.node? id' = some m → id' ≠ id := by
    rintro id' m hNode rfl
    obtain ⟨placed, hPlaced, -⟩ := node?_eq_some_iff.mp hNode
    rw [contains_iff.mpr ⟨placed, hPlaced⟩] at hNew
    cases hNew
  refine ⟨List.Sublist.refl _, fun e hEdge => .inr ?_⟩
  obtain ⟨⟨source, hSource⟩, target, hTarget⟩ := exists_nodes_of_inRange (hRange e hEdge)
  exact ⟨node?_insert_of_ne g n (hOther _ source hSource), node?_insert_of_ne g n (hOther _ target hTarget)⟩

theorem erase (g : StageGraph ν) (id : NodeId) : g.Trims (g.erase id) := by
  refine ⟨List.filter_sublist, fun e hEdge => .inr ?_⟩
  have hAway := (List.mem_filter.mp hEdge).2
  simp only [Edge.touches, Bool.not_eq_true', Bool.or_eq_false_iff, decide_eq_false_iff_not] at hAway
  exact ⟨node?_erase_of_ne g hAway.1, node?_erase_of_ne g hAway.2⟩

theorem disconnect (g : StageGraph ν) (e : Edge) : g.Trims (g.disconnect e) :=
  of_nodes List.erase_sublist fun _ => rfl

theorem modify (g : StageGraph ν) (id : NodeId) {f : PlacedNode ν → PlacedNode ν} (h : ∀ n, (f n).node = n.node) :
    g.Trims (g.modify id f) :=
  of_nodes (List.Sublist.refl _) (node?_modify_eq g id h)

/-- The edges at a node that changed are checked again. -/
theorem pruneEdges (g : StageGraph ν) (id : NodeId) (f : PlacedNode ν → PlacedNode ν) :
    g.Trims ((g.modify id f).pruneEdges id) := by
  refine ⟨List.filter_sublist, fun e hEdge => ?_⟩
  have hKept := (List.mem_filter.mp hEdge).2
  rw [Bool.or_eq_true] at hKept
  rcases hKept with hAway | hSound
  · right
    simp only [Edge.touches, Bool.not_eq_true', Bool.or_eq_false_iff, decide_eq_false_iff_not] at hAway
    exact ⟨node?_modify_of_ne g f hAway.1, node?_modify_of_ne g f hAway.2⟩
  · exact .inl hSound

/-- The edges that stay when the mode changes are at nodes that do not follow it. -/
theorem rebind (g : StageGraph StandardNode) (mode : Mode) (stage : Stage) :
    g.Trims (Design.rebind g mode stage) := by
  have hNode : ∀ id, (g.node? id).any Design.isBuiltin = false →
      (Design.rebind g mode stage).node? id = g.node? id := by
    intro id hStays
    have hPlaced : (Design.rebind g mode stage).placed? id =
        (g.placed? id).map fun n => { n with node := NodeModel.bind mode stage n.node } :=
      Table.get?_mapValues g.nodes _ id
    rw [node?, hPlaced, node?]
    rw [node?] at hStays
    cases hGet : g.placed? id with
    | none => rfl
    | some n =>
      rw [hGet] at hStays
      simpa using StandardNode.bind_of_not_isBuiltin hStays mode stage
  refine ⟨List.filter_sublist, fun e hEdge => .inr ?_⟩
  have hStays := (List.mem_filter.mp hEdge).2
  simp only [Bool.and_eq_true, Bool.not_eq_true'] at hStays
  exact ⟨hNode _ hStays.1, hNode _ hStays.2⟩

end Trims

theorem inputs_nodup_append_iff {edges : List Edge} {e : Edge} (h : (edges.map fun e => (e.target, e.input)).Nodup) :
    ((edges ++ [e]).map fun e => (e.target, e.input)).Nodup ↔ ∀ f ∈ edges, f.feeds e.target e.input = false := by
  rw [List.map_append, List.map_singleton, List.nodup_append]
  constructor
  · rintro ⟨-, -, hApart⟩ f hEdge
    simpa [Edge.feeds] using hApart _ (List.mem_map_of_mem hEdge) _ (List.mem_singleton_self _)
  · intro hFree
    refine ⟨h, List.nodup_singleton _, ?_⟩
    intro k hOld k' hNew hSame
    obtain ⟨f, hEdge, rfl⟩ := List.mem_map.mp hOld
    rw [List.mem_singleton.mp hNew, Prod.mk.injEq] at hSame
    simpa [Edge.feeds, hSame] using hFree f hEdge

/-- Every edge has both its ends, and no input is fed twice. -/
structure Wired [NodeModel ν] (g : StageGraph ν) : Prop where
  inRange : ∀ e ∈ g.edges, g.inRange e = true
  inputs_nodup : (g.edges.map fun e => (e.target, e.input)).Nodup

namespace Wired

variable [NodeModel ν]

theorem of_edges_eq_nil {g : StageGraph ν} (h : g.edges = []) : g.Wired :=
  ⟨by simp [h], by simp [h]⟩

theorem trims {g g' : StageGraph ν} (h : g.Wired) (hTrims : g.Trims g') : g'.Wired where
  inRange e hEdge := by
    rcases hTrims.ends e hEdge with hChecked | ⟨hSource, hTarget⟩
    · exact inRange_of_isSound hChecked
    · rw [inRange_congr hSource hTarget]
      exact h.inRange e (hTrims.edges.subset hEdge)
  inputs_nodup := h.inputs_nodup.sublist (hTrims.edges.map _)

theorem append {g : StageGraph ν} (h : g.Wired) {e : Edge} (hRange : g.inRange e = true)
    (hFree : ∀ f ∈ g.edges, f.feeds e.target e.input = false) : Wired { g with edges := g.edges ++ [e] } := by
  refine ⟨?_, ?_⟩
  · intro f hEdge
    rcases List.mem_append.mp hEdge with hOld | hNew
    · exact h.inRange f hOld
    · rw [List.mem_singleton.mp hNew]
      exact hRange
  · exact (inputs_nodup_append_iff h.inputs_nodup).mpr hFree

end Wired

/-- What every run of edits keeps of a graph. -/
structure Sound [NodeModel ν] (g : StageGraph ν) : Prop extends Wired g where
  isSound : ∀ e ∈ g.edges, g.isSound e = true
  acyclic : Acyclic g.edges

namespace Sound

variable [NodeModel ν]

theorem of_edges_eq_nil {g : StageGraph ν} (h : g.edges = []) : g.Sound := by
  refine ⟨.of_edges_eq_nil h, by simp [h], ?_⟩
  rw [h]
  intro id hCycle
  obtain ⟨_, ⟨e, hEdge, -⟩, -⟩ := Relation.TransGen.head'_iff.mp hCycle
  exact List.not_mem_nil hEdge

theorem trims {g g' : StageGraph ν} (h : g.Sound) (hTrims : g.Trims g') : g'.Sound where
  toWired := h.toWired.trims hTrims
  isSound e hEdge := by
    rcases hTrims.ends e hEdge with hChecked | ⟨hSource, hTarget⟩
    · exact hChecked
    · rw [isSound_congr hSource hTarget]
      exact h.isSound e (hTrims.edges.subset hEdge)
  acyclic := h.acyclic.subset hTrims.edges.subset

theorem connect {g : StageGraph ν} (h : g.Sound) {stage : Stage} {e : Edge}
    (hCheck : g.checkEdge stage e = .ok ()) : Sound { g with edges := g.edges ++ [e] } := by
  obtain ⟨hSound, hFree, hOpen⟩ := checkEdge_eq_ok_iff.mp hCheck
  refine ⟨h.toWired.append (inRange_of_isSound hSound) (incoming?_eq_none_iff.mp hFree), ?_, ?_⟩
  · intro f hEdge
    rcases List.mem_append.mp hEdge with hOld | hNew
    · exact h.isSound f hOld
    · rw [List.mem_singleton.mp hNew]
      exact hSound
  · apply h.acyclic.append
    intro hPath
    rw [closesCycle_iff.mpr hPath] at hOpen
    cases hOpen

end Sound

end StageGraph

open StageGraph in
/-- What an edit does to the edges of a stage: it drops some or adds one that passes the checks. -/
theorem Edit.trims_or_connects {d d' : Design StandardNode} {edit : Edit StandardNode}
    (hRange : ∀ stage, ∀ e ∈ (d.graph stage).edges, (d.graph stage).inRange e = true)
    (h : edit.apply d = .ok d') (stage : Stage) :
    (d.graph stage).Trims (d'.graph stage) ∨
      ∃ e, edit = .connect stage e ∧ (d.graph stage).checkEdge stage e = .ok () ∧
        d'.graph stage = { d.graph stage with edges := (d.graph stage).edges ++ [e] } := by
  -- most edits change one stage and trim its edges there
  have hOnly : ∀ {stage' g}, (d.graph stage').Trims g → (d.graph stage).Trims ((d.withGraph stage' g).graph stage) := by
    intro stage' g hTrims
    rw [Design.graph_withGraph]
    split
    · rename_i hStage
      exact hStage ▸ hTrims
    · exact Trims.refl _
  cases edit with
  | setMode mode =>
    cases h
    left
    rw [Design.setMode]
    split
    · exact Trims.refl _
    · simpa [Design.graph] using Trims.rebind (d.graph stage) mode stage
  | add stage' id position n =>
    obtain ⟨-, hNew, -, m, -, rfl⟩ := Design.add_eq_ok_iff.mp h
    exact .inl (hOnly (Trims.insert (hRange stage') hNew _))
  | remove stage' id =>
    obtain ⟨-, -, rfl⟩ := Design.remove_eq_ok_iff.mp h
    exact .inl (hOnly (Trims.erase _ id))
  | move stage' id position =>
    obtain ⟨-, rfl⟩ := Design.move_eq_ok_iff.mp h
    exact .inl (hOnly (Trims.modify _ id fun _ => rfl))
  | setParam stage' id name value =>
    obtain ⟨n, -, m, -, rfl⟩ := Design.setParam_eq_ok_iff.mp h
    exact .inl (hOnly (Trims.pruneEdges _ id _))
  | setDefault stage' id port value =>
    obtain ⟨-, -, rfl⟩ := Design.setDefault_eq_ok_iff.mp h
    exact .inl (hOnly (Trims.modify _ id fun _ => rfl))
  | clearDefault stage' id port =>
    cases h
    exact .inl (hOnly (Trims.modify _ id fun _ => rfl))
  | connect stage' e =>
    obtain ⟨g, hConnect, rfl⟩ := Design.connect_eq_ok_iff.mp h
    obtain ⟨hCheck, rfl⟩ := connect_eq_ok_iff.mp hConnect
    rw [Design.graph_withGraph]
    split
    · rename_i hStage
      subst hStage
      exact .inr ⟨e, rfl, hCheck, rfl⟩
    · exact .inl (Trims.refl _)
  | disconnect stage' e =>
    cases h
    exact .inl (hOnly (Trims.disconnect _ e))
  | setOption group option =>
    obtain ⟨-, rfl⟩ := Design.setOption_eq_ok_iff.mp h
    exact .inl (Trims.refl _)
  | clearOption group =>
    cases h
    exact .inl (Trims.refl _)
  | setFlag flag on =>
    obtain ⟨-, rfl⟩ := Design.setFlag_eq_ok_iff.mp h
    exact .inl (Trims.refl _)
  | scroll offset =>
    cases h
    exact .inl (Trims.refl _)

namespace Design

theorem sound_apply {d d' : Design StandardNode} {edit : Edit StandardNode} (hSound : ∀ stage, (d.graph stage).Sound)
    (h : edit.apply d = .ok d') (stage : Stage) : (d'.graph stage).Sound := by
  rcases Edit.trims_or_connects (fun stage => (hSound stage).inRange) h stage with hTrims | ⟨e, -, hCheck, hGraph⟩
  · exact (hSound stage).trims hTrims
  · rw [hGraph]
    exact (hSound stage).connect hCheck

theorem sound_edited (mode : Mode) (edits : List (Edit StandardNode)) (stage : Stage) :
    (((empty mode : Design StandardNode).edited edits).graph stage).Sound := by
  refine edited_induction (P := fun d => ∀ stage, (d.graph stage).Sound) ?_ ?_ edits stage
  · exact fun d d' edit hSound h => sound_apply hSound h
  · intro stage
    apply StageGraph.Sound.of_edges_eq_nil
    simp [empty, graph, StageGraph.empty]

end Design

namespace StageGraph

theorem exists_ports_of_inRange [NodeModel ν] {g : StageGraph ν} {e : Edge} (h : g.inRange e = true) :
    ∃ source target, g.node? e.source = some source ∧ g.node? e.target = some target ∧
      e.output < (NodeModel.outputs source).length ∧ e.input < (NodeModel.inputs target).length := by
  obtain ⟨⟨type, hType⟩, p, hPort⟩ := inRange_iff.mp h
  obtain ⟨source, hSource, q, hOutput, -⟩ := outputType?_eq_some_iff.mp hType
  obtain ⟨target, hTarget, hInput⟩ := inputPort?_eq_some_iff.mp hPort
  obtain ⟨hOutputLt, -⟩ := List.getElem?_eq_some_iff.mp hOutput
  obtain ⟨hInputLt, -⟩ := List.getElem?_eq_some_iff.mp hInput
  exact ⟨source, target, hSource, hTarget, hOutputLt, hInputLt⟩

theorem exists_ports_of_isSound [NodeModel ν] {g : StageGraph ν} {e : Edge} (h : g.isSound e = true) :
    ∃ source target, g.node? e.source = some source ∧ g.node? e.target = some target ∧
      e.output < (NodeModel.outputs source).length ∧ e.input < (NodeModel.inputs target).length :=
  exists_ports_of_inRange (inRange_of_isSound h)

theorem exists_types_of_isSound {g : StageGraph StandardNode} {e : Edge} (h : g.isSound e = true) :
    ∃ type port, g.outputType? e.source e.output = some type ∧ g.inputPort? e.target e.input = some port ∧
      port.accepts type = true ∧ type.feeds port.type = true := by
  obtain ⟨type, hType, p, hPort, hAccepts⟩ := isSound_iff.mp h
  obtain ⟨target, -, hInput⟩ := inputPort?_eq_some_iff.mp hPort
  have hMem : p ∈ NodeModel.inputs target := List.mem_of_getElem? hInput
  exact ⟨type, p, hType, hPort, hAccepts, (StandardNode.isInput_of_mem_inputs target p hMem).feeds_of_accepts hAccepts⟩

end StageGraph

/-- After every run of edits, every edge of every stage joins ports that exist and has a type that its input
accepts; no input is fed twice, and no path leads back to where it starts. -/
theorem edges_sound_after_edits (mode : Mode) (edits : List (Edit StandardNode)) (stage : Stage) :
    let g := ((Design.empty mode : Design StandardNode).edited edits).graph stage
    (∀ e ∈ g.edges, ∃ source target, g.node? e.source = some source ∧ g.node? e.target = some target ∧
      e.output < (NodeModel.outputs source).length ∧ e.input < (NodeModel.inputs target).length) ∧
    (∀ e ∈ g.edges, ∃ type port, g.outputType? e.source e.output = some type ∧
      g.inputPort? e.target e.input = some port ∧ port.accepts type = true ∧ type.feeds port.type = true) ∧
    (g.edges.map fun e => (e.target, e.input)).Nodup ∧
    ∀ id, ¬Relation.TransGen (fun a b => ∃ e ∈ g.edges, e.source = a ∧ e.target = b) id id := by
  intro g
  have hSound : g.Sound := Design.sound_edited mode edits stage
  refine ⟨?_, ?_, hSound.inputs_nodup, hSound.acyclic⟩
  · exact fun e hEdge => StageGraph.exists_ports_of_isSound (hSound.isSound e hEdge)
  · exact fun e hEdge => StageGraph.exists_types_of_isSound (hSound.isSound e hEdge)

end ShadeGraph
