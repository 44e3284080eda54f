import ShadeGraph.Proofs.Placement
import ShadeGraph.Proofs.Regular
import ShadeGraph.Proofs.Staleness
import ShadeGraph.Proofs.Wiring

/-!
# What no run of actions breaks

Documents may hold cycles and edges whose types do not fit, and all later edits work on what was loaded. The ends
of edges, single feeds, the terminal, the numbers of nodes and the place that a node is bound to stay in order
whatever users do. So the search for a closure never meets an edge without an end.
-/

namespace ShadeGraph

variable {ν : Type}

namespace NodeId

theorem le_max_left (a b : NodeId) : a ≤ max a b := by
  change a ≤ if a ≤ b then b else a
  split
  · assumption
  · exact UInt32.le_refl a

theorem le_max_right (a b : NodeId) : b ≤ max a b := by
  change b ≤ if a ≤ b then b else a
  split
  · exact UInt32.le_refl b
  · rename_i hLt
    exact UInt32.le_of_lt (UInt32.not_le.mp hLt)

end NodeId

namespace StandardNode

/-- A uniform may get another name; no node gets another place. -/
theorem bind_named {d : Design StandardNode} {n m : StandardNode} {mode : Mode} {stage : Stage}
    (h : d.named n = .ok m) (hBound : NodeModel.bind mode stage n = n) : NodeModel.bind mode stage m = m := by
  cases n with
  | uniform u =>
    simp only [Design.named, NodeModel.uniformName?, uniformName?] at h
    split at h
    · cases h
      exact hBound
    · rw [Except.mapError_eq_ok_iff] at h
      obtain ⟨u', rfl, -⟩ := applyParam_uniform h
      rfl
  | _ =>
    cases h
    exact hBound

theorem exists_applyParam_name (u : UniformNode) (name : String) :
    ∃ m, NodeModel.applyParam (uniform u) uniformNameParam (.text name) = .ok m := by
  cases u <;> exact ⟨_, rfl⟩

end StandardNode

namespace Design

theorem exists_named (d : Design StandardNode) (n : StandardNode) : ∃ m, d.named n = .ok m := by
  cases n with
  | uniform u =>
    simp only [named, NodeModel.uniformName?, StandardNode.uniformName?]
    split
    · exact ⟨_, rfl⟩
    · obtain ⟨m, hName⟩ := StandardNode.exists_applyParam_name u (d.uniformNameFor none u.name)
      exact ⟨m, Except.mapError_eq_ok_iff.mpr hName⟩
  | _ => exact ⟨_, rfl⟩

end Design

namespace StageGraph

/-- The nodes of a graph: the terminal is there, no other node has a reserved number, the last number is no less
than any in use, and every node is bound to the place of the graph. -/
structure Anchored (g : StageGraph StandardNode) (mode : Mode) (stage : Stage) : Prop where
  terminal : g.node? .output = some (.output ⟨mode, stage⟩)
  user : ∀ id n, g.node? id = some n → id ≠ .output → NodeId.firstUser ≤ id
  last : ∀ id n, g.node? id = some n → id ≤ g.lastId
  bound : ∀ id n, g.node? id = some n → NodeModel.bind mode stage n = n

namespace Anchored

variable {g g' : StageGraph StandardNode} {mode : Mode} {stage : Stage}

theorem of_node?_eq (h : g.Anchored mode stage) (hNodes : ∀ id, g'.node? id = g.node? id)
    (hLast : g'.lastId = g.lastId) : g'.Anchored mode stage := by
  constructor
  · rw [hNodes]
    exact h.terminal
  · intro id n hNode
    exact h.user id n (hNodes id ▸ hNode)
  · intro id n hNode
    rw [hLast]
    exact h.last id n (hNodes id ▸ hNode)
  · intro id n hNode
    exact h.bound id n (hNodes id ▸ hNode)

theorem insert (h : g.Anchored mode stage) {id : NodeId} (hFirst : NodeId.firstUser ≤ id) {n : PlacedNode StandardNode}
    (hBound : NodeModel.bind mode stage n.node = n.node) : (g.insert id n).Anchored mode stage := by
  have hNode {id' : NodeId} {m : StandardNode} (hSome : (g.insert id n).node? id' = some m) :
      (id' = id ∧ m = n.node) ∨ g.node? id' = some m := by
    rw [node?, placed?_insert] at hSome
    split at hSome
    · rename_i hId
      cases hSome
      exact .inl ⟨hId, rfl⟩
    · exact .inr hSome
  constructor
  · have hOutput : NodeId.output ≠ id := by
      rintro rfl
      exact absurd hFirst (by decide)
    rw [node?_insert_of_ne g n hOutput]
    exact h.terminal
  · intro id' m hSome hId
    rcases hNode hSome with ⟨rfl, -⟩ | hOld
    · exact hFirst
    · exact h.user id' m hOld hId
  · intro id' m hSome
    rcases hNode hSome with ⟨rfl, -⟩ | hOld
    · exact NodeId.le_max_right _ _
    · exact UInt32.le_trans (h.last id' m hOld) (NodeId.le_max_left _ _)
  · intro id' m hSome
    rcases hNode hSome with ⟨-, rfl⟩ | hOld
    · exact hBound
    · exact h.bound id' m hOld

theorem erase (h : g.Anchored mode stage) {id : NodeId} (hId : id ≠ .output) : (g.erase id).Anchored mode stage := by
  have hNode {id' : NodeId} {m : StandardNode} (hSome : (g.erase id).node? id' = some m) : g.node? id' = some m := by
    rw [node?, placed?_erase] at hSome
    split at hSome
    · cases hSome
    · exact hSome
  constructor
  · rw [node?_erase_of_ne g hId.symm]
    exact h.terminal
  · exact fun id' m hSome => h.user id' m (hNode hSome)
  · exact fun id' m hSome => h.last id' m (hNode hSome)
  · exact fun id' m hSome => h.bound id' m (hNode hSome)

/-- Any node but the terminal may be exchanged for another of the same place. -/
theorem modify (h : g.Anchored mode stage) {id : NodeId} (hId : id ≠ .output)
    {f : PlacedNode StandardNode → PlacedNode StandardNode}
    (hBound : ∀ n, NodeModel.bind mode stage (f n).node = (f n).node) : (g.modify id f).Anchored mode stage := by
  have hNode {id' : NodeId} {m : StandardNode} (hSome : (g.modify id f).node? id' = some m) :
      (∃ old, g.node? id' = some old) ∧ (g.node? id' = some m ∨ ∃ n, m = (f n).node) := by
    by_cases hSame : id' = id
    · rw [node?, placed?_modify, if_pos hSame, Option.map_map, Option.map_eq_some_iff] at hSome
      obtain ⟨n, hPlaced, rfl⟩ := hSome
      exact ⟨⟨n.node, node?_eq_some_iff.mpr ⟨n, hPlaced, rfl⟩⟩, .inr ⟨n, rfl⟩⟩
    · rw [node?_modify_of_ne g f hSame] at hSome
      exact ⟨⟨m, hSome⟩, .inl hSome⟩
  constructor
  · rw [node?_modify_of_ne g f hId.symm]
    exact h.terminal
  · intro id' m hSome
    obtain ⟨⟨old, hOld⟩, -⟩ := hNode hSome
    exact h.user id' old hOld
  · intro id' m hSome
    obtain ⟨⟨old, hOld⟩, -⟩ := hNode hSome
    exact h.last id' old hOld
  · intro id' m hSome
    rcases (hNode hSome).2 with hOld | ⟨n, rfl⟩
    · exact h.bound id' m hOld
    · exact hBound n

theorem rebind (h : g.Anchored mode stage) (mode' : Mode) : (Design.rebind g mode' stage).Anchored mode' stage := by
  have hNode (id : NodeId) :
      (Design.rebind g mode' stage).node? id = (g.node? id).map (NodeModel.bind mode' stage) := by
    simp only [node?, placed?, Design.rebind, Table.get?_mapValues, Option.map_map]
    rfl
  have hOld {id : NodeId} {m : StandardNode} (hSome : (Design.rebind g mode' stage).node? id = some m) :
      ∃ n, g.node? id = some n ∧ NodeModel.bind mode' stage n = m := by
    rw [hNode] at hSome
    exact Option.map_eq_some_iff.mp hSome
  constructor
  · rw [hNode, h.terminal]
    rfl
  · intro id m hSome
    obtain ⟨n, hWas, -⟩ := hOld hSome
    exact h.user id n hWas
  · intro id m hSome
    obtain ⟨n, hWas, -⟩ := hOld hSome
    exact h.last id n hWas
  · intro id m hSome
    obtain ⟨n, -, rfl⟩ := hOld hSome
    exact StandardNode.bind_bind _ _ _ n

end Anchored

theorem anchored_empty (mode : Mode) (stage : Stage) :
    (empty mode stage : StageGraph StandardNode).Anchored mode stage := by
  have hNode {id : NodeId} {n : StandardNode} (hSome : (empty mode stage : StageGraph StandardNode).node? id = some n) :
      id = .output ∧ n = .output ⟨mode, stage⟩ := by
    simp only [node?, placed?, empty, Table.get?_insert, Table.get?_empty] at hSome
    split at hSome
    · rename_i hId
      cases hSome
      exact ⟨hId, rfl⟩
    · cases hSome
  constructor
  · rfl
  · intro id n hSome hId
    exact absurd (hNode hSome).1 hId
  · intro id n hSome
    rw [(hNode hSome).1]
    exact UInt32.le_refl _
  · intro id n hSome
    rw [(hNode hSome).2]
    rfl

theorem Wired.incoming?_eq_reading? [NodeModel ν] {g : StageGraph ν} (h : g.Wired) (id : NodeId) (port : Nat) :
    g.incoming? id port = g.reading? id port := by
  cases hIncoming : g.incoming? id port with
  | none =>
    symm
    rw [reading?, List.find?_eq_none]
    intro e hMem
    rw [incoming?_eq_none_iff.mp hIncoming e (List.mem_reverse.mp hMem)]
    exact Bool.false_ne_true
  | some e =>
    have hFeeds := List.find?_some hIncoming
    have hMem := List.mem_of_find?_eq_some hIncoming
    simp only [Edge.feeds, Bool.and_eq_true, decide_eq_true_eq] at hFeeds
    rw [← hFeeds.1, ← hFeeds.2, h.reading?_eq hMem]

end StageGraph

namespace Design

variable {d d' : Design StandardNode}

/-- What no action breaks. -/
structure Intact (d : Design StandardNode) : Prop where
  wired : ∀ stage, (d.graph stage).Wired
  anchored : ∀ stage, (d.graph stage).Anchored d.mode stage

theorem anchored_withGraph (h : ∀ stage, (d.graph stage).Anchored d.mode stage) {stage : Stage}
    {g : StageGraph StandardNode} (hGraph : g.Anchored d.mode stage) (stage' : Stage) :
    ((d.withGraph stage g).graph stage').Anchored (d.withGraph stage g).mode stage' := by
  rw [graph_withGraph, mode_withGraph]
  split
  · rename_i hStage
    exact hStage ▸ hGraph
  · exact h stage'

theorem anchored_apply {edit : Edit StandardNode} (h : ∀ stage, (d.graph stage).Anchored d.mode stage)
    (hApply : edit.apply d = .ok d') (stage : Stage) : (d'.graph stage).Anchored d'.mode stage := by
  cases edit with
  | setMode mode =>
    cases hApply
    rw [Design.setMode]
    split
    · exact h stage
    · simpa [graph] using (h stage).rebind mode
  | add stage' id position n =>
    obtain ⟨hFirst, -, -, m, hNamed, rfl⟩ := add_eq_ok_iff.mp hApply
    have hBound := StandardNode.bind_named hNamed (StandardNode.bind_bind d.mode d.mode stage' n)
    exact anchored_withGraph h ((h stage').insert hFirst hBound) stage
  | remove stage' id =>
    obtain ⟨hId, -, rfl⟩ := remove_eq_ok_iff.mp hApply
    exact anchored_withGraph h ((h stage').erase hId) stage
  | setParam stage' id name value =>
    obtain ⟨n, hNode, m, hParam, rfl⟩ := setParam_eq_ok_iff.mp hApply
    have hId : id ≠ .output := by
      rintro rfl
      cases (h stage').terminal.symm.trans hNode
      cases StandardNode.isTerminal_of_applyParam hParam
    have hChanged := (h stage').modify hId
      (f := fun placed => { placed with node := NodeModel.bind d.mode stage' m }.prune)
      fun _ => StandardNode.bind_bind d.mode d.mode stage' m
    refine anchored_withGraph h ?_ stage
    exact hChanged.of_node?_eq (fun _ => rfl) rfl
  | move stage' id position =>
    obtain ⟨-, rfl⟩ := move_eq_ok_iff.mp hApply
    refine anchored_withGraph h ?_ stage
    exact (h stage').of_node?_eq (StageGraph.node?_modify_eq _ id fun _ => rfl) rfl
  | setDefault stage' id port value =>
    obtain ⟨-, -, rfl⟩ := setDefault_eq_ok_iff.mp hApply
    refine anchored_withGraph h ?_ stage
    exact (h stage').of_node?_eq (StageGraph.node?_modify_eq _ id fun _ => rfl) rfl
  | clearDefault stage' id port =>
    cases hApply
    refine anchored_withGraph h ?_ stage
    exact (h stage').of_node?_eq (StageGraph.node?_modify_eq _ id fun _ => rfl) rfl
  | connect stage' e =>
    obtain ⟨g, hConnect, rfl⟩ := connect_eq_ok_iff.mp hApply
    obtain ⟨-, rfl⟩ := StageGraph.connect_eq_ok_iff.mp hConnect
    refine anchored_withGraph h ?_ stage
    exact (h stage').of_node?_eq (fun _ => rfl) rfl
  | disconnect stage' e =>
    cases hApply
    refine anchored_withGraph h ?_ stage
    exact (h stage').of_node?_eq (fun _ => rfl) rfl
  | setOption group option =>
    obtain ⟨-, rfl⟩ := setOption_eq_ok_iff.mp hApply
    exact h stage
  | setFlag flag on =>
    obtain ⟨-, rfl⟩ := setFlag_eq_ok_iff.mp hApply
    exact h stage
  | clearOption | scroll =>
    cases hApply
    exact h stage

theorem Intact.apply {edit : Edit StandardNode} (h : d.Intact) (hApply : edit.apply d = .ok d') : d'.Intact :=
  ⟨wired_apply h.wired hApply, anchored_apply h.anchored hApply⟩

theorem Intact.join {stage : Stage} {e : Edge} (h : d.Intact) (hJoin : d.join stage e = .ok d') : d'.Intact := by
  refine ⟨wired_join h.wired hJoin, ?_⟩
  obtain ⟨g, hGraph, rfl⟩ := join_eq_ok_iff.mp hJoin
  obtain ⟨-, rfl⟩ := StageGraph.join_eq_ok_iff.mp hGraph
  exact anchored_withGraph h.anchored ((h.anchored stage).of_node?_eq (fun _ => rfl) rfl)

theorem intact_empty (mode : Mode) : (empty mode : Design StandardNode).Intact := by
  have hGraph (stage : Stage) : (empty mode : Design StandardNode).graph stage = .empty mode stage :=
    PerStage.get_ofFn _ stage
  constructor
  · intro stage
    rw [hGraph]
    exact .of_edges_eq_nil rfl
  · intro stage
    rw [hGraph]
    exact StageGraph.anchored_empty mode stage

theorem Intact.steps (h : d.Intact) (hSteps : Steps d d') : d'.Intact := by
  induction hSteps with
  | refl => exact h
  | tail _ hStep ih =>
    cases hStep with
    | edit edit _ hApply => exact ih.apply hApply
    | join stage e _ hJoin => exact ih.join hJoin

theorem intact_of_load {text : String} (h : load Command.registry text = .ok d) : d.Intact := by
  obtain ⟨mode, hSteps⟩ := steps_of_load h
  exact (intact_empty mode).steps hSteps

theorem Reachable.intact (h : d.Reachable) : d.Intact := by
  induction h with
  | new mode => exact intact_empty mode
  | edit _ _ _ hApply ih => exact ih.apply hApply
  | load text hLoad => exact intact_of_load hLoad

theorem Reachable.contains_output (h : d.Reachable) (stage : Stage) : (d.graph stage).contains .output = true := by
  obtain ⟨placed, hPlaced, -⟩ := StageGraph.node?_eq_some_iff.mp (h.intact.anchored stage).terminal
  exact StageGraph.contains_iff.mpr ⟨placed, hPlaced⟩

end Design

namespace Editor

theorem design_shader [NodeModel ν] (e : Editor ν) : e.shader.2.design = e.design := by
  rcases e.shader_cases with ⟨last, -, -, hShader⟩ | hShader
  · rw [hShader]
  · rw [hShader]
    rfl

theorem intact_perform {e : Editor StandardNode} (h : e.design.Intact) (action : Action StandardNode) :
    (e.perform Command.registry action).design.Intact := by
  cases action with
  | edit edit =>
    simp only [perform]
    split
    · rename_i e' hApply
      simp only [Editor.apply, Except.bind_eq_ok_iff, Except.pure_eq_ok_iff] at hApply
      obtain ⟨design, hEdit, rfl⟩ := hApply
      exact h.apply hEdit
    · exact h
  | load text =>
    simp only [perform]
    split
    · rename_i design hLoad
      exact Design.intact_of_load hLoad
    · exact h
  | shader =>
    simp only [perform, design_shader]
    exact h
  | compile => exact h
  | preview => exact h

theorem intact_run {e : Editor StandardNode} (h : e.design.Intact) (actions : List (Action StandardNode)) :
    (actions.foldl (perform Command.registry) e).design.Intact := by
  induction actions generalizing e with
  | nil => exact h
  | cons action rest ih => exact ih (intact_perform h action)

/-- After every run of edits and loads, in every stage: all edges join ports that exist; no input is fed twice, so
that the first edge into it is the last; number 0 is the terminal and all other numbers are from 2 on, none beyond
the last; nodes that follow the mode follow the mode of the design and their own stage; and closures are found. -/
theorem structure_intact_after_actions (mode : Mode) (actions : List (Action StandardNode)) (stage : Stage) :
    let d := (actions.foldl (perform Command.registry) { design := Design.empty mode }).design
    let g := d.graph stage
    (∀ e ∈ g.edges, ∃ source target, g.node? e.source = some source ∧ g.node? e.target = some target ∧
      e.output < (NodeModel.outputs source).length ∧ e.input < (NodeModel.inputs target).length) ∧
    (g.edges.map fun e => (e.target, e.input)).Nodup ∧
    (∀ id port, g.incoming? id port = g.reading? id port) ∧
    (∃ terminal, g.node? 0 = some (.output terminal)) ∧
    (∀ id n, g.node? id = some n → id ≠ 0 → 2 ≤ id) ∧
    (∀ id n, g.node? id = some n → id ≤ g.lastId) ∧
    (∀ id n, g.node? id = some (.output n) → n.mode = d.mode ∧ n.stage = stage) ∧
    (∀ id n, g.node? id = some (.input n) → n.mode = d.mode ∧ n.stage = stage) ∧
    ∀ root edge, g.closure root ≠ .error (.dangling edge) := by
  intro d g
  have hIntact : d.Intact := intact_run (Design.intact_empty mode) actions
  have hWired : g.Wired := hIntact.wired stage
  have hAnchored : g.Anchored d.mode stage := hIntact.anchored stage
  refine ⟨?_, hWired.inputs_nodup, hWired.incoming?_eq_reading?, ⟨_, hAnchored.terminal⟩, hAnchored.user,
    hAnchored.last, ?_, ?_, ?_⟩
  · exact fun e hEdge => StageGraph.exists_ports_of_inRange (hWired.inRange e hEdge)
  · rintro id ⟨mode', stage'⟩ hNode
    cases hAnchored.bound id _ hNode
    exact ⟨rfl, rfl⟩
  · rintro id ⟨name, mode', stage'⟩ hNode
    cases hAnchored.bound id _ hNode
    exact ⟨rfl, rfl⟩
  · intro root edge
    rw [hWired.closure_eq]
    simp

end Editor

end ShadeGraph
