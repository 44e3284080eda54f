import ShadeGraph.Proofs.Literals
import ShadeGraph.Proofs.RoundTrip

/-!
# Which saved designs can be opened

Loading adds the nodes of a document one by one, and a node that the mode of the document does not permit is refused.
A change of the mode keeps such nodes, so a design may be saved that no load opens. Nor is there a name in documents for
an output node that was added. A design that opens has all its overrides again, except those of the terminals.
-/

namespace ShadeGraph

namespace Design

variable {d D D' : Design StandardNode}

/-! ## What documents hold of terminals -/

/-- The design without the overrides of its terminals, which no document holds. -/
def bare (d : Design StandardNode) : Design StandardNode :=
  { d with stages := d.stages.map fun g => g.modify .output fun n => { n with overrides := .empty } }

theorem graph_bare (d : Design StandardNode) (stage : Stage) :
    d.bare.graph stage = (d.graph stage).modify .output fun n => { n with overrides := .empty } :=
  PerStage.get_map _ d.stages stage

theorem placed?_bare (d : Design StandardNode) (stage : Stage) (id : NodeId) :
    d.bare.placed? stage id =
      if id = .output then (d.placed? stage id).map fun n => { n with overrides := .empty }
      else d.placed? stage id := by
  rw [placed?, graph_bare, StageGraph.placed?_modify]
  rfl

theorem node?_bare (d : Design StandardNode) (stage : Stage) (id : NodeId) :
    d.bare.node? stage id = d.node? stage id := by
  rw [node?, graph_bare]
  apply StageGraph.node?_modify_eq
  intro n
  rfl

theorem exists_placed_of_bare {stage : Stage} {id : NodeId} {n : PlacedNode StandardNode}
    (h : d.bare.placed? stage id = some n) : ∃ old, d.placed? stage id = some old ∧ n.node = old.node := by
  have hNode : d.bare.node? stage id = some n.node := StageGraph.node?_eq_some_iff.mpr ⟨n, h, rfl⟩
  rw [node?_bare] at hNode
  obtain ⟨old, hOld, hSame⟩ := exists_placed_of_node? hNode
  exact ⟨old, hOld, hSame.symm⟩

theorem overrides_bare {stage : Stage} {n : PlacedNode StandardNode} (h : d.bare.placed? stage .output = some n) :
    n.overrides = .empty := by
  rw [placed?_bare, if_pos rfl] at h
  obtain ⟨old, -, rfl⟩ := Option.map_eq_some_iff.mp h
  rfl

theorem NodesRegular.bare (h : d.NodesRegular) : d.bare.NodesRegular := by
  refine ⟨?_, ?_, ?_, ?_⟩
  · intro stage
    rw [graph_bare, StageGraph.modify, Table.keys_modify]
    exact h.first stage
  · intro stage n hPlaced
    obtain ⟨old, hOld, hNode⟩ := exists_placed_of_bare hPlaced
    rw [hNode]
    exact h.terminal stage old hOld
  · intro stage id n hPlaced hUser
    rw [placed?_bare, if_neg hUser] at hPlaced
    exact h.user stage id n hPlaced hUser
  · intro stage id n stage' id' n' name hPlaced hPlaced' hName hName'
    obtain ⟨old, hOld, hNode⟩ := exists_placed_of_bare hPlaced
    obtain ⟨old', hOld', hNode'⟩ := exists_placed_of_bare hPlaced'
    rw [hNode] at hName
    rw [hNode'] at hName'
    exact h.names _ _ _ _ _ _ _ hOld hOld' hName hName'

theorem wired_bare (h : ∀ stage, (d.graph stage).Wired) (stage : Stage) : (d.bare.graph stage).Wired := by
  rw [graph_bare]
  exact (h stage).trims (.of_nodes (List.Sublist.refl _) (StageGraph.node?_modify_eq _ _ fun _ => rfl))

theorem entries_bare (d : Design StandardNode) : d.bare.entries = d.entries := by
  have hNode (stage : Stage) (id : NodeId) (n : PlacedNode StandardNode) :
      nodeEntries ⟨stage, id⟩ (if id = .output then { n with overrides := .empty } else n) =
        nodeEntries ⟨stage, id⟩ n := by
    split
    · rename_i hOutput
      simp only [nodeEntries, hOutput, if_true]
    · rfl
  have hStage (stage : Stage) : d.bare.stageEntries stage = d.stageEntries stage := by
    rw [stageEntries, stageEntries, graph_bare]
    simp only [StageGraph.modify, Table.modify, Table.mapValues, List.flatMap_map, hNode]
  rw [entries, entries, funext hStage]
  rfl

/-- A design and its bare form are saved as one document. -/
theorem load_save_eq_ok_iff_bare (h : d.Reachable) :
    load Command.registry d.save = .ok D ↔ ofDocument Command.registry d.bare.document = .ok D := by
  have hSave : d.bare.save = d.save := by rw [save, save, entries_bare]
  rw [← hSave, load_save_eq_ok_iff]
  rw [entries_bare]
  exact h.isSavable_entries

/-! ## Permission -/

theorem isTerminal_of_instantiate {n start : StandardNode} {bag : ParamBag}
    (h : Command.registry.instantiate n.kind bag = .ok start) : n.isTerminal = false := by
  rw [← Bool.not_eq_true]
  intro hTerminal
  rw [Registry.instantiate, StandardNode.registry_find?_eq_none hTerminal] at h
  cases h

/-- A node is put back only if it is permitted and documents can name it. -/
theorem Restoring.of_loadNode {x : Site × PlacedNode StandardNode} {pending : List (Site × PlacedNode StandardNode)}
    (h : Restoring d D (x :: pending)) (hRegular : d.NodesRegular)
    (hLoad : loadNode Command.registry D (x.1, savedRecord x.1.id x.2) = .ok D') :
    (x.1.id ≠ .output → x.2.node.isTerminal = false) ∧ NodeModel.isPermitted x.2.node d.mode x.1.stage = true := by
  have hPlaced := h.placed x List.mem_cons_self
  by_cases hOutput : x.1.id = .output
  · refine ⟨absurd hOutput, ?_⟩
    rw [hRegular.terminal _ _ (hOutput ▸ hPlaced)]
    rfl
  · obtain ⟨-, hNode⟩ := hRegular.user _ _ _ hPlaced hOutput
    simp only [loadNode, savedRecord, hOutput, if_false, pure_bind, refusedOn, Except.bind_eq_ok_iff,
      Except.mapError_eq_ok_iff] at hLoad
    obtain ⟨start, hStart, m, hParams, added, hAdd, -⟩ := hLoad
    have hKind := isTerminal_of_instantiate hStart
    obtain ⟨start', m', hStart', hParams', hBind⟩ := exists_loaded ⟨hKind, hNode.isUsable⟩ fun name hName =>
      UniformName.sanitize_of_isName (hNode.isName name hName)
    cases hStart.symm.trans hStart'
    cases hParams.symm.trans hParams'
    obtain ⟨-, -, hPermitted, -⟩ := add_eq_ok_iff.mp hAdd
    rw [← StandardNode.isPermitted_bind D.mode x.1.stage m, hBind, h.mode_eq, StandardNode.bind_canonical,
      hNode.bind_eq, x.2.node.alike_canonical.isPermitted] at hPermitted
    exact ⟨fun _ => hKind, hPermitted⟩

/-- Nodes are put back one by one until one cannot be. -/
theorem Restoring.of_foldlM {pending : List (Site × PlacedNode StandardNode)} (h : Restoring d D pending)
    (hRegular : d.NodesRegular) (hTerminal : ∀ stage n, d.placed? stage .output = some n → n.overrides = .empty)
    (hLoad : pending.foldlM (fun D x => loadNode Command.registry D (x.1, savedRecord x.1.id x.2)) D = .ok D') :
    ∀ x ∈ pending, (x.1.id ≠ .output → x.2.node.isTerminal = false) ∧
      NodeModel.isPermitted x.2.node d.mode x.1.stage = true := by
  induction pending generalizing D with
  | nil => exact List.forall_mem_nil _
  | cons x pending ih =>
    rw [List.foldlM_cons, Except.bind_eq_ok_iff] at hLoad
    obtain ⟨next, hFirst, hRest⟩ := hLoad
    have hBack := h.of_loadNode hRegular hFirst
    have hRestored : loadNode Command.registry D (x.1, savedRecord x.1.id x.2) = .ok (D.restore x) := by
      by_cases hOutput : x.1.id = .output
      · exact h.loadNode_terminal hRegular hOutput (hTerminal _ _ (hOutput ▸ h.placed x List.mem_cons_self))
      · exact h.loadNode_user hRegular hOutput (hBack.1 hOutput) hBack.2
    cases hFirst.symm.trans hRestored
    exact List.forall_mem_cons.mpr ⟨hBack, ih h.restore hRest⟩

theorem isStorable_bare_of_load_save (h : d.Reachable) (hLoad : load Command.registry d.save = .ok D') :
    d.bare.IsStorable := by
  have hRegular := h.nodesRegular.bare
  have hSettings : d.bare.SettingsRegular := h.settingsRegular.of_eq rfl rfl
  rw [load_save_eq_ok_iff_bare h, ofDocument_document_eq_ok_iff hSettings] at hLoad
  obtain ⟨restored, hNodes, -⟩ := hLoad
  rw [savedNodes, List.foldlM_map] at hNodes
  have hAll := (restoring_empty hRegular).of_foldlM hRegular (fun _ _ => overrides_bare) hNodes
  constructor
  · exact fun stage id n hPlaced => (hAll (⟨stage, id⟩, n) (mem_sites_iff.mpr hPlaced)).2
  · intro stage id n hPlaced hTerminal
    by_contra hUser
    cases hTerminal.symm.trans ((hAll (⟨stage, id⟩, n) (mem_sites_iff.mpr hPlaced)).1 hUser)
  · exact fun _ _ => overrides_bare

theorem load_save_eq_of_isStorable_bare (h : d.Reachable) (hStorable : d.bare.IsStorable) :
    load Command.registry d.save = .ok d.bare.canonical := by
  rw [load_save_eq_ok_iff_bare h]
  exact ofDocument_document h.nodesRegular.bare (h.settingsRegular.of_eq rfl rfl) (wired_bare h.wired) hStorable

theorem isStorable_bare_iff : d.bare.IsStorable ↔ d.OutputsInPlace ∧
    ∀ stage id n, d.node? stage id = some n → NodeModel.isPermitted n d.mode stage = true := by
  constructor
  · intro h
    constructor
    · intro stage id n hPlaced hTerminal
      obtain ⟨m, hBare, hNode⟩ : ∃ m, d.bare.placed? stage id = some m ∧ m.node = n.node := by
        apply exists_placed_of_node?
        exact (node?_bare d stage id).trans (StageGraph.node?_eq_some_iff.mpr ⟨n, hPlaced, rfl⟩)
      exact h.outputs stage id m hBare (hNode ▸ hTerminal)
    · intro stage id n hNode
      rw [← node?_bare] at hNode
      obtain ⟨m, hBare, rfl⟩ := exists_placed_of_node? hNode
      exact h.permitted stage id m hBare
  · rintro ⟨hOutputs, hPermitted⟩
    refine ⟨fun stage id n hPlaced => ?_, fun stage id n hPlaced hTerminal => ?_, fun _ _ => overrides_bare⟩
    · obtain ⟨old, hOld, hNode⟩ := exists_placed_of_bare hPlaced
      rw [hNode]
      exact hPermitted stage id old.node (StageGraph.node?_eq_some_iff.mpr ⟨old, hOld, rfl⟩)
    · obtain ⟨old, hOld, hNode⟩ := exists_placed_of_bare hPlaced
      exact hOutputs stage id old hOld (hNode ▸ hTerminal)

/-- A saved design can be opened again exactly if its mode permits every node where it stands and no output node was
added to it, since documents have no name for one. -/
theorem save_opens_iff_permitted (hReachable : d.Reachable) :
    (∃ d', load Command.registry d.save = .ok d') ↔ d.OutputsInPlace ∧
      ∀ stage id n, d.node? stage id = some n → NodeModel.isPermitted n d.mode stage = true := by
  rw [← isStorable_bare_iff]
  constructor
  · rintro ⟨d', hLoad⟩
    exact isStorable_bare_of_load_save hReachable hLoad
  · exact fun hStorable => ⟨_, load_save_eq_of_isStorable_bare hReachable hStorable⟩

/-- Two textures, one of them read along three axes, and an override of the terminal. -/
def draped : Design StandardNode :=
  (empty .spatial).edited
    [.add .fragment 2 .origin (.uniform (.texture { triplanar := true })), .add .light 2 .origin (.texture {}),
      .setDefault .fragment .output 2 (.scalar .half)]

theorem reachable_draped : draped.Reachable := .edited (.new .spatial) (by decide)

theorem save_opens_iff_permitted_draped : draped.Reachable ∧ ∃ d', load Command.registry draped.save = .ok d' := by
  have hStorable : draped.bare.IsStorable := by decide +kernel
  exact ⟨reachable_draped, (save_opens_iff_permitted reachable_draped).mpr (isStorable_bare_iff.mp hStorable)⟩

/-- Reads along three axes are kept in a mode that does not have them. -/
theorem no_load_opens_draped_canvas :
    (draped.setMode .canvas).Reachable ∧
      ¬∃ d', load Command.registry (draped.setMode .canvas).save = .ok d' := by
  have hReachable : (draped.setMode .canvas).Reachable := .edit (.setMode .canvas) trivial reachable_draped rfl
  refine ⟨hReachable, ?_⟩
  rintro ⟨d', hLoad⟩
  have hRefused : ¬(draped.setMode .canvas).bare.IsStorable := by decide +kernel
  exact hRefused (isStorable_bare_of_load_save hReachable hLoad)

/-! ## Overrides -/

/-- What an input port of a node has been given in place of its default. -/
def override? (d : Design StandardNode) (stage : Stage) (id : NodeId) (port : Nat) : Option PortValue :=
  (d.placed? stage id).bind (·.overrides.get? port)

theorem override?_canonical (d : Design StandardNode) (stage : Stage) (id : NodeId) (port : Nat) :
    d.canonical.override? stage id port = d.override? stage id port := by
  rw [override?, override?, placed?, graph_canonical, StageGraph.placed?, StageGraph.canonical, Table.get?_mapValues,
    Option.bind_map]
  rfl

theorem override?_bare (d : Design StandardNode) (stage : Stage) (id : NodeId) (port : Nat) :
    d.bare.override? stage id port = if id = .output then none else d.override? stage id port := by
  rw [override?, placed?_bare]
  split
  · rw [Option.bind_map]
    exact Option.bind_fun_none _
  · rfl

theorem override?_of_load_save (h : d.Reachable) (hLoad : load Command.registry d.save = .ok D) (stage : Stage)
    (id : NodeId) (port : Nat) :
    D.override? stage id port = if id = .output then none else d.override? stage id port := by
  have hStorable := isStorable_bare_of_load_save h hLoad
  cases hLoad.symm.trans (load_save_eq_of_isStorable_bare h hStorable)
  rw [override?_canonical, override?_bare]

/-- A design that is saved and opens again has every override of every node that is no terminal, and no other. None
holds a number that is not finite. -/
theorem overrides_kept_but_for_terminals (hReachable : d.Reachable) (hLoad : load Command.registry d.save = .ok D)
    (stage : Stage) (id : NodeId) (port : Nat) :
    D.override? stage id port = (if id = .output then none else d.override? stage id port) ∧
      ∀ value, d.override? stage id port = some value → ∀ x ∈ value.numbers, x.isFinite = true := by
  refine ⟨override?_of_load_save hReachable hLoad stage id port, fun value hValue => ?_⟩
  obtain ⟨n, hPlaced, hGet⟩ := Option.bind_eq_some_iff.mp hValue
  exact PortValue.exists_literal_iff.mp (hReachable.encodes stage id n hPlaced port value hGet)

/-- An input of a sum is overridden, and so is an input of the terminal. -/
def blended : Design StandardNode :=
  (empty .spatial).edited
    [.add .fragment 2 .origin (.operator (.scalar .add)), .setDefault .fragment 2 1 (.scalar .half),
      .setDefault .fragment .output 2 (.scalar .half)]

theorem reachable_blended : blended.Reachable := .edited (.new .spatial) (by decide)

theorem exists_load_save_blended : ∃ D, load Command.registry blended.save = .ok D :=
  ⟨_, load_save_eq_of_isStorable_bare reachable_blended (by decide +kernel)⟩

theorem overrides_kept_but_for_terminals_blended :
    blended.Reachable ∧ ∃ D, load Command.registry blended.save = .ok D ∧
      blended.override? .fragment 2 1 = some (.scalar .half) ∧ D.override? .fragment 2 1 = some (.scalar .half) := by
  obtain ⟨D, hLoad⟩ := exists_load_save_blended
  have hValue : blended.override? .fragment 2 1 = some (.scalar .half) := rfl
  refine ⟨reachable_blended, D, hLoad, hValue, ?_⟩
  rw [(overrides_kept_but_for_terminals reachable_blended hLoad .fragment 2 1).1, if_neg (by decide), hValue]

/-- The override of the terminal does not survive. -/
theorem override_of_terminal_lost :
    blended.Reachable ∧ blended.override? .fragment .output 2 = some (.scalar .half) ∧
      ∃ D, load Command.registry blended.save = .ok D ∧ D.override? .fragment .output 2 = none := by
  obtain ⟨D, hLoad⟩ := exists_load_save_blended
  refine ⟨reachable_blended, rfl, D, hLoad, ?_⟩
  rw [override?_of_load_save reachable_blended hLoad, if_pos rfl]

end Design

end ShadeGraph
