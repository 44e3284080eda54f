import ShadeGraph.Proofs.Restore

/-!
# Saving and loading

A reachable design whose nodes are all permitted, and whose output nodes are in their places and have no overrides, is
saved as a document that is loaded again: as a design that is saved and compiled alike. Every loaded design is of this
kind.
-/

namespace ShadeGraph

/-! ## Documents of reachable designs can be read -/

theorem Mode.isPlain_of_hasFlag {mode : Mode} {flag : String} (h : mode.hasFlag flag = true) :
    Text.IsPlain flag.toList := by
  have hPlain : ∀ flag ∈ mode.renderFlags, Text.IsPlain flag.toList := by
    cases mode <;> decide +kernel
  exact hPlain flag (List.contains_iff_mem.mp h)

theorem Mode.isSavable_of_hasOption {mode : Mode} {group : String} {option : Nat}
    (h : mode.hasOption group option = true) : Text.IsPlain group.toList ∧ option < Text.indexBound := by
  have hGroups : ∀ g ∈ mode.renderGroups, Text.IsPlain g.name.toList ∧ g.options.length < Text.indexBound := by
    cases mode <;> decide +kernel
  rw [hasOption] at h
  cases hFind : mode.renderGroup? group with
  | none => simp [hFind] at h
  | some g =>
    have hName : g.name = group := by simpa using List.find?_some hFind
    have hOption : option < g.options.length := by simpa [hFind] using h
    obtain ⟨hPlain, hBound⟩ := hGroups g (List.mem_of_find?_eq_some hFind)
    exact ⟨hName ▸ hPlain, hOption.trans hBound⟩

namespace Design

variable {d d' : Design StandardNode}

theorem isSavable_nodeEntries (h : d.NodesRegular) {stage : Stage} {id : NodeId} {n : PlacedNode StandardNode}
    (hPlaced : d.placed? stage id = some n) : ∀ e ∈ nodeEntries ⟨stage, id⟩ n, e.IsSavable := by
  by_cases hOutput : id = .output
  · rw [nodeEntries, if_pos hOutput]
    exact List.forall_mem_singleton.mpr trivial
  · obtain ⟨-, hNode⟩ := h.user stage id n hPlaced hOutput
    rw [nodeEntries, if_neg hOutput, List.forall_mem_append, List.forall_mem_append]
    refine ⟨⟨?_, ?_⟩, ?_⟩
    · exact List.forall_mem_cons.mpr ⟨n.node.isPlain_kind, List.forall_mem_singleton.mpr trivial⟩
    · intro e hMem
      obtain ⟨slot, hSlot, rfl⟩ := List.mem_map.mp hMem
      exact StandardNode.isSavable_slot hSlot
    · intro e hMem
      obtain ⟨⟨port, value⟩, hOverride, rfl⟩ := List.mem_map.mp hMem
      obtain ⟨hIndexed, -, -⟩ := hNode.overrides port value (Table.get?_eq_some_iff.mpr hOverride)
      exact ⟨hIndexed, value.isValue_write⟩

theorem Reachable.isSavable_entries (h : d.Reachable) : ∀ e ∈ d.entries, e.IsSavable := by
  have hSettings := h.settingsRegular
  rw [entries, List.forall_mem_append]
  constructor
  · simp only [List.forall_mem_cons]
    refine ⟨trivial, ?_, ?_, trivial, List.forall_mem_nil _⟩
    · exact fun x hMem => Mode.isSavable_of_hasOption (hSettings.options x.1 x.2 (Table.get?_eq_some_iff.mpr hMem))
    · exact fun flag hMem => Mode.isPlain_of_hasFlag (hSettings.flags flag hMem)
  · rw [List.forall_mem_flatMap]
    intro stage _
    rw [stageEntries, List.forall_mem_append, List.forall_mem_flatMap]
    constructor
    · exact fun x hMem => isSavable_nodeEntries h.nodesRegular (Table.get?_eq_some_iff.mpr hMem)
    · split
      · exact List.forall_mem_nil _
      · refine List.forall_mem_singleton.mpr fun numbers hMem => ?_
        obtain ⟨e, hEdge, rfl⟩ := List.mem_map.mp hMem
        obtain ⟨hOutput, hInput⟩ := h.wired_and_isIndexed.2 stage e hEdge
        have hId (id : NodeId) : id.toNat < Text.indexBound := Nat.lt_of_lt_of_le id.toNat_lt (by decide)
        simp only [List.forall_mem_cons]
        exact ⟨hId e.source, hOutput, hId e.target, hInput, List.forall_mem_nil _⟩

theorem load_save_eq_canonical (h : d.Reachable) (hStorable : d.IsStorable) :
    load Command.registry d.save = .ok d.canonical :=
  (load_save_eq_ok_iff h.isSavable_entries).mpr
    (ofDocument_document h.nodesRegular h.settingsRegular h.wired hStorable)

/-! ## Loaded designs can be saved -/

/-- Nodes that are no terminals may be added if they are permitted, and nodes that stay may get overrides, except the
terminals. -/
theorem IsStorable.of_placed (h : d.IsStorable) (hMode : d'.mode = d.mode)
    (hPlaced : ∀ stage id n', d'.placed? stage id = some n' →
      (∃ n, d.placed? stage id = some n ∧ n'.node = n.node ∧ (id = .output → n'.overrides = n.overrides)) ∨
        (id ≠ .output ∧ n'.node.isTerminal = false ∧ NodeModel.isPermitted n'.node d.mode stage = true)) :
    d'.IsStorable := by
  constructor
  · intro stage id n' hNew
    rw [hMode]
    rcases hPlaced stage id n' hNew with ⟨n, hOld, hNode, -⟩ | ⟨-, -, hPermitted⟩
    · rw [hNode]
      exact h.permitted stage id n hOld
    · exact hPermitted
  · intro stage id n' hNew hTerminal
    rcases hPlaced stage id n' hNew with ⟨n, hOld, hNode, -⟩ | ⟨-, hUser, -⟩
    · exact h.outputs stage id n hOld (hNode ▸ hTerminal)
    · cases hUser.symm.trans hTerminal
  · intro stage n' hNew
    rcases hPlaced stage .output n' hNew with ⟨n, hOld, -, hOverrides⟩ | ⟨hUser, -⟩
    · rw [hOverrides rfl]
      exact h.terminal stage n hOld
    · exact absurd rfl hUser

theorem IsStorable.of_nodes_eq (h : d.IsStorable) (hMode : d'.mode = d.mode)
    (hNodes : ∀ stage, (d'.graph stage).nodes = (d.graph stage).nodes) : d'.IsStorable := by
  refine h.of_placed hMode fun stage id n hNew => .inl ⟨n, ?_, rfl, fun _ => rfl⟩
  rw [placed?, StageGraph.placed?, hNodes] at hNew
  exact hNew

theorem IsStorable.modify (h : d.IsStorable) {stage : Stage} {id : NodeId}
    {f : PlacedNode StandardNode → PlacedNode StandardNode} (hNode : ∀ n, (f n).node = n.node)
    (hOverrides : id = .output → ∀ n, (f n).overrides = n.overrides) :
    (d.withGraph stage ((d.graph stage).modify id f)).IsStorable := by
  refine h.of_placed rfl fun stage' id' n' hNew => .inl ?_
  rw [placed?_withGraph] at hNew
  split at hNew
  · rename_i hStage
    subst hStage
    rw [StageGraph.placed?_modify] at hNew
    split at hNew
    · rename_i hId
      subst hId
      obtain ⟨n, hOld, rfl⟩ := Option.map_eq_some_iff.mp hNew
      exact ⟨n, hOld, hNode n, fun hOutput => hOverrides hOutput n⟩
    · exact ⟨n', hNew, rfl, fun _ => rfl⟩
  · exact ⟨n', hNew, rfl, fun _ => rfl⟩

theorem IsStorable.add (h : d.IsStorable) {stage : Stage} {id : NodeId} {position : Position} {n : StandardNode}
    (hUser : n.IsUser) (hAdd : d.add stage id position n = .ok d') : d'.IsStorable := by
  obtain ⟨hFirst, -, hPermitted, m, hNamed, rfl⟩ := add_eq_ok_iff.mp hAdd
  obtain ⟨-, hKind, -, hSame, -⟩ := of_named (StandardNode.isUsable_bind hUser.isUsable d.mode stage) hNamed
  refine h.of_placed rfl fun stage' id' n' hNew => ?_
  rw [placed?_withGraph] at hNew
  split at hNew
  · rename_i hStage
    subst hStage
    rw [StageGraph.placed?_insert] at hNew
    split at hNew
    · rename_i hId
      subst hId
      cases hNew
      refine .inr ⟨?_, ?_, ?_⟩
      · rintro rfl
        exact absurd hFirst (by decide)
      · rw [hKind, StandardNode.isTerminal_bind, hUser.isTerminal]
      · rw [hSame, StandardNode.isPermitted_bind]
        exact hPermitted
    · exact .inl ⟨n', hNew, rfl, fun _ => rfl⟩
  · exact .inl ⟨n', hNew, rfl, fun _ => rfl⟩

theorem IsStorable.loadNode (h : d.IsStorable) {entry : Site × NodeRecord}
    (hLoad : loadNode Command.registry d entry = .ok d') : d'.IsStorable := by
  obtain ⟨site, r⟩ := entry
  rw [Design.loadNode] at hLoad
  split at hLoad
  · rw [loadTerminal] at hLoad
    split at hLoad
    · cases hLoad
      exact h
    · rw [refusedOn, Except.mapError_eq_ok_iff] at hLoad
      obtain ⟨-, rfl⟩ := move_eq_ok_iff.mp hLoad
      exact h.modify (fun _ => rfl) fun _ _ => rfl
  · rename_i hUser
    split at hLoad
    case h_2 => cases hLoad
    simp only [Except.bind_eq_ok_iff, refusedOn, Except.mapError_eq_ok_iff] at hLoad
    obtain ⟨kind, -, n, hInstantiate, m, hParams, added, hAdd, hDefaults⟩ := hLoad
    -- the defaults that follow belong to this node, which is no terminal
    have hAdded := h.add (isUser_of_instantiate hInstantiate hParams) hAdd
    refine Except.foldlM_induction (P := IsStorable) ?_ hAdded hDefaults
    intro default _ d d' hStorable hDefault
    simp only [loadDefault, Except.bind_eq_ok_iff, refusedOn, Except.mapError_eq_ok_iff] at hDefault
    obtain ⟨_, -, value, -, hSet⟩ := hDefault
    obtain ⟨-, -, rfl⟩ := setDefault_eq_ok_iff.mp hSet
    exact hStorable.modify (fun _ => rfl) fun hOutput => absurd hOutput hUser

theorem isStorable_empty (mode : Mode) : (empty mode : Design StandardNode).IsStorable := by
  constructor
  · intro stage id n hPlaced
    rw [placed?_empty] at hPlaced
    split at hPlaced
    · cases hPlaced
      rfl
    · cases hPlaced
  · intro stage id n hPlaced _
    rw [placed?_empty] at hPlaced
    by_contra hUser
    rw [if_neg hUser] at hPlaced
    cases hPlaced
  · intro stage n hPlaced
    rw [placed?_empty, if_pos rfl] at hPlaced
    cases hPlaced
    rfl

theorem isStorable_of_load {text : String} (h : load Command.registry text = .ok d) : d.IsStorable := by
  simp only [load, ofDocument, Except.bind_eq_ok_iff] at h
  obtain ⟨doc, -, d₁, hOptions, d₂, hFlags, d₃, hNodes, hEdges⟩ := h
  have hStart : ((empty doc.mode : Design StandardNode).scroll doc.offset).IsStorable :=
    (isStorable_empty doc.mode).of_nodes_eq rfl fun _ => rfl
  have hFirst : d₁.IsStorable := by
    refine Except.foldlM_induction (P := IsStorable) (fun o _ d d' hStorable hOption => ?_) hStart hOptions
    rw [refusedOn, Except.mapError_eq_ok_iff] at hOption
    obtain ⟨-, rfl⟩ := setOption_eq_ok_iff.mp hOption
    exact hStorable.of_nodes_eq rfl fun _ => rfl
  have hSecond : d₂.IsStorable := by
    refine Except.foldlM_induction (P := IsStorable) (fun f _ d d' hStorable hFlag => ?_) hFirst hFlags
    rw [refusedOn, Except.mapError_eq_ok_iff] at hFlag
    obtain ⟨-, rfl⟩ := setFlag_eq_ok_iff.mp hFlag
    exact hStorable.of_nodes_eq rfl fun _ => rfl
  have hThird : d₃.IsStorable :=
    Except.foldlM_induction (P := IsStorable) (fun _ _ _ _ hStorable hNode => hStorable.loadNode hNode) hSecond hNodes
  refine Except.foldlM_induction (P := IsStorable) (fun edge _ d d' hStorable hEdge => ?_) hThird hEdges
  simp only [loadEdge, Except.bind_eq_ok_iff, refusedOn, Except.mapError_eq_ok_iff] at hEdge
  obtain ⟨source, -, target, -, hJoin⟩ := hEdge
  obtain ⟨g, hGraph, rfl⟩ := join_eq_ok_iff.mp hJoin
  obtain ⟨-, rfl⟩ := StageGraph.join_eq_ok_iff.mp hGraph
  refine hStorable.of_nodes_eq rfl fun stage => ?_
  rw [graph_withGraph]
  split
  · rename_i hStage
    rw [hStage]
  · rfl

instance : Decidable d.IsStorable :=
  decidable_of_iff (∀ x ∈ Stage.all.flatMap d.sites, NodeModel.isPermitted x.2.node d.mode x.1.stage = true ∧
      (x.2.node.isTerminal = true → x.1.id = .output) ∧ (x.1.id = .output → x.2.overrides = .empty)) <| by
    constructor
    · intro h
      constructor
      · exact fun stage id n hPlaced => (h (⟨stage, id⟩, n) (mem_sites_iff.mpr hPlaced)).1
      · exact fun stage id n hPlaced => (h (⟨stage, id⟩, n) (mem_sites_iff.mpr hPlaced)).2.1
      · exact fun stage n hPlaced => (h (⟨stage, .output⟩, n) (mem_sites_iff.mpr hPlaced)).2.2 rfl
    · intro h x hMem
      have hPlaced := mem_sites_iff.mp hMem
      exact ⟨h.permitted _ _ _ hPlaced, h.outputs _ _ _ hPlaced, fun hOutput => h.terminal _ _ (hOutput ▸ hPlaced)⟩

/-! ## The round trip -/

/-- Saving and loading gives back a design that is saved as the same text and compiles to the same shader. It agrees
with the saved one if all numbers in it are numbers. What loading gives back can be saved in turn. -/
theorem load_save_restores :
    (∀ d : Design StandardNode, d.Reachable → d.IsStorable →
      ∃ d', load Command.registry d.save = .ok d' ∧ d'.save = d.save ∧ d'.compile = d.compile ∧
        ((∀ x ∈ d.numbers, x.isNaN = false) → d'.agrees d = true)) ∧
    ∀ (text : String) (d : Design StandardNode), load Command.registry text = .ok d → d.IsStorable := by
  constructor
  · intro d hReachable hStorable
    exact ⟨d.canonical, load_save_eq_canonical hReachable hStorable, d.save_canonical, d.alike_canonical.compile_eq,
      agrees_canonical⟩
  · exact fun _ _ hLoad => isStorable_of_load hLoad

/-- A uniform and an override that are added up for the terminal. -/
def glossy : Design StandardNode :=
  (empty .spatial).edited
    [.add .fragment 2 .origin (.uniform (.value { type := .scalar, name := "my gloss" })),
      .add .fragment 3 .origin (.operator (.scalar .add)), .setDefault .fragment 3 1 (.scalar .half),
      .connect .fragment ⟨2, 0, 3, 0⟩, .connect .fragment ⟨3, 0, 0, 0⟩, .setFlag "unshaded" true]

theorem load_save_restores_glossy :
    glossy.Reachable ∧ glossy.IsStorable ∧ (glossy.graph .fragment).edges = [⟨2, 0, 3, 0⟩, ⟨3, 0, 0, 0⟩] ∧
      ∃ d', load Command.registry glossy.save = .ok d' ∧ d'.save = glossy.save ∧ d'.compile = glossy.compile ∧
        d'.agrees glossy = true := by
  have hReachable : glossy.Reachable := .edited (.new .spatial) (by decide)
  have hStorable : glossy.IsStorable := by decide +kernel
  have hNumbers : ∀ x ∈ glossy.numbers, x.isNaN = false := by decide +kernel
  have hEdges : (glossy.graph .fragment).edges = [⟨2, 0, 3, 0⟩, ⟨3, 0, 0, 0⟩] := by decide +kernel
  obtain ⟨d', hLoad, hSave, hCompile, hAgrees⟩ := load_save_restores.1 glossy hReachable hStorable
  exact ⟨hReachable, hStorable, hEdges, d', hLoad, hSave, hCompile, hAgrees hNumbers⟩

end Design

end ShadeGraph
