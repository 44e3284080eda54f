import ShadeGraph.Proofs.Canonical
import ShadeGraph.Proofs.Documents
import ShadeGraph.Proofs.Regular
import ShadeGraph.Proofs.Wiring

/-!
# Designs are restored from their documents

A document is built up into a design entry by entry. For the document of a regular design no entry is refused, and
each puts back what it was written for.
-/

namespace ShadeGraph

namespace StandardNode

theorem bind_canonical (mode : Mode) (stage : Stage) (n : StandardNode) :
    NodeModel.bind mode stage n.canonical = canonical (NodeModel.bind mode stage n) := by
  cases n <;> rfl

@[simp] theorem isTerminal_canonical (n : StandardNode) : n.canonical.isTerminal = n.isTerminal := by
  cases n <;> rfl

theorem Overrides.canonical {n : StandardNode} {port : Nat} {value : PortValue} (h : n.Overrides port value) :
    n.canonical.Overrides port value := by
  obtain ⟨hIndexed, hType, hLiteral⟩ := h
  refine ⟨hIndexed, fun hUser => ?_, hLiteral⟩
  rw [isTerminal_canonical] at hUser
  rw [← hType hUser]
  simp only [NodeModel.portType?, NodeModel.port?, NodeModel.ports, n.alike_canonical.inputs]

end StandardNode

/-- A table is put back entry by entry. -/
theorem Table.foldlM_entries {κ ω σ ε : Type} [DecidableEq κ] {step : σ → κ × ω → Except ε σ} {f : Table κ ω → σ}
    {t : Table κ ω} (h : ∀ u, ∀ e ∈ t.entries, step (f u) e = .ok (f (u.insert e.1 e.2))) :
    t.entries.foldlM step (f .empty) = .ok (f t) := by
  have hRun (l : List (κ × ω)) (hEntries : l ⊆ t.entries) (u : Table κ ω) :
      l.foldlM step (f u) = .ok (f (l.foldl (fun u e => u.insert e.1 e.2) u)) := by
    induction l generalizing u with
    | nil => rfl
    | cons e rest ih =>
      obtain ⟨hEntry, hRest⟩ := List.cons_subset.mp hEntries
      rw [List.foldlM_cons, h u e hEntry]
      exact ih hRest (u.insert e.1 e.2)
  rw [hRun t.entries (List.Subset.refl _)]
  exact congrArg (fun u => Except.ok (f u)) t.ofList_entries

/-! ## Graphs -/

/-- What belongs to a stage is found again among what belongs to all. -/
theorem Stage.filter_flatMap_all {α : Type} {f : Stage → List α} {key : α → Stage}
    (h : ∀ stage, ∀ a ∈ f stage, key a = stage) (stage : Stage) : (all.flatMap f).filter (key · = stage) = f stage := by
  have hSame : (f stage).filter (key · = stage) = f stage :=
    List.filter_eq_self.mpr fun a hMem => decide_eq_true (h stage a hMem)
  have hOther {stage' : Stage} (hNe : stage' ≠ stage) : (f stage').filter (key · = stage) = [] :=
    List.filter_eq_nil_iff.mpr fun a hMem => by simpa [h stage' a hMem] using hNe
  cases stage <;> simp [all, hSame, hOther]

namespace StageGraph

theorem modify_insert (g : StageGraph StandardNode) (id : NodeId) (n : PlacedNode StandardNode)
    (f : PlacedNode StandardNode → PlacedNode StandardNode) : (g.insert id n).modify id f = g.insert id (f n) := by
  rw [modify, insert, Table.modify_insert]
  rfl

theorem modify_output {g : StageGraph StandardNode} {n : PlacedNode StandardNode}
    (h : g.placed? .output = some n) (f : PlacedNode StandardNode → PlacedNode StandardNode) :
    g.modify .output f = g.insert .output (f n) := by
  have hLast : max g.lastId NodeId.output = g.lastId := by
    change (if g.lastId ≤ NodeId.output then NodeId.output else g.lastId) = g.lastId
    split
    · rename_i hLe
      exact UInt32.le_antisymm UInt32.zero_le hLe
    · rfl
  rw [modify, insert, Table.modify_eq_insert h, hLast]

theorem foldl_insert (l : List (NodeId × PlacedNode StandardNode)) (g : StageGraph StandardNode) :
    l.foldl (fun g x => g.insert x.1 x.2) g =
      { g with
        nodes := l.foldl (fun t x => t.insert x.1 x.2) g.nodes
        lastId := (l.map Prod.fst).foldl max g.lastId } := by
  induction l generalizing g with
  | nil => rfl
  | cons x rest ih =>
    rw [List.foldl_cons, ih]
    rfl

/-- The nodes of a graph, put into an empty one in their order, make the graph without its edges. -/
theorem foldl_insert_canonical {g : StageGraph StandardNode} (h : g.nodes.keys.head? = some .output) (mode : Mode)
    (stage : Stage) : g.nodes.entries.foldl (fun g x => g.insert x.1 x.2.canonical) (empty mode stage) =
      { g.canonical with edges := [] } := by
  have hKeys : g.canonical.nodes.entries.map Prod.fst = g.nodes.keys := Table.keys_mapValues g.nodes _
  have hMap : g.nodes.entries.foldl (fun g x => g.insert x.1 x.2.canonical) (empty mode stage) =
      g.canonical.nodes.entries.foldl (fun g x => g.insert x.1 x.2) (empty mode stage) := by
    rw [canonical, Table.mapValues, List.foldl_map]
  -- the terminal of the empty graph gives way to the one that comes first
  have hNodes : g.canonical.nodes.entries.foldl (fun t x => t.insert x.1 x.2) (empty mode stage).nodes =
      g.canonical.nodes := by
    rw [empty, Table.foldl_insert_insert (hKeys ▸ h)]
    exact g.canonical.nodes.ofList_entries
  rw [hMap, foldl_insert, hNodes, hKeys]
  rfl

end StageGraph

/-! ## Nodes put back one by one -/

namespace Design

variable {d D : Design StandardNode}

theorem loadDefault_write (site : Site) (g : StageGraph StandardNode) {m : StandardNode} (hUser : m.isTerminal = false)
    (position : Position) (overrides : Table Nat PortValue) {port : Nat} {value : PortValue}
    (h : m.Overrides port value) :
    loadDefault site (D.withGraph site.stage (g.insert site.id ⟨m, position, overrides⟩)) ⟨0, (port, value.write)⟩ =
      .ok (D.withGraph site.stage (g.insert site.id ⟨m, position, overrides.insert port value⟩)) := by
  obtain ⟨-, hType, text, hLiteral⟩ := h
  have hNode : ((D.withGraph site.stage (g.insert site.id ⟨m, position, overrides⟩)).graph site.stage).node? site.id =
      some m := by
    rw [graph_withGraph_self, StageGraph.node?, StageGraph.placed?_insert, if_pos rfl]
    rfl
  have hRead := value.read_write
  rw [PortValue.canonical_of_literal hLiteral] at hRead
  simp only [loadDefault, malformedOn, refusedOn, Except.bind_eq_ok_iff, Except.mapError_eq_ok_iff,
    Entry.orMalformed_eq_ok_iff]
  refine ⟨value.type, ?_, value, hRead, ?_⟩
  · rw [node?, hNode]
    exact hType hUser
  · refine setDefault_eq_ok_iff.mpr ⟨⟨m, hNode, hType hUser⟩, ⟨text, hLiteral⟩, ?_⟩
    rw [graph_withGraph_self, withGraph_withGraph, StageGraph.modify_insert]

theorem foldlM_loadDefault (site : Site) (g : StageGraph StandardNode) {m : StandardNode}
    (hUser : m.isTerminal = false) (position : Position)
    {overrides : Table Nat PortValue} (h : ∀ port value, overrides.get? port = some value → m.Overrides port value) :
    (overrides.entries.map fun x => (⟨0, (x.1, x.2.write)⟩ : OnLine (Nat × String))).foldlM (loadDefault site)
        (D.withGraph site.stage (g.insert site.id ⟨m, position, .empty⟩)) =
      .ok (D.withGraph site.stage (g.insert site.id ⟨m, position, overrides⟩)) := by
  rw [List.foldlM_map]
  exact Table.foldlM_entries (f := fun t => D.withGraph site.stage (g.insert site.id ⟨m, position, t⟩)) fun t x hMem =>
    loadDefault_write site g hUser position t (h x.1 x.2 (Table.get?_eq_some_iff.mpr hMem))

/-! ## All nodes of a design -/

/-- There are no output nodes but those that the stages start with. -/
def OutputsInPlace (d : Design StandardNode) : Prop :=
  ∀ stage id n, d.placed? stage id = some n → n.node.isTerminal = true → id = .output

theorem OutputsInPlace.isTerminal_eq_false (h : d.OutputsInPlace) {stage : Stage} {id : NodeId}
    {n : PlacedNode StandardNode} (hPlaced : d.placed? stage id = some n) (hUser : id ≠ .output) :
    n.node.isTerminal = false := by
  rw [← Bool.not_eq_true]
  exact fun hTerminal => hUser (h stage id n hPlaced hTerminal)

/-- What a document can hold: every node is permitted where it stands, output nodes are in their places, and none of
them has an override. -/
structure IsStorable (d : Design StandardNode) : Prop where
  permitted : ∀ stage id n, d.placed? stage id = some n → NodeModel.isPermitted n.node d.mode stage = true
  outputs : d.OutputsInPlace
  terminal : ∀ stage n, d.placed? stage .output = some n → n.overrides = .empty

/-- What stands in for a pending node: the terminal is there from the start, other nodes are not. -/
def blank? (mode : Mode) (site : Site) : Option (PlacedNode StandardNode) :=
  if site.id = .output then some ⟨.output ⟨mode, site.stage⟩, StageGraph.terminalPosition, .empty⟩ else none

def restore (D : Design StandardNode) (x : Site × PlacedNode StandardNode) : Design StandardNode :=
  D.withGraph x.1.stage ((D.graph x.1.stage).insert x.1.id x.2.canonical)

/-- A design on the way to being restored: the nodes at the pending sites are blank, all others are back, and with the
pending ones every stage has its nodes. -/
structure Restoring (d D : Design StandardNode) (pending : List (Site × PlacedNode StandardNode)) : Prop where
  header : { D with stages := d.canonical.stages } = d.canonical
  nodup : (pending.map Prod.fst).Nodup
  placed : ∀ x ∈ pending, d.placed? x.1.stage x.1.id = some x.2
  blank : ∀ x ∈ pending, D.placed? x.1.stage x.1.id = blank? d.mode x.1
  back : ∀ site, site ∉ pending.map Prod.fst →
    D.placed? site.stage site.id = (d.placed? site.stage site.id).map PlacedNode.canonical
  graph : ∀ stage,
    (pending.filter (·.1.stage = stage)).foldl (fun g x => g.insert x.1.id x.2.canonical) (D.graph stage) =
      { (d.graph stage).canonical with edges := [] }

theorem placed?_restore (D : Design StandardNode) (x : Site × PlacedNode StandardNode) (site : Site) :
    (D.restore x).placed? site.stage site.id =
      if site = x.1 then some x.2.canonical else D.placed? site.stage site.id := by
  obtain ⟨⟨stage, id⟩, n⟩ := x
  obtain ⟨stage', id'⟩ := site
  rw [restore, placed?_withGraph, StageGraph.placed?_insert]
  by_cases hStage : stage' = stage
  · subst hStage
    by_cases hId : id' = id
    · simp [hId]
    · simp [hId, placed?]
  · simp [hStage]

namespace Restoring

variable {x : Site × PlacedNode StandardNode} {pending : List (Site × PlacedNode StandardNode)}

theorem mode_eq (h : Restoring d D pending) : D.mode = d.mode := (congrArg Design.mode h.header :)

theorem restore (h : Restoring d D (x :: pending)) : Restoring d (D.restore x) pending := by
  obtain ⟨hFresh, hNodup⟩ := List.nodup_cons.mp h.nodup
  refine ⟨h.header, hNodup, fun y hMem => h.placed y (List.mem_cons_of_mem x hMem), ?_, ?_, ?_⟩
  · intro y hMem
    have hNe : y.1 ≠ x.1 := fun hSame => hFresh (hSame ▸ List.mem_map_of_mem hMem)
    rw [placed?_restore, if_neg hNe]
    exact h.blank y (List.mem_cons_of_mem x hMem)
  · intro site hDone
    rw [placed?_restore]
    split
    · rename_i hSame
      rw [hSame, h.placed x List.mem_cons_self]
      rfl
    · rename_i hNe
      apply h.back
      simp [hNe, hDone]
  · intro stage
    rw [← h.graph stage, Design.restore, graph_withGraph]
    by_cases hStage : stage = x.1.stage
    · subst hStage
      rw [if_pos rfl, List.filter_cons_of_pos (by simp)]
      rfl
    · rw [if_neg hStage, List.filter_cons_of_neg (by simpa using Ne.symm hStage)]

/-- No node that is back has the name of a pending one. -/
theorem uniformName?_not_mem (h : Restoring d D (x :: pending)) (hRegular : d.NodesRegular) {name : String}
    (hName : NodeModel.uniformName? x.2.node = some name) : name ∉ D.uniformNames none := by
  intro hMem
  obtain ⟨stage, id, n, hPlaced, -, hSame⟩ := mem_uniformNames_iff.mp hMem
  by_cases hPending : (⟨stage, id⟩ : Site) ∈ (x :: pending).map Prod.fst
  · obtain ⟨y, hMem, hSite⟩ := List.mem_map.mp hPending
    have hBlank := h.blank y hMem
    rw [hSite, hPlaced, blank?] at hBlank
    split at hBlank
    · cases hBlank
      cases hSame
    · cases hBlank
  -- a node that is back has the name that it has in `d`, where names differ
  · rw [h.back ⟨stage, id⟩ hPending, Option.map_eq_some_iff] at hPlaced
    obtain ⟨old, hOld, rfl⟩ := hPlaced
    have hOldName : NodeModel.uniformName? old.node = some name := by
      rw [← hSame]
      exact old.node.alike_canonical.uniformName?.symm
    have hSite := hRegular.names _ _ _ _ _ _ _ hOld (h.placed x List.mem_cons_self) hOldName hName
    exact hPending (List.mem_map.mpr ⟨x, List.mem_cons_self, hSite.symm⟩)

theorem loadNode_terminal (h : Restoring d D (x :: pending)) (hRegular : d.NodesRegular) (hOutput : x.1.id = .output)
    (hOverrides : x.2.overrides = .empty) :
    loadNode Command.registry D (x.1, savedRecord x.1.id x.2) = .ok (D.restore x) := by
  have hPlaced := h.placed x List.mem_cons_self
  have hBlank := h.blank x List.mem_cons_self
  rw [hOutput] at hPlaced hBlank
  rw [blank?, if_pos hOutput] at hBlank
  have hMove : D.move x.1.stage .output x.2.position.canonical = .ok (D.restore x) := by
    refine move_eq_ok_iff.mpr ⟨⟨_, StageGraph.node?_eq_some_iff.mpr ⟨_, hBlank, rfl⟩⟩, ?_⟩
    rw [StageGraph.modify_output hBlank, Design.restore, PlacedNode.canonical, hRegular.terminal _ _ hPlaced,
      hOverrides, hOutput]
    rfl
  rw [loadNode, if_pos hOutput, savedRecord, if_pos hOutput]
  simp only [loadTerminal, refusedOn, hMove]
  rfl

theorem loadNode_user (h : Restoring d D (x :: pending)) (hRegular : d.NodesRegular) (hUser : x.1.id ≠ .output)
    (hKind : x.2.node.isTerminal = false)
    (hPermitted : NodeModel.isPermitted x.2.node d.mode x.1.stage = true) :
    loadNode Command.registry D (x.1, savedRecord x.1.id x.2) = .ok (D.restore x) := by
  obtain ⟨hFirst, hNode⟩ := hRegular.user _ _ _ (h.placed x List.mem_cons_self) hUser
  have hSanitized : ∀ name, x.2.node.uniformName? = some name → UniformName.sanitize name = name := fun name hName =>
    UniformName.sanitize_of_isName (hNode.isName name hName)
  obtain ⟨start, m, hStart, hParams, hBind⟩ := exists_loaded ⟨hKind, hNode.isUsable⟩ hSanitized
  -- the node that was made is bound and named as the one that was saved
  have hBound : NodeModel.bind D.mode x.1.stage m = x.2.node.canonical := by
    rw [hBind, h.mode_eq, StandardNode.bind_canonical, hNode.bind_eq]
  have hNamed : D.named x.2.node.canonical = .ok x.2.node.canonical := by
    rw [named, x.2.node.alike_canonical.uniformName?]
    split
    · rfl
    · rename_i name hName
      have hFree := h.uniformName?_not_mem hRegular hName
      rw [if_pos]
      rw [uniformNameFor, UniformName.sanitize_of_isName (hNode.isName name hName), UniformName.unique_of_not_mem hFree]
  have hAdd : D.add x.1.stage x.1.id x.2.position.canonical m = .ok (D.withGraph x.1.stage
      ((D.graph x.1.stage).insert x.1.id ⟨x.2.node.canonical, x.2.position.canonical, .empty⟩)) := by
    refine add_eq_ok_iff.mpr ⟨hFirst, ?_, ?_, x.2.node.canonical, ?_, rfl⟩
    · have hBlank := h.blank x List.mem_cons_self
      rw [blank?, if_neg hUser] at hBlank
      by_contra hContains
      obtain ⟨n, hPlaced⟩ := StageGraph.contains_iff.mp (Bool.not_eq_false _ ▸ hContains)
      cases hBlank.symm.trans hPlaced
    · rw [← StandardNode.isPermitted_bind D.mode x.1.stage m, hBound, x.2.node.alike_canonical.isPermitted, h.mode_eq]
      exact hPermitted
    · rw [hBound]
      exact hNamed
  simp only [loadNode, savedRecord, hUser, if_false, pure_bind, refusedOn, Except.bind_eq_ok_iff,
    Except.mapError_eq_ok_iff]
  refine ⟨start, hStart, m, hParams, _, hAdd, ?_⟩
  refine foldlM_loadDefault x.1 _ ?_ _ fun port value hGet => (hNode.overrides port value hGet).canonical
  rw [StandardNode.isTerminal_canonical, hKind]

theorem exists_loadNode (h : Restoring d D (x :: pending)) (hRegular : d.NodesRegular) (hStorable : d.IsStorable) :
    ∃ D', loadNode Command.registry D (x.1, savedRecord x.1.id x.2) = .ok D' ∧ Restoring d D' pending := by
  have hPlaced := h.placed x List.mem_cons_self
  refine ⟨D.restore x, ?_, h.restore⟩
  by_cases hOutput : x.1.id = .output
  · exact h.loadNode_terminal hRegular hOutput (hStorable.terminal x.1.stage x.2 (hOutput ▸ hPlaced))
  · exact h.loadNode_user hRegular hOutput (hStorable.outputs.isTerminal_eq_false hPlaced hOutput)
      (hStorable.permitted _ _ _ hPlaced)

end Restoring

theorem mem_sites_iff {x : Site × PlacedNode StandardNode} :
    x ∈ Stage.all.flatMap d.sites ↔ d.placed? x.1.stage x.1.id = some x.2 := by
  obtain ⟨⟨stage, id⟩, n⟩ := x
  simp only [List.mem_flatMap, sites, List.mem_map, placed?, StageGraph.placed?, Table.get?_eq_some_iff]
  constructor
  · rintro ⟨stage', -, y, hMem, hSame⟩
    cases hSame
    exact hMem
  · exact fun hMem => ⟨stage, stage.mem_all, (id, n), hMem, rfl⟩

theorem restoring_empty (hRegular : d.NodesRegular) :
    Restoring d { empty d.mode with settings := d.settings, offset := d.offset.canonical }
      (Stage.all.flatMap d.sites) := by
  refine ⟨rfl, d.nodup_sites, fun x hMem => mem_sites_iff.mp hMem, ?_, ?_, ?_⟩
  · intro x _
    exact placed?_empty d.mode x.1.stage x.1.id
  · intro site hNew
    have hNone : d.placed? site.stage site.id = none := by
      rw [Option.eq_none_iff_forall_ne_some]
      exact fun n hPlaced => hNew (List.mem_map.mpr ⟨(site, n), mem_sites_iff.mpr hPlaced, rfl⟩)
    -- a terminal is a site of every stage
    have hUser : site.id ≠ .output := by
      intro hOutput
      have hMem : .output ∈ (d.graph site.stage).nodes.keys := List.mem_of_mem_head? (hRegular.first site.stage)
      obtain ⟨n, hPlaced⟩ := Table.mem_keys_iff.mp hMem
      rw [hOutput] at hNone
      cases hNone.symm.trans hPlaced
    rw [hNone]
    exact (placed?_empty d.mode site.stage site.id).trans (if_neg hUser)
  · intro stage
    have hSites : (Stage.all.flatMap d.sites).filter (·.1.stage = stage) = d.sites stage := by
      refine Stage.filter_flatMap_all ?_ stage
      intro stage x hMem
      obtain ⟨y, -, rfl⟩ := List.mem_map.mp hMem
      rfl
    rw [hSites, sites, List.foldl_map]
    exact (congrArg (List.foldl _ · _) (PerStage.get_ofFn (StageGraph.empty d.mode) stage)).trans
      (StageGraph.foldl_insert_canonical (hRegular.first stage) d.mode stage)

theorem exists_foldlM_loadNode (hRegular : d.NodesRegular) (hStorable : d.IsStorable) :
    ∃ D, (d.savedNodes Stage.all).foldlM (loadNode Command.registry)
        { empty d.mode with settings := d.settings, offset := d.offset.canonical } = .ok D ∧ Restoring d D [] := by
  rw [savedNodes, List.foldlM_map]
  exact Except.exists_foldlM_eq_ok (fun D x rest h => h.exists_loadNode hRegular hStorable)
    (restoring_empty hRegular)

/-! ## Edges -/

theorem loadNodeId_toNat (id : NodeId) : loadNodeId id.toNat = .ok id := by
  have hLe : id.toNat ≤ NodeId.greatest.toNat := Nat.le_of_lt_succ id.toNat_lt
  rw [loadNodeId, if_pos hLe, UInt32.ofNat_toNat]

/-- A design whose nodes are back: with the pending edges every stage is back. -/
structure Rejoining (d D : Design StandardNode) (pending : List (Stage × Edge)) : Prop where
  header : { D with stages := d.canonical.stages } = d.canonical
  graph : ∀ stage, { D.graph stage with
    edges := (D.graph stage).edges ++ (pending.filter (·.1 = stage)).map Prod.snd } = (d.graph stage).canonical

/-- An edge is put back behind those that came before it: none of them feeds its input. -/
theorem Rejoining.exists_loadEdge {x : Stage × Edge} {pending : List (Stage × Edge)} (h : Rejoining d D (x :: pending))
    (hWired : ∀ stage, (d.graph stage).Wired) :
    ∃ D', loadEdge D ⟨0, (x.1, .ofEdge x.2)⟩ = .ok D' ∧ Rejoining d D' pending := by
  obtain ⟨stage, e⟩ := x
  have hGraph := h.graph stage
  rw [List.filter_cons_of_pos (by simp), List.map_cons] at hGraph
  have hNodes : (D.graph stage).nodes = (d.graph stage).canonical.nodes := (congrArg StageGraph.nodes hGraph :)
  have hEdges : (D.graph stage).edges ++ e :: (pending.filter (·.1 = stage)).map Prod.snd = (d.graph stage).edges :=
    (congrArg StageGraph.edges hGraph :)
  have hRange : (D.graph stage).inRange e = true := by
    have hNode (id : NodeId) : (D.graph stage).node? id = (d.graph stage).canonical.node? id := by
      rw [StageGraph.node?, StageGraph.node?, StageGraph.placed?, hNodes]
      rfl
    have hAlike := d.alike_canonical.graph stage
    rw [graph_canonical] at hAlike
    rw [StageGraph.inRange_congr (hNode _) (hNode _), hAlike.inRange_eq]
    exact (hWired stage).inRange e (hEdges ▸ List.mem_append_right _ List.mem_cons_self)
  -- the edges that are back come before this one in `d`, where every input is fed once
  have hFree : (D.graph stage).edges.filter (!·.feeds e.target e.input) = (D.graph stage).edges := by
    have hNodup := (hWired stage).inputs_nodup
    rw [← hEdges, List.map_append, List.map_cons] at hNodup
    refine List.filter_eq_self.mpr fun f hMem => ?_
    by_contra hFeeds
    simp only [Edge.feeds, Bool.not_eq_true, Bool.not_eq_false', Bool.and_eq_true, decide_eq_true_eq] at hFeeds
    exact (List.nodup_append.mp hNodup).2.2 _ (List.mem_map_of_mem hMem) _ List.mem_cons_self (by simp [hFeeds])
  have hJoin : D.join stage e =
      .ok (D.withGraph stage { D.graph stage with edges := (D.graph stage).edges ++ [e] }) :=
    join_eq_ok_iff.mpr ⟨_, StageGraph.join_eq_ok_iff.mpr ⟨hRange, by rw [hFree]⟩, rfl⟩
  refine ⟨D.withGraph stage { D.graph stage with edges := (D.graph stage).edges ++ [e] }, ?_, h.header, ?_⟩
  · simp only [loadEdge, malformedOn, refusedOn, Except.bind_eq_ok_iff, Except.mapError_eq_ok_iff]
    exact ⟨e.source, loadNodeId_toNat _, e.target, loadNodeId_toNat _, hJoin⟩
  · intro stage'
    rw [← h.graph stage', graph_withGraph]
    by_cases hStage : stage' = stage
    · subst hStage
      rw [if_pos rfl, List.filter_cons_of_pos (by simp)]
      simp
    · rw [if_neg hStage, List.filter_cons_of_neg (by simpa using Ne.symm hStage)]

theorem Rejoining.eq_canonical (h : Rejoining d D []) : D = d.canonical := by
  have hStages : D.stages = d.canonical.stages := by
    apply PerStage.ext_get
    intro stage
    have hGraph := h.graph stage
    rw [List.filter_nil, List.map_nil, List.append_nil, ← graph_canonical] at hGraph
    exact hGraph
  rw [← h.header, ← hStages]

theorem foldlM_loadEdge (h : Restoring d D []) (hWired : ∀ stage, (d.graph stage).Wired) :
    (d.savedEdges Stage.all).foldlM loadEdge D = .ok d.canonical := by
  let l := Stage.all.flatMap fun stage => (d.graph stage).edges.map (Prod.mk stage)
  have hSaved : d.savedEdges Stage.all = l.map fun x => ⟨0, (x.1, .ofEdge x.2)⟩ := by
    simp [savedEdges, l, List.map_flatMap, Function.comp_def]
  have hStart : Rejoining d D l := by
    refine ⟨h.header, fun stage => ?_⟩
    have hStage : l.filter (·.1 = stage) = (d.graph stage).edges.map (Prod.mk stage) := by
      refine Stage.filter_flatMap_all ?_ stage
      intro stage x hMem
      obtain ⟨e, -, rfl⟩ := List.mem_map.mp hMem
      rfl
    have hGraph : D.graph stage = { (d.graph stage).canonical with edges := [] } := h.graph stage
    rw [hStage, hGraph, List.map_map]
    simp [StageGraph.canonical, Function.comp_def]
  obtain ⟨D', hRun, hEnd⟩ := Except.exists_foldlM_eq_ok (fun D x rest h => h.exists_loadEdge hWired) hStart
  rw [hSaved, List.foldlM_map, hRun, hEnd.eq_canonical]

/-! ## Whole designs -/

theorem foldlM_setOption (D : Design StandardNode) {options : Table String Nat}
    (h : ∀ group option, options.get? group = some option → D.mode.hasOption group option = true)
    (hEmpty : D.settings.options = .empty) :
    (options.entries.map (OnLine.mk 0)).foldlM (fun d o => refusedOn o.line (d.setOption o.value.1 o.value.2)) D =
      .ok { D with settings := { D.settings with options } } := by
  have hStart : D = { D with settings := { D.settings with options := .empty } } := by rw [← hEmpty]
  rw [List.foldlM_map, hStart]
  refine Table.foldlM_entries (f := fun t => { D with settings := { D.settings with options := t } }) ?_
  intro t x hMem
  rw [refusedOn, Except.mapError_eq_ok_iff]
  exact setOption_eq_ok_iff.mpr ⟨h x.1 x.2 (Table.get?_eq_some_iff.mpr hMem), rfl⟩

theorem foldlM_setFlag (D : Design StandardNode) {flags : List String} (h : ∀ flag ∈ flags, D.mode.hasFlag flag = true)
    (hNodup : flags.Nodup) (hEmpty : D.settings.flags = []) :
    (flags.map (OnLine.mk 0)).foldlM (fun d f => refusedOn f.line (d.setFlag f.value true)) D =
      .ok { D with settings := { D.settings with flags } } := by
  let P (D' : Design StandardNode) (rest : List String) : Prop :=
    ∃ l, D' = { D with settings := { D.settings with flags := l } } ∧ l ++ rest = flags
  have hStep : ∀ D' flag rest, P D' (flag :: rest) →
      ∃ D'', refusedOn 0 (D'.setFlag flag true) = .ok D'' ∧ P D'' rest := by
    rintro - flag rest ⟨l, rfl, rfl⟩
    -- a flag that is on already would be skipped
    have hNew : flag ∉ l := fun hMem => (List.nodup_append.mp hNodup).2.2 _ hMem flag List.mem_cons_self rfl
    refine ⟨{ D with settings := { D.settings with flags := l ++ [flag] } }, ?_, l ++ [flag], rfl, by simp⟩
    rw [refusedOn, Except.mapError_eq_ok_iff]
    refine setFlag_eq_ok_iff.mpr ⟨h flag (List.mem_append_right l List.mem_cons_self), ?_⟩
    simp [RenderSettings.enable, hNew]
  have hStart : P D flags := ⟨[], by rw [← hEmpty], rfl⟩
  obtain ⟨D', hRun, l, rfl, hAll⟩ := Except.exists_foldlM_eq_ok hStep hStart
  rw [List.append_nil] at hAll
  subst hAll
  rw [List.foldlM_map]
  exact hRun

/-- The settings of a document are never refused; what is left are its nodes and its edges. -/
theorem ofDocument_document_eq_ok_iff (hSettings : d.SettingsRegular) :
    ofDocument Command.registry d.document = .ok D ↔
      ∃ restored, (d.savedNodes Stage.all).foldlM (loadNode Command.registry)
          { empty d.mode with settings := d.settings, offset := d.offset.canonical } = .ok restored ∧
        (d.savedEdges Stage.all).foldlM loadEdge restored = .ok D := by
  let start : Design StandardNode := (empty d.mode).scroll d.offset.canonical
  have hOptions := foldlM_setOption start hSettings.options rfl
  have hFlags := foldlM_setFlag { start with settings := { start.settings with options := d.settings.options } }
    hSettings.flags hSettings.flags_nodup rfl
  have hEntries : (Table.ofList (d.savedNodes Stage.all)).entries = d.savedNodes Stage.all := by
    apply Table.entries_ofList
    rw [savedNodes, List.map_map]
    exact d.nodup_sites
  simp only [ofDocument, Except.bind_eq_ok_iff]
  constructor
  · rintro ⟨_, hFirst, _, hSecond, restored, hNodes, hEdges⟩
    cases hOptions.symm.trans hFirst
    cases hFlags.symm.trans hSecond
    rw [document, hEntries] at hNodes
    exact ⟨restored, hNodes, hEdges⟩
  · rintro ⟨restored, hNodes, hEdges⟩
    refine ⟨_, hOptions, _, hFlags, restored, ?_, hEdges⟩
    rw [document, hEntries]
    exact hNodes

/-- The document of a design restores what it keeps of it. -/
theorem ofDocument_document (hNodes : d.NodesRegular) (hSettings : d.SettingsRegular)
    (hWired : ∀ stage, (d.graph stage).Wired) (hStorable : d.IsStorable) :
    ofDocument Command.registry d.document = .ok d.canonical := by
  obtain ⟨restored, hRun, hRestored⟩ := exists_foldlM_loadNode hNodes hStorable
  exact (ofDocument_document_eq_ok_iff hSettings).mpr ⟨restored, hRun, foldlM_loadEdge hRestored hWired⟩

end Design

end ShadeGraph
