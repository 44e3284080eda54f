import ShadeGraph.Document.Save
import ShadeGraph.Proofs.Entries
import ShadeGraph.Proofs.Reload

/-!
# Documents as they are read back

Entries that are written one to a line are gathered into a document. The numbers of the lines matter only for
what is told when something fails, so they are dropped here: all is on line 0.
-/

namespace ShadeGraph

/-! ## Documents without line numbers -/

def OnLine.unnumbered {α : Type} (x : OnLine α) : OnLine α := ⟨0, x.value⟩

@[simp] theorem OnLine.value_unnumbered {α : Type} (x : OnLine α) : x.unnumbered.value = x.value := rfl

def NodeRecord.unnumbered (r : NodeRecord) : NodeRecord where
  kind? := r.kind?.map OnLine.unnumbered
  position? := r.position?.map OnLine.unnumbered
  params := r.params.map OnLine.unnumbered
  defaults := r.defaults.map OnLine.unnumbered

namespace Document

def unnumbered (doc : Document) : Document where
  mode := doc.mode
  options := doc.options.map OnLine.unnumbered
  flags := doc.flags.map OnLine.unnumbered
  offset := doc.offset
  nodes := doc.nodes.mapValues fun _ r => r.unnumbered
  edges := doc.edges.map OnLine.unnumbered

theorem unnumbered_withRecord (doc : Document) (site : Site) {f g : NodeRecord → NodeRecord}
    (h : ∀ r, (f r).unnumbered = g r.unnumbered) :
    (doc.withRecord site f).unnumbered = doc.unnumbered.withRecord site g := by
  have hRecord : doc.unnumbered.record site = (doc.record site).unnumbered := by
    simp only [record, unnumbered, Table.get?_mapValues]
    cases doc.nodes.get? site <;> rfl
  simp only [withRecord, hRecord, ← h]
  simp only [unnumbered, Table.mapValues_insert]

def addEntry (doc : Document) (e : Entry) : Document := doc.add ⟨0, e⟩

theorem unnumbered_add (doc : Document) (entry : OnLine Entry) :
    (doc.add entry).unnumbered = doc.unnumbered.addEntry entry.value := by
  obtain ⟨line, e⟩ := entry
  cases e with
  | mode | offset => rfl
  | options | flags | edges => simp [add, addEntry, unnumbered, OnLine.unnumbered]
  | kind site | position site =>
    simp only [add, addEntry]
    exact unnumbered_withRecord doc site fun _ => rfl
  | param site | default site =>
    simp only [add, addEntry]
    apply unnumbered_withRecord
    intro r
    simp [NodeRecord.unnumbered, OnLine.unnumbered]

theorem foldlM_readLine {entries : List Entry} (h : ∀ e ∈ entries, e.IsSavable) (doc : Document) (number : Nat) :
    ∃ doc', (((entries.map Entry.line).zipIdx number).map fun x => (⟨x.2, x.1⟩ : OnLine (List Char))).foldlM
        readLine doc = .ok doc' ∧
      doc'.unnumbered = (entries.map Entry.canonical).foldl addEntry doc.unnumbered := by
  -- the number of the line goes into the document, so it is general
  induction entries generalizing doc number with
  | nil => exact ⟨doc, rfl, rfl⟩
  | cons e rest ih =>
    obtain ⟨doc', hRead, hDoc⟩ := ih (fun e' hMem => h e' (List.mem_cons_of_mem e hMem))
      (doc.add ⟨number, e.canonical⟩) (number + 1)
    refine ⟨doc', ?_, ?_⟩
    · rw [List.map_cons, List.zipIdx_cons, List.map_cons, List.foldlM_cons, Except.bind_eq_ok_iff]
      refine ⟨doc.add ⟨number, e.canonical⟩, ?_, hRead⟩
      simp only [readLine, malformedOn, Entry.readLine_line (h e List.mem_cons_self)]
      rfl
    · rw [hDoc, unnumbered_add]
      rfl

theorem lines_write {entries : List Entry} (h : ∀ e ∈ entries, e.IsSavable) :
    Text.lines (Text.concat (entries.map Entry.write)).toList = entries.map Entry.line := by
  have hText : (Text.concat (entries.map Entry.write)).toList = (entries.map Entry.line).flatMap (· ++ ['\n']) := by
    rw [Text.toList_concat, List.flatMap_map, List.flatMap_map]
    exact List.flatMap_congr fun e _ => e.toList_write
  rw [hText]
  apply Text.lines_flatMap
  intro text hMem
  obtain ⟨e, hEntry, rfl⟩ := List.mem_map.mp hMem
  exact Entry.isLine_line (h e hEntry)

theorem read_write {entries : List Entry} (h : ∀ e ∈ entries, e.IsSavable) :
    ∃ doc, read (Text.concat (entries.map Entry.write)) = .ok doc ∧
      doc.unnumbered = (entries.map Entry.canonical).foldl addEntry {} := by
  obtain ⟨doc, hRead, hDoc⟩ := foldlM_readLine h {} 1
  refine ⟨doc, ?_, hDoc⟩
  rw [read, numberedLines, lines_write h]
  exact hRead

end Document

/-! ## Line numbers do not matter -/

namespace Design

variable {d d' : Design StandardNode}

theorem loadParam_unnumbered {kind : String} {n m : StandardNode} {param : OnLine (String × String)} :
    loadParam kind n param.unnumbered = .ok m ↔ loadParam kind n param = .ok m := by
  simp only [loadParam, malformedOn, refusedOn, Except.bind_eq_ok_iff, Except.mapError_eq_ok_iff, OnLine.unnumbered]
  rfl

theorem loadDefault_unnumbered {site : Site} {default : OnLine (Nat × String)} :
    loadDefault site d default.unnumbered = .ok d' ↔ loadDefault site d default = .ok d' := by
  obtain ⟨line, port, text⟩ := default
  simp only [loadDefault, malformedOn, refusedOn, Except.bind_eq_ok_iff, Except.mapError_eq_ok_iff, OnLine.unnumbered]

theorem loadNode_unnumbered {site : Site} {r : NodeRecord} :
    loadNode Command.registry d (site, r.unnumbered) = .ok d' ↔ loadNode Command.registry d (site, r) = .ok d' := by
  obtain ⟨kind?, position?, params, defaults⟩ := r
  have hPosition : ((position?.map OnLine.unnumbered).map OnLine.value) = position?.map OnLine.value := by
    rw [Option.map_map]
    rfl
  by_cases hOutput : site.id = .output
  · simp only [loadNode, hOutput, if_true, loadTerminal, NodeRecord.unnumbered]
    cases position? with
    | none => rfl
    | some position => simp only [Option.map_some, refusedOn, Except.mapError_eq_ok_iff, OnLine.unnumbered]
  · simp only [loadNode, hOutput, if_false, NodeRecord.unnumbered, hPosition]
    cases kind? with
    | none => simp
    | some kind =>
      simp only [Option.map_some, pure_bind, refusedOn, Except.bind_eq_ok_iff, Except.mapError_eq_ok_iff,
        OnLine.value_unnumbered, Except.foldlM_map_eq_ok_iff fun _ _ _ => loadParam_unnumbered,
        Except.foldlM_map_eq_ok_iff fun _ _ _ => loadDefault_unnumbered]

theorem loadEdge_unnumbered {edge : OnLine (Stage × EdgeNumbers)} :
    loadEdge d edge.unnumbered = .ok d' ↔ loadEdge d edge = .ok d' := by
  obtain ⟨line, stage, numbers⟩ := edge
  simp only [loadEdge, malformedOn, refusedOn, Except.bind_eq_ok_iff, Except.mapError_eq_ok_iff, OnLine.unnumbered]

theorem ofDocument_unnumbered {doc : Document} :
    ofDocument Command.registry doc.unnumbered = .ok d ↔ ofDocument Command.registry doc = .ok d := by
  have hOptions {d d' : Design StandardNode} :
      doc.unnumbered.options.foldlM (fun d o => refusedOn o.line (d.setOption o.value.1 o.value.2)) d = .ok d' ↔
        doc.options.foldlM (fun d o => refusedOn o.line (d.setOption o.value.1 o.value.2)) d = .ok d' :=
    Except.foldlM_map_eq_ok_iff fun _ _ _ => by
      simp only [refusedOn, Except.mapError_eq_ok_iff, OnLine.value_unnumbered]
  have hFlags {d d' : Design StandardNode} :
      doc.unnumbered.flags.foldlM (fun d f => refusedOn f.line (d.setFlag f.value true)) d = .ok d' ↔
        doc.flags.foldlM (fun d f => refusedOn f.line (d.setFlag f.value true)) d = .ok d' :=
    Except.foldlM_map_eq_ok_iff fun _ _ _ => by
      simp only [refusedOn, Except.mapError_eq_ok_iff, OnLine.value_unnumbered]
  have hNodes {d d' : Design StandardNode} :
      doc.unnumbered.nodes.entries.foldlM (loadNode Command.registry) d = .ok d' ↔
        doc.nodes.entries.foldlM (loadNode Command.registry) d = .ok d' :=
    Except.foldlM_map_eq_ok_iff fun _ _ _ => loadNode_unnumbered
  have hEdges {d d' : Design StandardNode} : doc.unnumbered.edges.foldlM loadEdge d = .ok d' ↔
      doc.edges.foldlM loadEdge d = .ok d' :=
    Except.foldlM_map_eq_ok_iff fun _ _ _ => loadEdge_unnumbered
  simp only [ofDocument, Except.bind_eq_ok_iff, hOptions, hFlags, hNodes, hEdges]
  rfl

end Design

/-! ## The document of a design -/

namespace Document

theorem withRecord_withRecord (doc : Document) (site : Site) (f g : NodeRecord → NodeRecord) :
    (doc.withRecord site f).withRecord site g = doc.withRecord site fun r => g (f r) := by
  have hRecord : (doc.withRecord site f).record site = f (doc.record site) := by
    simp [record, withRecord, Table.get?_insert]
  rw [withRecord, hRecord]
  simp only [withRecord, Table.insert_insert]

theorem foldl_addEntry_param (doc : Document) (site : Site) (f : NodeRecord → NodeRecord) (l : List (String × String)) :
    (l.map fun x => Entry.param site x.1 x.2).foldl addEntry (doc.withRecord site f) =
      doc.withRecord site fun r => { f r with params := (f r).params ++ l.map (OnLine.mk 0) } := by
  induction l generalizing f with
  | nil => simp
  | cons x rest ih =>
    rw [List.map_cons, List.foldl_cons, addEntry, add]
    simp only [withRecord_withRecord]
    rw [ih]
    simp

theorem foldl_addEntry_default (doc : Document) (site : Site) (f : NodeRecord → NodeRecord) (l : List (Nat × String)) :
    (l.map fun x => Entry.default site x.1 x.2).foldl addEntry (doc.withRecord site f) =
      doc.withRecord site fun r => { f r with defaults := (f r).defaults ++ l.map (OnLine.mk 0) } := by
  induction l generalizing f with
  | nil => simp
  | cons x rest ih =>
    rw [List.map_cons, List.foldl_cons, addEntry, add]
    simp only [withRecord_withRecord]
    rw [ih]
    simp

end Document

namespace Design

/-- What a document holds of a node. -/
def savedRecord (id : NodeId) (n : PlacedNode StandardNode) : NodeRecord :=
  if id = .output then { position? := some ⟨0, n.position.canonical⟩ }
  else
    { kind? := some ⟨0, n.node.kind⟩
      position? := some ⟨0, n.position.canonical⟩
      params := savedParams n.node
      defaults := n.overrides.entries.map fun x => ⟨0, (x.1, x.2.write)⟩ }

theorem foldl_nodeEntries {doc : Document} {site : Site} (hNew : site ∉ doc.nodes.keys) (n : PlacedNode StandardNode) :
    ((nodeEntries site n).map Entry.canonical).foldl Document.addEntry doc =
      { doc with nodes := doc.nodes.insert site (savedRecord site.id n) } := by
  have hRecord : doc.record site = {} := by
    rw [Document.record, Table.get?_eq_none_iff.mpr hNew]
    rfl
  by_cases hOutput : site.id = .output
  · simp only [nodeEntries, savedRecord, hOutput, if_true, List.map_cons, List.map_nil, List.foldl_cons, List.foldl_nil,
      Entry.canonical, Document.addEntry, Document.add, Document.withRecord, hRecord]
  · have hParams : ((NodeModel.slots n.node).map fun slot =>
        Entry.param site slot.spec.name (slot.value.write slot.spec.kind)).map Entry.canonical =
        ((NodeModel.slots n.node).map ParamSlot.saved).map fun x => Entry.param site x.1 x.2 := by
      rw [List.map_map, List.map_map]
      rfl
    have hDefaults : (n.overrides.entries.map fun x => Entry.default site x.1 x.2.write).map Entry.canonical =
        (n.overrides.entries.map fun x => (x.1, x.2.write)).map fun x => Entry.default site x.1 x.2 := by
      rw [List.map_map, List.map_map]
      rfl
    have hStart : ([Entry.kind site (NodeModel.kind n.node), .position site n.position].map Entry.canonical).foldl
        Document.addEntry doc = doc.withRecord site fun r =>
          { r with kind? := some ⟨0, n.node.kind⟩, position? := some ⟨0, n.position.canonical⟩ } := by
      simp only [List.map_cons, List.map_nil, List.foldl_cons, List.foldl_nil, Entry.canonical, Document.addEntry,
        Document.add, Document.withRecord_withRecord]
      rfl
    simp only [nodeEntries, savedRecord, hOutput, if_false, List.map_append, hParams, hDefaults, List.foldl_append,
      hStart]
    rw [Document.foldl_addEntry_param, Document.foldl_addEntry_default, Document.withRecord, hRecord]
    simp only [List.nil_append, List.map_map, savedParams]
    rfl

def sites (d : Design StandardNode) (stage : Stage) : List (Site × PlacedNode StandardNode) :=
  (d.graph stage).nodes.entries.map fun x => (⟨stage, x.1⟩, x.2)

/-- What a document holds of the nodes of some stages. -/
def savedNodes (d : Design StandardNode) (stages : List Stage) : List (Site × NodeRecord) :=
  (stages.flatMap d.sites).map fun x => (x.1, savedRecord x.1.id x.2)

/-- What a document holds of the edges of some stages. -/
def savedEdges (d : Design StandardNode) (stages : List Stage) : List (OnLine (Stage × EdgeNumbers)) :=
  stages.flatMap fun stage => (d.graph stage).edges.map fun e => ⟨0, (stage, .ofEdge e)⟩

theorem foldl_sites {doc : Document} {l : List (Site × PlacedNode StandardNode)}
    (h : (doc.nodes.keys ++ l.map Prod.fst).Nodup) :
    ((l.flatMap fun x => nodeEntries x.1 x.2).map Entry.canonical).foldl Document.addEntry doc =
      { doc with
        nodes := (l.map fun x => (x.1, savedRecord x.1.id x.2)).foldl (fun t e => t.insert e.1 e.2) doc.nodes } := by
  induction l generalizing doc with
  | nil => rfl
  | cons x rest ih =>
    have hNew : x.1 ∉ doc.nodes.keys := fun hMem => (List.nodup_append.mp h).2.2 _ hMem x.1 (by simp) rfl
    rw [List.flatMap_cons, List.map_append, List.foldl_append, foldl_nodeEntries hNew, ih]
    · rfl
    · rw [Table.keys_insert_of_not_mem _ hNew, List.append_assoc]
      exact h

theorem foldl_stageEntries (d : Design StandardNode) {stages : List Stage} {doc : Document}
    (h : (doc.nodes.keys ++ (stages.flatMap d.sites).map Prod.fst).Nodup) :
    ((stages.flatMap d.stageEntries).map Entry.canonical).foldl Document.addEntry doc =
      { doc with
        nodes := (d.savedNodes stages).foldl (fun t e => t.insert e.1 e.2) doc.nodes
        edges := doc.edges ++ d.savedEdges stages } := by
  induction stages generalizing doc with
  | nil => simp [savedNodes, savedEdges]
  | cons stage rest ih =>
    -- the sites of this stage are new to the document, and those to come are new after it
    rw [List.flatMap_cons, List.map_append, ← List.append_assoc] at h
    have hStage := (List.nodup_append.mp h).1
    have hNodes : (d.graph stage).nodes.entries.flatMap (fun x => nodeEntries ⟨stage, x.1⟩ x.2) =
        (d.sites stage).flatMap fun x => nodeEntries x.1 x.2 := by
      rw [sites, List.flatMap_map]
    have hKeys : ((d.sites stage).map fun x => (x.1, savedRecord x.1.id x.2)).map Prod.fst =
        (d.sites stage).map Prod.fst := by
      rw [List.map_map]
      rfl
    have hEdges (doc : Document) : ((if (d.graph stage).edges.isEmpty then [] else
        [Entry.edges stage ((d.graph stage).edges.map .ofEdge)]).map Entry.canonical).foldl Document.addEntry doc =
        { doc with edges := doc.edges ++ d.savedEdges [stage] } := by
      cases hEmpty : (d.graph stage).edges with
      | nil => simp [savedEdges, hEmpty]
      | cons e edges =>
        simp [savedEdges, hEmpty, Entry.canonical, Document.addEntry, Document.add, Function.comp_def]
    rw [List.flatMap_cons, List.map_append, List.foldl_append, stageEntries]
    simp only [List.map_append, List.foldl_append, hNodes, foldl_sites hStage, hEdges]
    rw [ih]
    · simp [savedNodes, savedEdges]
    · rw [Table.keys, Table.entries_foldl_insert (by rw [hKeys]; exact hStage), List.map_append, hKeys]
      exact h

theorem nodup_sites (d : Design StandardNode) : ((Stage.all.flatMap d.sites).map Prod.fst).Nodup := by
  have hSites (stage : Stage) : (d.sites stage).map Prod.fst = (d.graph stage).nodes.keys.map (Site.mk stage) := by
    rw [sites, List.map_map, Table.keys, List.map_map]
    rfl
  rw [List.map_flatMap, List.nodup_flatMap]
  refine ⟨?_, ?_⟩
  · intro stage _
    rw [hSites]
    exact (d.graph stage).nodes.keys_nodup.map fun id id' hSame => (Site.mk.inj hSame).2
  · have hStages : Stage.all.Nodup := by decide
    refine hStages.imp ?_
    intro stage stage' hNe site hMem hMem'
    simp only [hSites, List.mem_map] at hMem hMem'
    obtain ⟨id, -, rfl⟩ := hMem
    obtain ⟨id', -, hSame⟩ := hMem'
    exact hNe (Site.mk.inj hSame).1.symm

/-- What a saved design is read as, up to the numbers of lines. -/
def document (d : Design StandardNode) : Document where
  mode := d.mode
  options := d.settings.options.entries.map (OnLine.mk 0)
  flags := d.settings.flags.map (OnLine.mk 0)
  offset := d.offset.canonical
  nodes := .ofList (d.savedNodes Stage.all)
  edges := d.savedEdges Stage.all

theorem foldl_entries (d : Design StandardNode) :
    (d.entries.map Entry.canonical).foldl Document.addEntry {} = d.document := by
  rw [entries, List.map_append, List.foldl_append, foldl_stageEntries]
  · simp [document, Document.addEntry, Document.add, Entry.canonical, Table.ofList]
  · exact d.nodup_sites

/-- Loading a saved design builds what its document describes. -/
theorem load_save_eq_ok_iff {d d' : Design StandardNode} (h : ∀ e ∈ d.entries, e.IsSavable) :
    load Command.registry d.save = .ok d' ↔ ofDocument Command.registry d.document = .ok d' := by
  obtain ⟨doc, hRead, hDoc⟩ := Document.read_write h
  rw [foldl_entries] at hDoc
  rw [← hDoc, ofDocument_unnumbered, load, Except.bind_eq_ok_iff]
  constructor
  · rintro ⟨doc', hRead', hBuild⟩
    cases hRead.symm.trans hRead'
    exact hBuild
  · exact fun hBuild => ⟨doc, hRead, hBuild⟩

end Design

end ShadeGraph
