import Mathlib.Logic.Relation
import ShadeGraph.Command.Run
import ShadeGraph.Proofs.Standard

/-!
# Reachable designs

Users make designs by edits and by loading documents. A load is a run of edits too, apart from its edges,
which are joined with fewer checks. So what holds of the empty designs, and is kept by edits and joins, holds
of every reachable design.
-/

namespace ShadeGraph

/-! ## Indices in documents -/

theorem Text.index?_lt {text : List Char} {n : Nat} (h : index? text = some n) : n < indexBound := by
  simp only [index?, below?, Option.filter_eq_some_iff] at h
  simpa using h.2

/-- Both ports have numbers that fit a machine word. -/
def Edge.IsIndexed (e : Edge) : Prop := e.output < Text.indexBound ∧ e.input < Text.indexBound

instance (e : Edge) : Decidable e.IsIndexed :=
  inferInstanceAs (Decidable (e.output < Text.indexBound ∧ e.input < Text.indexBound))

namespace Entry

def IsIndexed : Entry → Prop
  | .default _ port _ => port < Text.indexBound
  | .edges _ list => ∀ e ∈ list, e.output < Text.indexBound ∧ e.input < Text.indexBound
  | _ => True

theorem orMalformed_eq_ok_iff {α : Type} {read : Option α} {cause : Malformed} {a : α} :
    orMalformed read cause = .ok a ↔ read = some a := by
  cases read <;> simp [orMalformed]

theorem readEdge_isIndexed {group : List Char} {e : EdgeNumbers} (h : readEdge group = .ok e) :
    e.output < Text.indexBound ∧ e.input < Text.indexBound := by
  simp only [readEdge, Except.throw_bind, Except.ite_throw_eq_ok_iff, Except.bind_eq_ok_iff] at h
  obtain ⟨-, numbers, hNumbers, hEdge⟩ := h
  have hIndexed : ∀ n ∈ numbers, n < Text.indexBound := by
    intro n hMem
    obtain ⟨part, -, hPart⟩ := Except.exists_of_mem_mapM hNumbers hMem
    exact Text.index?_lt (orMalformed_eq_ok_iff.mp hPart)
  split at hEdge
  · cases hEdge
    exact ⟨hIndexed _ (by simp), hIndexed _ (by simp)⟩
  · cases hEdge

theorem readEdges_isIndexed {value : List Char} {edges : List EdgeNumbers} (h : readEdges value = .ok edges) :
    ∀ e ∈ edges, e.output < Text.indexBound ∧ e.input < Text.indexBound := by
  simp only [readEdges, Except.bind_eq_ok_iff] at h
  obtain ⟨inner, -, hEdges⟩ := h
  intro e hMem
  obtain ⟨group, -, hEdge⟩ := Except.exists_of_mem_mapM hEdges hMem
  exact readEdge_isIndexed hEdge

theorem readNodeEntry_isIndexed {key value : List Char} {site : Site} {rest : List String} {entry : Entry}
    (h : readNodeEntry key value site rest = .ok entry) : entry.IsIndexed := by
  unfold readNodeEntry at h
  split at h
  · cases h
    trivial
  · obtain ⟨position, -, rfl⟩ := Except.map_eq_ok_iff.mp h
    trivial
  · obtain ⟨port, hPort, rfl⟩ := Except.map_eq_ok_iff.mp h
    exact Text.index?_lt (orMalformed_eq_ok_iff.mp hPort)
  · cases h
    trivial
  · cases h

theorem readPath_isIndexed {key value : List Char} {entry : Entry} (h : readPath key value = .ok entry) :
    entry.IsIndexed := by
  rw [readPath] at h
  split at h
  · simp only [Except.bind_eq_ok_iff, Except.pure_eq_ok_iff] at h
    obtain ⟨stage, -, edges, hEdges, rfl⟩ := h
    exact readEdges_isIndexed hEdges
  · simp only [Except.bind_eq_ok_iff] at h
    obtain ⟨stage, -, id, -, hEntry⟩ := h
    exact readNodeEntry_isIndexed hEntry
  · cases h

theorem readEntry_isIndexed {key value : List Char} {entry : Entry} (h : readEntry key value = .ok entry) :
    entry.IsIndexed := by
  rw [readEntry] at h
  split at h
  · obtain ⟨mode, -, rfl⟩ := Option.map_eq_some_iff.mp (orMalformed_eq_ok_iff.mp h)
    trivial
  · obtain ⟨choices, -, rfl⟩ := Except.map_eq_ok_iff.mp h
    trivial
  · cases h
    trivial
  · obtain ⟨position, -, rfl⟩ := Except.map_eq_ok_iff.mp h
    trivial
  · exact readPath_isIndexed h

theorem readLine_isIndexed {line : List Char} {entry : Entry} (h : readLine line = .ok (some entry)) :
    entry.IsIndexed := by
  rw [readLine] at h
  split at h
  · cases h
  · split at h
    · cases h
    · obtain ⟨_, hEntry, hSome⟩ := Except.map_eq_ok_iff.mp h
      cases hSome
      exact readEntry_isIndexed hEntry

end Entry

namespace Document

structure IsIndexed (doc : Document) : Prop where
  defaults : ∀ x ∈ doc.nodes.entries, ∀ default ∈ x.2.defaults, default.value.1 < Text.indexBound
  edges : ∀ edge ∈ doc.edges, edge.value.2.output < Text.indexBound ∧ edge.value.2.input < Text.indexBound

theorem IsIndexed.withRecord {doc : Document} (h : doc.IsIndexed) (site : Site) {f : NodeRecord → NodeRecord}
    (hRecord : ∀ r : NodeRecord, (∀ default ∈ r.defaults, default.value.1 < Text.indexBound) →
      ∀ default ∈ (f r).defaults, default.value.1 < Text.indexBound) : (doc.withRecord site f).IsIndexed := by
  refine ⟨?_, h.edges⟩
  rintro ⟨site', r⟩ hEntry
  have hGet := Table.get?_eq_some_iff.mpr hEntry
  rw [Document.withRecord, Table.get?_insert] at hGet
  split at hGet
  · cases hGet
    apply hRecord
    cases hOld : doc.nodes.get? site with
    | none => simp [record, hOld]
    | some old =>
      simp only [record, hOld, Option.getD_some]
      exact h.defaults _ (Table.get?_eq_some_iff.mp hOld)
  · exact h.defaults _ (Table.get?_eq_some_iff.mp hGet)

theorem IsIndexed.add {doc : Document} (h : doc.IsIndexed) {entry : OnLine Entry} (hEntry : entry.value.IsIndexed) :
    (doc.add entry).IsIndexed := by
  obtain ⟨line, value⟩ := entry
  cases value with
  | mode | options | flags | offset => exact ⟨h.defaults, h.edges⟩
  | kind site | position site | param site =>
    simp only [Document.add]
    exact h.withRecord site fun _ hDefaults => hDefaults
  | default site port text =>
    simp only [Document.add]
    apply h.withRecord site
    intro r hDefaults default hMem
    rcases List.mem_append.mp hMem with hOld | hNew
    · exact hDefaults default hOld
    · rw [List.mem_singleton.mp hNew]
      exact hEntry
  | edges stage list =>
    refine ⟨h.defaults, ?_⟩
    intro edge hMem
    rcases List.mem_append.mp hMem with hOld | hNew
    · exact h.edges edge hOld
    · obtain ⟨e, hEdge, rfl⟩ := List.mem_map.mp hNew
      exact hEntry e hEdge

/-- What is read is made of the entries that stand on the lines, one by one. -/
theorem read_induction {P : Document → Prop} {text : String} (hEmpty : P {})
    (hAdd : ∀ doc, P doc → ∀ line ∈ numberedLines text, ∀ entry, Entry.readLine line.value = .ok (some entry) →
      P (doc.add ⟨line.line, entry⟩)) {doc : Document} (h : read text = .ok doc) : P doc := by
  refine Except.foldlM_induction ?_ hEmpty h
  intro line hMem doc doc' hDoc hLine
  simp only [readLine, Except.bind_eq_ok_iff, malformedOn, Except.mapError_eq_ok_iff] at hLine
  obtain ⟨found?, hEntry, hNext⟩ := hLine
  cases found? with
  | none =>
    cases hNext
    exact hDoc
  | some entry =>
    cases hNext
    exact hAdd doc hDoc line hMem entry hEntry

theorem isIndexed_of_read {text : String} {doc : Document} (h : read text = .ok doc) : doc.IsIndexed := by
  refine read_induction ⟨by simp [Table.empty], by simp⟩ ?_ h
  intro doc hDoc line _ entry hEntry
  exact hDoc.add (Entry.readLine_isIndexed hEntry)

end Document

/-! ## Steps -/

/-- What the callers of an edit see to: an expression that is added can have its ports as local variables, and ports
have numbers that fit a machine word. -/
def Edit.IsWellFormed : Edit StandardNode → Prop
  | .add _ _ _ n => n.IsUsable
  | .setDefault _ _ port _ => port < Text.indexBound
  | .connect _ e => e.IsIndexed
  | _ => True

instance : DecidablePred Edit.IsWellFormed := fun edit =>
  match edit with
  | .add _ _ _ n => inferInstanceAs (Decidable n.IsUsable)
  | .setDefault _ _ port _ => inferInstanceAs (Decidable (port < Text.indexBound))
  | .connect _ e => inferInstanceAs (Decidable e.IsIndexed)
  | .setMode _ | .remove _ _ | .move _ _ _ | .setParam _ _ _ _ | .clearDefault _ _ _ | .disconnect _ _
  | .setOption _ _ | .clearOption _ | .setFlag _ _ | .scroll _ => .isTrue trivial

/-- An edit that takes no node away. -/
def Edit.KeepsNodes : Edit StandardNode → Prop
  | .remove _ _ => False
  | _ => True

namespace Design

/-- What may happen to a design: an edit, or the join that restores an edge. -/
inductive Step : Design StandardNode → Design StandardNode → Prop
  | edit {d d' : Design StandardNode} (edit : Edit StandardNode) (hEdit : edit.IsWellFormed)
      (h : edit.apply d = .ok d') : Step d d'
  | join {d d' : Design StandardNode} (stage : Stage) (e : Edge) (hEdge : e.IsIndexed)
      (h : d.join stage e = .ok d') : Step d d'

abbrev Steps : Design StandardNode → Design StandardNode → Prop := Relation.ReflTransGen Step

/-- What a load does to a design: edits that take no node away, and joins. -/
inductive LoadStep : Design StandardNode → Design StandardNode → Prop
  | edit {d d' : Design StandardNode} (edit : Edit StandardNode) (hEdit : edit.IsWellFormed)
      (hKeeps : edit.KeepsNodes) (h : edit.apply d = .ok d') : LoadStep d d'
  | join {d d' : Design StandardNode} (stage : Stage) (e : Edge) (hEdge : e.IsIndexed)
      (h : d.join stage e = .ok d') : LoadStep d d'

theorem LoadStep.step {d d' : Design StandardNode} (h : LoadStep d d') : Step d d' := by
  cases h with
  | edit edit hEdit _ hApply => exact .edit edit hEdit hApply
  | join stage e hEdge hJoin => exact .join stage e hEdge hJoin

abbrev LoadSteps : Design StandardNode → Design StandardNode → Prop := Relation.ReflTransGen LoadStep

theorem loadSteps_foldlM {α ε : Type} {step : Design StandardNode → α → Except ε (Design StandardNode)} {l : List α}
    (hStep : ∀ a ∈ l, ∀ d d', step d a = .ok d' → LoadSteps d d') {d d' : Design StandardNode}
    (h : l.foldlM step d = .ok d') : LoadSteps d d' :=
  Except.foldlM_induction (P := LoadSteps d) (fun a hMem s s' hSteps hNext => hSteps.trans (hStep a hMem s s' hNext))
    .refl h

theorem loadSteps_loadDefault {site : Site} {d d' : Design StandardNode} {default : OnLine (Nat × String)}
    (hIndexed : default.value.1 < Text.indexBound) (h : loadDefault site d default = .ok d') : LoadSteps d d' := by
  simp only [loadDefault, Except.bind_eq_ok_iff, refusedOn, Except.mapError_eq_ok_iff] at h
  obtain ⟨_, -, value, -, hSet⟩ := h
  exact .single (.edit (.setDefault site.stage site.id default.value.1 value) hIndexed trivial hSet)

theorem loadSteps_loadTerminal {stage : Stage} {d d' : Design StandardNode} {r : NodeRecord}
    (h : d.loadTerminal stage r = .ok d') : LoadSteps d d' := by
  rw [loadTerminal] at h
  split at h
  · cases h
    exact .refl
  · rename_i position _
    rw [refusedOn, Except.mapError_eq_ok_iff] at h
    exact .single (.edit (.move stage .output position.value) trivial trivial h)

theorem isUser_of_instantiate {kind : String} {params : List (OnLine (String × String))} {n m : StandardNode}
    (hInstantiate : Command.registry.instantiate kind .empty = .ok n)
    (hParams : params.foldlM (loadParam kind) n = .ok m) : m.IsUser := by
  rw [Registry.instantiate] at hInstantiate
  split at hInstantiate
  · cases hInstantiate
  · rename_i prototype hFind
    have hPrototype := StandardNode.isUser_of_mem_prototypes (List.mem_of_find?_eq_some hFind)
    cases hInstantiate
    refine Except.foldlM_induction (P := StandardNode.IsUser) ?_ hPrototype hParams
    intro param _ n m hUser hParam
    simp only [loadParam, Except.bind_eq_ok_iff, refusedOn, Except.mapError_eq_ok_iff] at hParam
    obtain ⟨_, -, _, -, hApply⟩ := hParam
    exact StandardNode.isUser_applyParam hUser.isUsable hApply

theorem loadSteps_loadNode {d d' : Design StandardNode} {entry : Site × NodeRecord}
    (hIndexed : ∀ default ∈ entry.2.defaults, default.value.1 < Text.indexBound)
    (h : loadNode Command.registry d entry = .ok d') : LoadSteps d d' := by
  obtain ⟨site, r⟩ := entry
  rw [loadNode] at h
  split at h
  · exact loadSteps_loadTerminal h
  · split at h
    case h_2 => cases h
    simp only [Except.bind_eq_ok_iff, refusedOn, Except.mapError_eq_ok_iff] at h
    obtain ⟨kind, -, n, hInstantiate, m, hParams, added, hAdd, hDefaults⟩ := h
    have hUser := isUser_of_instantiate hInstantiate hParams
    have hFirst : LoadSteps d added := .single (.edit (.add site.stage site.id _ m) hUser.isUsable trivial hAdd)
    exact hFirst.trans
      (loadSteps_foldlM (fun default hMem _ _ => loadSteps_loadDefault (hIndexed default hMem)) hDefaults)

theorem loadSteps_loadEdge {d d' : Design StandardNode} {edge : OnLine (Stage × EdgeNumbers)}
    (hIndexed : edge.value.2.output < Text.indexBound ∧ edge.value.2.input < Text.indexBound)
    (h : loadEdge d edge = .ok d') : LoadSteps d d' := by
  simp only [loadEdge, Except.bind_eq_ok_iff, refusedOn, Except.mapError_eq_ok_iff] at h
  obtain ⟨source, -, target, -, hJoin⟩ := h
  exact .single (.join edge.value.1 ⟨source, edge.value.2.output, target, edge.value.2.input⟩ hIndexed hJoin)

/-- A load is a run of steps from an empty design, and none of them takes a node away. -/
theorem loadSteps_of_load {text : String} {d : Design StandardNode} (h : load Command.registry text = .ok d) :
    ∃ mode, LoadSteps (empty mode) d := by
  simp only [load, ofDocument, Except.bind_eq_ok_iff] at h
  obtain ⟨doc, hRead, d₁, hOptions, d₂, hFlags, d₃, hNodes, hEdges⟩ := h
  have hIndexed := Document.isIndexed_of_read hRead
  refine ⟨doc.mode, ?_⟩
  have hScroll : LoadSteps (empty doc.mode) ((empty doc.mode).scroll doc.offset) :=
    .single (.edit (.scroll doc.offset) trivial trivial rfl)
  have hFirst : LoadSteps ((empty doc.mode).scroll doc.offset) d₁ := by
    refine loadSteps_foldlM (fun o _ d d' hOption => ?_) hOptions
    rw [refusedOn, Except.mapError_eq_ok_iff] at hOption
    exact .single (.edit (.setOption o.value.1 o.value.2) trivial trivial hOption)
  have hSecond : LoadSteps d₁ d₂ := by
    refine loadSteps_foldlM (fun f _ d d' hFlag => ?_) hFlags
    rw [refusedOn, Except.mapError_eq_ok_iff] at hFlag
    exact .single (.edit (.setFlag f.value true) trivial trivial hFlag)
  have hThird : LoadSteps d₂ d₃ :=
    loadSteps_foldlM (fun entry hMem _ _ => loadSteps_loadNode (hIndexed.defaults entry hMem)) hNodes
  have hLast : LoadSteps d₃ d :=
    loadSteps_foldlM (fun edge hMem _ _ => loadSteps_loadEdge (hIndexed.edges edge hMem)) hEdges
  exact (((hScroll.trans hFirst).trans hSecond).trans hThird).trans hLast

theorem steps_of_load {text : String} {d : Design StandardNode} (h : load Command.registry text = .ok d) :
    ∃ mode, Steps (empty mode) d := by
  obtain ⟨mode, hSteps⟩ := loadSteps_of_load h
  exact ⟨mode, Relation.ReflTransGen.mono (fun _ _ => LoadStep.step) _ _ hSteps⟩

/-- What users can make: a new design, what an edit makes of one they have, and what a document holds. -/
inductive Reachable : Design StandardNode → Prop
  | new (mode : Mode) : Reachable (empty mode)
  | edit {d d' : Design StandardNode} (edit : Edit StandardNode) (hEdit : edit.IsWellFormed) (hDesign : Reachable d)
      (h : edit.apply d = .ok d') : Reachable d'
  | load {d : Design StandardNode} (text : String) (h : load Command.registry text = .ok d) : Reachable d

/-- What holds of the empty designs and is kept by every step holds of the reachable designs. -/
theorem Reachable.induction {P : Design StandardNode → Prop} (hNew : ∀ mode, P (empty mode))
    (hStep : ∀ d d', P d → Step d d' → P d') {d : Design StandardNode} (h : d.Reachable) : P d := by
  induction h with
  | new mode => exact hNew mode
  | edit edit hEdit _ hApply ih => exact hStep _ _ ih (.edit edit hEdit hApply)
  | load text hLoad =>
    obtain ⟨mode, hSteps⟩ := steps_of_load hLoad
    clear hLoad
    induction hSteps with
    | refl => exact hNew mode
    | tail _ hLast ih => exact hStep _ _ ih hLast

end Design

end ShadeGraph
