import ShadeGraph.Proofs.Reachable

/-!
# The lines of errors

A document is read line by line, and what it says is built afterwards, from records that were gathered from many lines.
All that is gathered keeps the line it came from, and a record is made for an entry only. So an error found in building
still points at a line that speaks of what is wrong.
-/

namespace ShadeGraph

namespace Except

variable {ε α β σ : Type} {P : ε → Prop}

/-- Whatever a failure is, it has the property. -/
def FailsWith (P : ε → Prop) (x : Except ε α) : Prop := ∀ e, x = .error e → P e

theorem failsWith_ok (a : α) : FailsWith P (.ok a : Except ε α) := by
  intro e h
  cases h

theorem FailsWith.bind {x : Except ε α} {f : α → Except ε β} (h : FailsWith P x)
    (hNext : ∀ a, x = .ok a → FailsWith P (f a)) : FailsWith P (x >>= f) := by
  intro e hError
  rcases bind_eq_error_iff.mp hError with hFirst | ⟨a, hFirst, hSecond⟩
  · exact h e hFirst
  · exact hNext a hFirst e hSecond

theorem FailsWith.foldlM {step : σ → α → Except ε σ} {l : List α}
    (h : ∀ a ∈ l, ∀ s, FailsWith P (step s a)) (s : σ) : FailsWith P (l.foldlM step s) := by
  induction l generalizing s with
  | nil => exact failsWith_ok s
  | cons a rest ih =>
    rw [List.foldlM_cons]
    exact (h a List.mem_cons_self s).bind fun t _ => ih (fun b hMem => h b (List.mem_cons_of_mem a hMem)) t

theorem FailsWith.mono {Q : ε → Prop} {x : Except ε α} (h : FailsWith P x) (hImp : ∀ e, P e → Q e) :
    FailsWith Q x :=
  fun e hError => hImp e (h e hError)

theorem failsWith_mapError {ε' : Type} {Q : ε' → Prop} {f : ε → ε'} {x : Except ε α}
    (h : FailsWith (fun e => Q (f e)) x) : FailsWith Q (x.mapError f) := by
  cases x with
  | ok a => exact failsWith_ok a
  | error e =>
    rintro e' hError
    cases hError
    exact h e rfl

end Except

/-! ## What a document gathers -/

/-- The node that an entry is about. -/
def Entry.site? : Entry → Option Site
  | .kind site _ | .position site _ | .param site _ _ | .default site _ _ => some site
  | _ => none

namespace NodeRecord

/-- The lines that a record was gathered from. -/
def lines (r : NodeRecord) : List Nat :=
  (r.kind?.map OnLine.line).toList ++ (r.position?.map OnLine.line).toList ++ r.params.map OnLine.line ++
    r.defaults.map OnLine.line

theorem line_mem_lines {r : NodeRecord} (hNe : r.lines ≠ []) (hKind : r.kind? = none) : r.line ∈ r.lines := by
  obtain ⟨kind?, position?, params, defaults⟩ := r
  cases hKind
  cases position? with
  | some position => simp [line, lines]
  | none =>
    cases params with
    | cons param rest => simp [line, lines]
    | nil =>
      cases defaults with
      | cons default rest => simp [line, lines]
      | nil => exact absurd rfl hNe

end NodeRecord

namespace Document

/-- All that a document gathered came from lines with entries, what it has of a node from entries about the node. -/
structure IsLocated (P : Nat → Entry → Prop) (doc : Document) : Prop where
  options : ∀ o ∈ doc.options, ∃ entry, P o.line entry
  flags : ∀ f ∈ doc.flags, ∃ entry, P f.line entry
  edges : ∀ e ∈ doc.edges, ∃ entry, P e.line entry
  mentioned : ∀ site r, doc.nodes.get? site = some r → r.lines ≠ []
  nodes : ∀ site r, doc.nodes.get? site = some r → ∀ line ∈ r.lines, ∃ entry, P line entry ∧ entry.site? = some site

variable {P : Nat → Entry → Prop} {doc : Document}

theorem isLocated_empty : IsLocated P {} :=
  ⟨by simp, by simp, by simp, by simp, by simp⟩

theorem IsLocated.withRecord (h : doc.IsLocated P) {line : Nat} {entry : Entry} {site : Site} (hEntry : P line entry)
    (hSite : entry.site? = some site) {f : NodeRecord → NodeRecord} (hLine : ∀ r, line ∈ (f r).lines)
    (hLines : ∀ r, ∀ other ∈ (f r).lines, other = line ∨ other ∈ r.lines) : (doc.withRecord site f).IsLocated P := by
  refine ⟨h.options, h.flags, h.edges, ?_, ?_⟩
  · intro site' r hGet
    rw [Document.withRecord, Table.get?_insert] at hGet
    split at hGet
    · cases hGet
      exact List.ne_nil_of_mem (hLine _)
    · exact h.mentioned site' r hGet
  · intro site' r hGet other hMem
    rw [Document.withRecord, Table.get?_insert] at hGet
    split at hGet
    · rename_i hSame
      subst hSame
      cases hGet
      rcases hLines _ other hMem with rfl | hOld
      · exact ⟨entry, hEntry, hSite⟩
      · cases hRecord : doc.nodes.get? site' with
        | none => simp [record, hRecord, NodeRecord.lines] at hOld
        | some old =>
          rw [record, hRecord] at hOld
          exact h.nodes site' old hRecord other hOld
    · exact h.nodes site' r hGet other hMem

theorem exists_entry_of_append {α β : Type} {old : List (OnLine α)} {new : List β} {f : β → α} {line : Nat}
    {entry : Entry} (hOld : ∀ x ∈ old, ∃ entry, P x.line entry) (hEntry : P line entry) :
    ∀ x ∈ old ++ new.map fun b => ⟨line, f b⟩, ∃ entry, P x.line entry := by
  intro x hMem
  rcases List.mem_append.mp hMem with hMem | hMem
  · exact hOld x hMem
  · obtain ⟨b, -, rfl⟩ := List.mem_map.mp hMem
    exact ⟨entry, hEntry⟩

theorem IsLocated.add (h : doc.IsLocated P) {entry : OnLine Entry} (hEntry : P entry.line entry.value) :
    (doc.add entry).IsLocated P := by
  obtain ⟨line, value⟩ := entry
  cases value with
  | mode | offset => exact ⟨h.options, h.flags, h.edges, h.mentioned, h.nodes⟩
  | options choices => exact ⟨exists_entry_of_append h.options hEntry, h.flags, h.edges, h.mentioned, h.nodes⟩
  | flags flags => exact ⟨h.options, exists_entry_of_append h.flags hEntry, h.edges, h.mentioned, h.nodes⟩
  | edges stage list => exact ⟨h.options, h.flags, exists_entry_of_append h.edges hEntry, h.mentioned, h.nodes⟩
  | kind site | position site | param site | default site =>
    simp only [Document.add]
    refine h.withRecord hEntry rfl (fun r => ?_) fun r other hMem => ?_
    · simp [NodeRecord.lines]
    · simp only [NodeRecord.lines, List.map_append, List.mem_append, Option.map_some, Option.toList_some,
        List.map_cons, List.map_nil, List.mem_singleton] at hMem ⊢
      tauto

/-! ## Reading -/

/-- An entry stands on a line of a text. -/
def Holds (text : String) (line : Nat) (entry : Entry) : Prop :=
  ∃ chars, ⟨line, chars⟩ ∈ numberedLines text ∧ Entry.readLine chars = .ok (some entry)

theorem mem_numberedLines {text : String} {line : Nat} {chars : List Char} :
    ⟨line, chars⟩ ∈ numberedLines text ↔ 1 ≤ line ∧ (Text.lines text.toList)[line - 1]? = some chars := by
  rw [← List.mk_mem_zipIdx_iff_le_and_getElem?_sub, numberedLines, List.mem_map]
  constructor
  · rintro ⟨⟨chars', line'⟩, hMem, hSame⟩
    cases hSame
    exact hMem
  · intro hMem
    exact ⟨(chars, line), hMem, rfl⟩

theorem isLocated_of_read {text : String} (h : read text = .ok doc) : doc.IsLocated (Holds text) := by
  refine read_induction isLocated_empty ?_ h
  intro doc hDoc line hMem entry hEntry
  exact hDoc.add ⟨line.value, hMem, hEntry⟩

end Document

/-! ## Errors and their lines -/

namespace LoadError

/-- The error is on the line, and does not say that a node has no kind. -/
def IsOn (line : Nat) (e : LoadError) : Prop := e.line = line ∧ ∀ site, e.value ≠ .malformed (.noKind site)

/-- The error is on a line that cannot be read, for that reason, or else on a line with an entry; that a node has no
kind is told on a line about the node. -/
def PointsInto (text : String) (e : LoadError) : Prop :=
  ∃ chars, ⟨e.line, chars⟩ ∈ Document.numberedLines text ∧
    ((∃ cause, Entry.readLine chars = .error cause ∧ e.value = .malformed cause) ∨
      ∃ entry, Entry.readLine chars = .ok (some entry) ∧
        ∀ site, e.value = .malformed (.noKind site) → entry.site? = some site)

theorem IsOn.pointsInto {text : String} {line : Nat} {e : LoadError} (h : e.IsOn line)
    (hLine : ∃ entry, Document.Holds text line entry) : e.PointsInto text := by
  obtain ⟨rfl, hKind⟩ := h
  obtain ⟨entry, chars, hMem, hRead⟩ := hLine
  exact ⟨chars, hMem, .inr ⟨entry, hRead, fun site hSite => absurd hSite (hKind site)⟩⟩

end LoadError

open LoadError

theorem failsWith_refusedOn {α : Type} (line : Nat) (x : Except GraphError α) :
    Except.FailsWith (IsOn line) (refusedOn line x) :=
  Except.failsWith_mapError fun _ _ => ⟨rfl, fun _ => nofun⟩

theorem failsWith_malformedOn {α : Type} (line : Nat) {x : Except Malformed α}
    (h : Except.FailsWith (fun cause => ∀ site, cause ≠ .noKind site) x) :
    Except.FailsWith (IsOn line) (malformedOn line x) := by
  refine Except.failsWith_mapError fun cause hCause => ⟨rfl, fun site hSite => ?_⟩
  cases hSite
  exact h _ hCause site rfl

theorem failsWith_orMalformed {α : Type} {P : Malformed → Prop} (read : Option α) {cause : Malformed} (h : P cause) :
    Except.FailsWith P (Entry.orMalformed read cause) := by
  cases read with
  | some a => exact Except.failsWith_ok a
  | none =>
    rintro e hError
    cases hError
    exact h

theorem failsWith_read (text : String) : Except.FailsWith (PointsInto text) (Document.read text) := by
  refine Except.FailsWith.foldlM (fun line hLine doc => ?_) _
  refine Except.FailsWith.bind (Except.failsWith_mapError fun cause hCause => ?_) fun found? _ => ?_
  · exact ⟨line.value, hLine, .inl ⟨cause, hCause, rfl⟩⟩
  · cases found? <;> exact Except.failsWith_ok _

namespace Design

variable {ν : Type} [NodeModel ν]

theorem failsWith_loadParam (kind : String) (n : ν) (param : OnLine (String × String)) :
    Except.FailsWith (IsOn param.line) (loadParam kind n param) := by
  refine (failsWith_malformedOn _ (failsWith_orMalformed _ (by simp))).bind fun spec _ => ?_
  refine (failsWith_malformedOn _ (Except.failsWith_mapError fun _ _ => by simp)).bind fun value _ => ?_
  exact failsWith_refusedOn _ _

theorem failsWith_loadDefault (site : Site) (d : Design ν) (default : OnLine (Nat × String)) :
    Except.FailsWith (IsOn default.line) (loadDefault site d default) := by
  refine (failsWith_malformedOn _ (failsWith_orMalformed _ (by simp))).bind fun type _ => ?_
  refine (failsWith_malformedOn _ (Except.failsWith_mapError fun _ _ => by simp)).bind fun value _ => ?_
  exact failsWith_refusedOn _ _

theorem failsWith_loadNodeId (id : Nat) :
    Except.FailsWith (fun cause => ∀ site, cause ≠ .noKind site) (loadNodeId id) := by
  unfold loadNodeId
  split
  · exact Except.failsWith_ok _
  · rintro cause hError
    cases hError
    exact fun _ => nofun

theorem failsWith_loadEdge (d : Design ν) (edge : OnLine (Stage × EdgeNumbers)) :
    Except.FailsWith (IsOn edge.line) (loadEdge d edge) := by
  refine (failsWith_malformedOn _ (failsWith_loadNodeId _)).bind fun source _ => ?_
  refine (failsWith_malformedOn _ (failsWith_loadNodeId _)).bind fun target _ => ?_
  exact failsWith_refusedOn _ _

omit [NodeModel ν] in
theorem failsWith_loadTerminal (d : Design ν) (stage : Stage) (r : NodeRecord) :
    Except.FailsWith (fun e => ∃ line ∈ r.lines, e.IsOn line) (loadTerminal d stage r) := by
  unfold loadTerminal
  split
  · exact Except.failsWith_ok _
  · rename_i position hPosition
    refine (failsWith_refusedOn _ _).mono fun e hOn => ⟨position.line, ?_, hOn⟩
    simp [NodeRecord.lines, hPosition]

/-- What is wrong with a node is told on a line that mentions it. -/
theorem failsWith_loadNode (registry : Registry ν) (d : Design ν) {site : Site} {r : NodeRecord}
    (hLines : r.lines ≠ []) :
    Except.FailsWith
      (fun e => (∃ line ∈ r.lines, e.IsOn line) ∨ e.line ∈ r.lines ∧ e.value = .malformed (.noKind site))
      (loadNode registry d (site, r)) := by
  simp only [loadNode]
  split
  · exact (failsWith_loadTerminal d _ r).mono fun e => .inl
  · cases hKind : r.kind? with
    | none =>
      -- Only a record that was gathered from no line would give the line 0 here.
      rintro e hError
      cases hError
      exact .inr ⟨NodeRecord.line_mem_lines hLines hKind, rfl⟩
    | some kind =>
      have hOn {line : Nat} (hLine : line ∈ r.lines) (e : LoadError) (h : e.IsOn line) :
          (∃ line ∈ r.lines, e.IsOn line) ∨ e.line ∈ r.lines ∧ e.value = .malformed (.noKind site) :=
        .inl ⟨line, hLine, h⟩
      have hKindLine : kind.line ∈ r.lines := by simp [NodeRecord.lines, hKind]
      refine Except.FailsWith.bind (Except.failsWith_ok kind) fun kind' hSame => ?_
      cases hSame
      refine ((failsWith_refusedOn kind.line _).mono (hOn hKindLine)).bind fun n _ => ?_
      refine Except.FailsWith.bind (.foldlM (fun param hMem n => ?_) n) fun n _ => ?_
      · have hLine : param.line ∈ r.lines :=
          List.mem_append_left _ (List.mem_append_right _ (List.mem_map_of_mem hMem))
        exact (failsWith_loadParam kind.value n param).mono (hOn hLine)
      refine ((failsWith_refusedOn kind.line _).mono (hOn hKindLine)).bind fun d _ => ?_
      refine Except.FailsWith.foldlM (fun default hMem d => ?_) d
      have hLine : default.line ∈ r.lines := List.mem_append_right _ (List.mem_map_of_mem hMem)
      exact (failsWith_loadDefault site d default).mono (hOn hLine)

theorem failsWith_ofDocument [HasTerminal ν] (registry : Registry ν) {text : String} {doc : Document}
    (h : doc.IsLocated (Document.Holds text)) :
    Except.FailsWith (PointsInto text) (ofDocument registry doc) := by
  refine Except.FailsWith.bind (.foldlM (fun o hMem d => ?_) _) fun d _ => ?_
  · exact (failsWith_refusedOn _ _).mono fun e hOn => hOn.pointsInto (h.options o hMem)
  refine Except.FailsWith.bind (.foldlM (fun f hMem d => ?_) _) fun d _ => ?_
  · exact (failsWith_refusedOn _ _).mono fun e hOn => hOn.pointsInto (h.flags f hMem)
  refine Except.FailsWith.bind (.foldlM (fun x hMem d => ?_) _) fun d _ => ?_
  · obtain ⟨site, r⟩ := x
    have hGet := Table.get?_eq_some_iff.mpr hMem
    refine (failsWith_loadNode registry d (h.mentioned site r hGet)).mono fun e hError => ?_
    rcases hError with ⟨line, hLine, hOn⟩ | ⟨hLine, hValue⟩
    · obtain ⟨entry, hHolds, -⟩ := h.nodes site r hGet line hLine
      exact hOn.pointsInto ⟨entry, hHolds⟩
    · obtain ⟨entry, ⟨chars, hChars, hRead⟩, hSite⟩ := h.nodes site r hGet e.line hLine
      refine ⟨chars, hChars, .inr ⟨entry, hRead, fun site' hSame => ?_⟩⟩
      cases hValue.symm.trans hSame
      exact hSite
  refine Except.FailsWith.foldlM (fun edge hMem d => ?_) d
  exact (failsWith_loadEdge d edge).mono fun e hOn => hOn.pointsInto (h.edges edge hMem)

theorem failsWith_load [HasTerminal ν] (registry : Registry ν) (text : String) :
    Except.FailsWith (PointsInto text) (load registry text) :=
  (failsWith_read text).bind fun _ hRead => failsWith_ofDocument registry (Document.isLocated_of_read hRead)

/-- Where loading fails, the line that is told is a line of the text, counted from 1. It is the line that could not be
read, or holds an entry; where a node has no kind, one about that node. -/
theorem load_error_line_within_text [HasTerminal ν] (registry : Registry ν) (text : String) {e : LoadError}
    (h : load registry text = .error e) :
    1 ≤ e.line ∧ e.line ≤ (Text.lines text.toList).length ∧
      ∃ line, (Text.lines text.toList)[e.line - 1]? = some line ∧
        ((∃ cause, Entry.readLine line = .error cause ∧ e.value = .malformed cause) ∨
          ∃ entry, Entry.readLine line = .ok (some entry) ∧
            ∀ site, e.value = .malformed (.noKind site) → entry.site? = some site) := by
  obtain ⟨line, hMem, hLine⟩ := failsWith_load registry text e h
  obtain ⟨hOne, hGet⟩ := Document.mem_numberedLines.mp hMem
  have hLength := (List.getElem?_eq_some_iff.mp hGet).1
  exact ⟨hOne, by omega, line, hGet, hLine⟩

/-- A parameter waits for a kind that does not come. -/
def kindless : String := "# the kind comes later\n\nnodes/fragment/3/type = 1\nflags = unshaded"

theorem load_error_line_within_text_kindless :
    load Command.registry kindless = .error ⟨3, .malformed (.noKind ⟨.fragment, 3⟩)⟩ ∧
      1 ≤ 3 ∧ 3 ≤ (Text.lines kindless.toList).length ∧
        ∃ line entry, (Text.lines kindless.toList)[3 - 1]? = some line ∧
          Entry.readLine line = .ok (some entry) ∧ entry.site? = some ⟨.fragment, 3⟩ := by
  have hLoad : load Command.registry kindless = .error ⟨3, .malformed (.noKind ⟨.fragment, 3⟩)⟩ := rfl
  obtain ⟨hOne, hLe, line, hGet, ⟨cause, hCause, -⟩ | ⟨entry, hRead, hSite⟩⟩ :=
    load_error_line_within_text Command.registry kindless hLoad
  · have hRead : Entry.readLine "nodes/fragment/3/type = 1".toList =
        .ok (some (.param ⟨.fragment, 3⟩ "type" "1")) := rfl
    cases hGet
    cases hRead.symm.trans hCause
  · exact ⟨hLoad, hOne, hLe, line, entry, hGet, hRead, hSite _ rfl⟩

end Design

end ShadeGraph
