import ShadeGraph.Proofs.Reachable
import ShadeGraph.Proofs.Values

/-!
# Entries are read back

The line of an entry is read as the entry itself, apart from the bits of numbers that are not numbers. What has
to hold for it is that names are plain and that values stay on their line.
-/

namespace ShadeGraph

theorem Stage.isPlain_name (stage : Stage) : Text.IsPlain stage.name.toList := by
  cases stage <;> decide

theorem NodeId.isPlain_text (id : NodeId) : Text.IsPlain id.text.toList := Text.isPlain_repr _

theorem Site.key_eq (site : Site) : site.key = Text.joinWith "/" ["nodes", site.stage.name, site.id.text] := by
  have hNodes : "nodes/" = "nodes" ++ "/" := by decide
  have hAssoc (word slash stage id : String) :
      word ++ slash ++ stage ++ slash ++ id = word ++ slash ++ (stage ++ slash ++ id) := by
    simp only [String.append_assoc]
  exact (congrArg (· ++ site.stage.name ++ "/" ++ site.id.text) hNodes).trans (hAssoc _ _ _ _)

namespace Entry

/-- What a document can hold of an entry. -/
def IsSavable : Entry → Prop
  | .options choices => ∀ c ∈ choices, Text.IsPlain c.1.toList ∧ c.2 < Text.indexBound
  | .flags names => ∀ name ∈ names, Text.IsPlain name.toList
  | .kind _ name => Text.IsPlain name.toList
  | .param _ name text => Text.IsPlain name.toList ∧ name ≠ "position" ∧ Text.IsValue text.toList
  | .default _ port text => port < Text.indexBound ∧ Text.IsValue text.toList
  | .edges _ list => ∀ e ∈ list, ∀ n ∈ [e.source, e.output, e.target, e.input], n < Text.indexBound
  | .mode _ | .offset _ | .position _ _ => True

def canonical : Entry → Entry
  | .offset p => .offset p.canonical
  | .position site p => .position site p.canonical
  | e => e

/-! ## Keys -/

def path : Entry → List String
  | .mode _ => ["mode"]
  | .options _ => ["render_modes"]
  | .flags _ => ["flags"]
  | .offset _ => ["graph_offset"]
  | .kind site _ => ["nodes", site.stage.name, site.id.text]
  | .position site _ => ["nodes", site.stage.name, site.id.text, "position"]
  | .param site name _ => ["nodes", site.stage.name, site.id.text, name]
  | .default site port _ => ["nodes", site.stage.name, site.id.text, "input_default", Nat.repr port]
  | .edges stage _ => ["node_connections", stage.name]

theorem key_eq (e : Entry) : e.key = Text.joinWith "/" e.path := by
  have hSite (site : Site) (part : String) (rest : List String) : site.key ++ "/" ++ Text.joinWith "/" (part :: rest) =
      Text.joinWith "/" ("nodes" :: site.stage.name :: site.id.text :: part :: rest) := by
    have hAppend : Text.joinWith "/" (["nodes", site.stage.name, site.id.text] ++ part :: rest) =
        Text.joinWith "/" ["nodes", site.stage.name, site.id.text] ++ "/" ++ Text.joinWith "/" (part :: rest) :=
      Text.joinWith_append (List.cons_ne_nil _ _) (List.cons_ne_nil _ _)
    exact (congrArg (· ++ "/" ++ Text.joinWith "/" (part :: rest)) site.key_eq).trans hAppend.symm
  have hAssoc (key slash word last : String) :
      key ++ (slash ++ (word ++ slash)) ++ last = key ++ slash ++ (word ++ slash ++ last) := by
    simp only [String.append_assoc]
  cases e with
  | mode | options | flags | offset => rfl
  | kind site => exact site.key_eq
  | position site =>
    have hPosition : "/position" = "/" ++ "position" := by decide
    calc
      site.key ++ "/position" = site.key ++ ("/" ++ "position") := congrArg (site.key ++ ·) hPosition
      _ = site.key ++ "/" ++ "position" := String.append_assoc.symm
      _ = Text.joinWith "/" ["nodes", site.stage.name, site.id.text, "position"] := hSite site "position" []
  | param site name => exact hSite site name []
  | default site port =>
    have hDefault : "/input_default/" = "/" ++ ("input_default" ++ "/") := by decide
    calc
      site.key ++ "/input_default/" ++ Nat.repr port = site.key ++ ("/" ++ ("input_default" ++ "/")) ++ Nat.repr port :=
        congrArg (site.key ++ · ++ Nat.repr port) hDefault
      _ = site.key ++ "/" ++ ("input_default" ++ "/" ++ Nat.repr port) := hAssoc _ _ _ _
      _ = Text.joinWith "/" ["nodes", site.stage.name, site.id.text, "input_default", Nat.repr port] :=
        hSite site "input_default" [Nat.repr port]
  | edges stage =>
    have hEdges : "node_connections/" = "node_connections" ++ "/" := by decide
    exact congrArg (· ++ stage.name) hEdges

theorem isPlain_of_mem_path {e : Entry} (h : e.IsSavable) : ∀ part ∈ e.path, Text.IsPlain part.toList := by
  have hNode (site : Site) {rest : List String} (hRest : ∀ part ∈ rest, Text.IsPlain part.toList) :
      ∀ part ∈ "nodes" :: site.stage.name :: site.id.text :: rest, Text.IsPlain part.toList := by
    simp only [List.forall_mem_cons]
    exact ⟨by decide, site.stage.isPlain_name, site.id.isPlain_text, hRest⟩
  cases e with
  | mode => exact List.forall_mem_singleton.mpr (by decide)
  | options => exact List.forall_mem_singleton.mpr (by decide)
  | flags => exact List.forall_mem_singleton.mpr (by decide)
  | offset => exact List.forall_mem_singleton.mpr (by decide)
  | kind site => exact hNode site (List.forall_mem_nil _)
  | position site => exact hNode site (List.forall_mem_singleton.mpr (by decide))
  | param site name => exact hNode site (List.forall_mem_singleton.mpr h.1)
  | default site port =>
    exact hNode site (List.forall_mem_cons.mpr ⟨by decide, List.forall_mem_singleton.mpr (Text.isPlain_repr port)⟩)
  | edges stage => exact List.forall_mem_cons.mpr ⟨by decide, List.forall_mem_singleton.mpr stage.isPlain_name⟩

theorem path_ne_nil (e : Entry) : e.path ≠ [] := by
  cases e <;> simp [path]

theorem splitOn_key {e : Entry} (h : e.IsSavable) : (Text.splitOn '/' e.key.toList).map String.ofList = e.path := by
  rw [key_eq, Text.splitOn_joinWith rfl e.path_ne_nil fun part hMem =>
    (isPlain_of_mem_path h part hMem).not_mem (by decide), List.map_map]
  simp [Function.comp_def]

/-- A key starts with a letter, and neither an equals sign nor a hash stands in it. -/
theorem isValue_key {e : Entry} (h : e.IsSavable) :
    Text.IsValue e.key.toList ∧ e.key.toList ≠ [] ∧ '=' ∉ e.key.toList ∧ '#' ∉ e.key.toList := by
  have hPlain := isPlain_of_mem_path h
  rw [key_eq]
  refine ⟨?_, ?_, ?_, ?_⟩
  · exact Text.isValue_joinWith (by decide) fun part hMem => ⟨(hPlain part hMem).isValue, (hPlain part hMem).ne_nil⟩
  · exact Text.joinWith_ne_nil e.path_ne_nil fun part hMem => (hPlain part hMem).ne_nil
  · exact Text.not_mem_joinWith (by decide) fun part hMem => (hPlain part hMem).not_mem (by decide)
  · exact Text.not_mem_joinWith (by decide) fun part hMem => (hPlain part hMem).not_mem (by decide)

/-! ## Values -/

theorem toList_option (group : String) (option : Nat) :
    (group ++ ":" ++ Nat.repr option).toList = group.toList ++ [':'] ++ (Nat.repr option).toList := by
  simp [String.toList_append]

theorem readOption_write {group : String} {option : Nat} (hGroup : Text.IsPlain group.toList)
    (hOption : option < Text.indexBound) :
    readOption (group ++ ":" ++ Nat.repr option).toList = .ok (group, option) := by
  rw [readOption, orMalformed_eq_ok_iff, toList_option, List.append_assoc, List.singleton_append,
    Text.cutAt_append _ (hGroup.not_mem (by decide))]
  simp only [Option.bind_some, hGroup.trimmed.trim_eq, (Text.isPlain_repr option).trimmed.trim_eq,
    Text.index?_repr hOption, Option.map_some, String.ofList_toList]

theorem isValue_option {group : String} (hGroup : Text.IsPlain group.toList) (option : Nat) :
    Text.IsValue (group ++ ":" ++ Nat.repr option).toList ∧ (group ++ ":" ++ Nat.repr option).toList ≠ [] ∧
      ',' ∉ (group ++ ":" ++ Nat.repr option).toList := by
  have hOption := Text.isPlain_repr option
  have hFree {c : Char} (hc : c ≠ ':') (hPlain : Text.isPlainChar c = false) :
      c ∉ group.toList ++ [':'] ++ (Nat.repr option).toList := by
    simp only [List.mem_append, not_or]
    exact ⟨⟨hGroup.not_mem hPlain, by simpa using hc⟩, hOption.not_mem hPlain⟩
  rw [toList_option]
  refine ⟨⟨hGroup.trimmed.append hOption.trimmed hGroup.ne_nil hOption.ne_nil _, ?_⟩, ?_, ?_⟩
  · exact hFree (by decide) (by decide)
  · simp
  · exact hFree (by decide) (by decide)

theorem readEdge_write {e : EdgeNumbers} (h : ∀ n ∈ [e.source, e.output, e.target, e.input], n < Text.indexBound) :
    readEdge e.write.toList = .ok e := by
  have hParts : (Text.splitOn ',' e.write.toList).map Text.trim =
      ([e.source, e.output, e.target, e.input].map Nat.repr).map String.toList := by
    apply Text.map_trim_splitOn_joinWith rfl (by decide) (by simp)
    intro text hMem
    obtain ⟨n, -, rfl⟩ := List.mem_map.mp hMem
    exact ⟨(Text.isPlain_repr n).not_mem (by decide), (Text.isPlain_repr n).trimmed⟩
  have hNumbers : (([e.source, e.output, e.target, e.input].map Nat.repr).map String.toList).mapM
      (fun part => orMalformed (Text.index? part) (.notIndex (String.ofList part))) =
      .ok [e.source, e.output, e.target, e.input] := by
    rw [Except.mapM_eq_ok_iff, List.forall₂_map_left_iff, List.forall₂_map_left_iff, List.forall₂_same]
    intro n hMem
    rw [orMalformed_eq_ok_iff]
    exact Text.index?_repr (h n hMem)
  simp only [readEdge, hParts, Except.throw_bind, Except.ite_throw_eq_ok_iff, hNumbers]
  exact ⟨by simp, rfl⟩

theorem isValue_edge (e : EdgeNumbers) : Text.IsValue e.write.toList ∧ e.write.toList ≠ [] ∧ ';' ∉ e.write.toList := by
  have hPlain : ∀ text ∈ [e.source, e.output, e.target, e.input].map Nat.repr, Text.IsPlain text.toList := by
    intro text hMem
    obtain ⟨n, -, rfl⟩ := List.mem_map.mp hMem
    exact Text.isPlain_repr n
  refine ⟨?_, ?_, ?_⟩
  · exact Text.isValue_joinWith (by decide) fun text hMem => ⟨(hPlain text hMem).isValue, (hPlain text hMem).ne_nil⟩
  · exact Text.joinWith_ne_nil (by simp) fun text hMem => (hPlain text hMem).ne_nil
  · exact Text.not_mem_joinWith (by decide) fun text hMem => (hPlain text hMem).not_mem (by decide)

theorem toList_edges (stage : Stage) (list : List EdgeNumbers) : (edges stage list).value.toList =
    '[' :: ((Text.joinWith "; " (list.map EdgeNumbers.write)).toList ++ [']']) := by
  simp [value, String.toList_append]

theorem readEdges_value {stage : Stage} {list : List EdgeNumbers} (h : (edges stage list).IsSavable) :
    readEdges (edges stage list).value.toList = .ok list := by
  have hGroups : ((Text.splitOn ';' (Text.joinWith "; " (list.map EdgeNumbers.write)).toList).map Text.trim).filter
      (!·.isEmpty) = (list.map EdgeNumbers.write).map String.toList := by
    apply Text.filter_splitOn_joinWith rfl (by decide)
    intro text hMem
    obtain ⟨e, -, rfl⟩ := List.mem_map.mp hMem
    obtain ⟨hValue, hNe, hFree⟩ := isValue_edge e
    exact ⟨hFree, hValue.toTrimmed, hNe⟩
  simp only [readEdges, toList_edges, bracketed?, Text.isSuffixOf?_append_singleton, Except.bind_eq_ok_iff,
    orMalformed_eq_ok_iff, Option.some.injEq, exists_eq_left', hGroups]
  rw [Except.mapM_eq_ok_iff, List.forall₂_map_left_iff, List.forall₂_map_left_iff, List.forall₂_same]
  exact fun e hMem => readEdge_write (h e hMem)

theorem isValue_value {e : Entry} (h : e.IsSavable) : Text.IsValue e.value.toList := by
  cases e with
  | mode m => cases m <;> decide
  | options choices =>
    apply Text.isValue_joinWith (by decide)
    intro text hMem
    obtain ⟨⟨group, option⟩, hChoice, rfl⟩ := List.mem_map.mp hMem
    obtain ⟨hValue, hNe, -⟩ := isValue_option (h _ hChoice).1 option
    exact ⟨hValue, hNe⟩
  | flags names =>
    exact Text.isValue_joinWith (by decide) fun name hMem => ⟨(h name hMem).isValue, (h name hMem).ne_nil⟩
  | offset p => exact ValueText.isValue_numbers _
  | position site p => exact ValueText.isValue_numbers _
  | kind site name => exact Text.IsPlain.isValue h
  | param site name text => exact h.2.2
  | default site port text => exact h.2
  | edges stage list =>
    have hInner : '\n' ∉ (Text.joinWith "; " (list.map EdgeNumbers.write)).toList := by
      apply Text.not_mem_joinWith (by decide)
      intro text hMem
      obtain ⟨e, -, rfl⟩ := List.mem_map.mp hMem
      exact (isValue_edge e).1.newline
    rw [toList_edges, ← List.cons_append]
    refine ⟨⟨?_, ?_⟩, by simp [hInner]⟩
    · intro c hHead
      cases hHead
      decide
    · intro c hLast
      rw [List.getLast?_append_of_ne_nil _ (by simp)] at hLast
      cases hLast
      decide

/-! ## Lines -/

theorem readEntry_of_slash {key value : List Char} (h : '/' ∈ key) : readEntry key value = readPath key value := by
  have hNe {word : String} (hWord : '/' ∉ word.toList) : String.ofList key ≠ word := by
    rintro rfl
    rw [String.toList_ofList] at hWord
    exact hWord h
  rw [readEntry]
  split
  · exact absurd ‹_› (hNe (by decide))
  · exact absurd ‹_› (hNe (by decide))
  · exact absurd ‹_› (hNe (by decide))
  · exact absurd ‹_› (hNe (by decide))
  · rfl

theorem readPath_site {key : List Char} {site : Site} {rest : List String}
    (hKey : (Text.splitOn '/' key).map String.ofList = "nodes" :: site.stage.name :: site.id.text :: rest)
    (value : List Char) : readPath key value = readNodeEntry key value site rest := by
  have hStage : readStage site.stage.name.toList = .ok site.stage := by
    rw [readStage, orMalformed_eq_ok_iff, String.ofList_toList, Stage.ofName?_name]
  have hId : readNodeId site.id.text.toList = .ok site.id := by
    rw [readNodeId, orMalformed_eq_ok_iff, NodeId.text, Nat.toList_repr, Text.below?_toDigits site.id.toNat_lt]
    simp
  simp only [readPath, hKey, hStage, hId]
  rfl

theorem slash_mem_key {e : Entry} (h : e.IsSavable) {first second : String} {rest : List String}
    (hPath : e.path = first :: second :: rest) : '/' ∈ e.key.toList := by
  by_contra hFree
  have hSplit := splitOn_key h
  rw [Text.splitOn_of_not_mem hFree, hPath] at hSplit
  simp at hSplit

theorem readEntry_key {e : Entry} (h : e.IsSavable) : readEntry e.key.toList e.value.toList = .ok e.canonical := by
  have hNode {site : Site} {rest : List String} (hPath : e.path = "nodes" :: site.stage.name :: site.id.text :: rest) :
      readEntry e.key.toList e.value.toList = readNodeEntry e.key.toList e.value.toList site rest := by
    rw [readEntry_of_slash (slash_mem_key h hPath), readPath_site ((splitOn_key h).trans hPath)]
  cases e with
  | mode m =>
    change readEntry "mode".toList (mode m).value.toList = _
    rw [readEntry, String.ofList_toList]
    simp only [value, String.ofList_toList, Mode.ofDocumentName?_documentName]
    rfl
  | options choices =>
    have hItems : Text.items (options choices).value.toList =
        (choices.map fun c => c.1 ++ ":" ++ Nat.repr c.2).map String.toList := by
      apply Text.items_joinWith
      intro text hMem
      obtain ⟨⟨group, option⟩, hChoice, rfl⟩ := List.mem_map.mp hMem
      obtain ⟨hValue, hNe, hFree⟩ := isValue_option (h _ hChoice).1 option
      exact ⟨hFree, hValue.toTrimmed, hNe⟩
    change readEntry "render_modes".toList (options choices).value.toList = _
    rw [readEntry, String.ofList_toList]
    simp only [hItems, Except.map_eq_ok_iff]
    refine ⟨choices, ?_, rfl⟩
    rw [Except.mapM_eq_ok_iff, List.forall₂_map_left_iff, List.forall₂_map_left_iff, List.forall₂_same]
    exact fun c hChoice => readOption_write (h c hChoice).1 (h c hChoice).2
  | flags names =>
    have hItems : Text.items (flags names).value.toList = names.map String.toList :=
      Text.items_joinWith fun name hMem =>
        ⟨(h name hMem).not_mem (by decide), (h name hMem).trimmed, (h name hMem).ne_nil⟩
    change readEntry "flags".toList (flags names).value.toList = _
    rw [readEntry, String.ofList_toList]
    simp [hItems, Function.comp_def, canonical]
  | offset p =>
    change readEntry "graph_offset".toList (offset p).value.toList = _
    rw [readEntry, String.ofList_toList]
    simp only [value, readPosition, ValueText.readPosition_numbers]
    rfl
  | kind site name =>
    rw [hNode rfl, readNodeEntry]
    simp [value, canonical]
  | position site p =>
    rw [hNode rfl, readNodeEntry, readPosition, value, ValueText.readPosition_numbers]
    rfl
  | param site name text =>
    rw [hNode rfl]
    unfold readNodeEntry
    split
    · rename_i hRest
      cases hRest
    · rename_i hRest
      exact absurd (List.cons.inj hRest).1 h.2.1
    · rename_i hRest
      cases hRest
    · rename_i hRest
      cases hRest
      simp [value, canonical]
    · rename_i hOther
      exact (hOther name rfl).elim
  | default site port text =>
    rw [hNode rfl, readNodeEntry, readPort, Text.index?_repr h.1]
    simp [orMalformed, Except.map, value, canonical]
  | edges stage list =>
    have hStage : readStage stage.name.toList = .ok stage := by
      rw [readStage, orMalformed_eq_ok_iff, String.ofList_toList, Stage.ofName?_name]
    rw [readEntry_of_slash (slash_mem_key h rfl)]
    simp only [readPath, splitOn_key h, path, hStage, readEdges_value h]
    rfl

/-- The line of an entry, without its end. -/
def line (e : Entry) : List Char := e.key.toList ++ ' ' :: '=' :: ' ' :: e.value.toList

theorem toList_write (e : Entry) : e.write.toList = e.line ++ ['\n'] := by
  simp [write, line, String.toList_append]

theorem isLine_line {e : Entry} (h : e.IsSavable) : '\n' ∉ e.line ∧ e.line.getLast? ≠ some '\r' := by
  have hKey := (isValue_key h).1.newline
  have hValue := isValue_value h
  refine ⟨by simp [line, hKey, hValue.newline], ?_⟩
  rw [line]
  intro hLast
  cases hText : e.value.toList with
  | nil =>
    rw [hText, List.getLast?_append_of_ne_nil _ (by simp)] at hLast
    cases hLast
  | cons c rest =>
    have hEnd : (e.value.toList).getLast? = some '\r' := by
      rw [List.getLast?_append_of_ne_nil _ (by simp), hText] at hLast
      rw [hText]
      simpa [List.getLast?_cons] using hLast
    have hBlank := hValue.last _ hEnd
    cases hBlank

/-- Blanks at the end of a line are dropped, so an empty value leaves none after the equals sign. -/
theorem exists_trim_line {key value : List Char} (hKey : Text.Trimmed key) (hNe : key ≠ [])
    (hValue : Text.Trimmed value) :
    ∃ rest, Text.trim (key ++ ' ' :: '=' :: ' ' :: value) = key ++ ' ' :: '=' :: rest ∧ Text.trim rest = value := by
  have hEquals : Text.Trimmed ['='] := .of_forall (List.forall_mem_singleton.mpr (by decide))
  cases value with
  | nil =>
    refine ⟨[], ?_, rfl⟩
    have hTrimmed := hKey.append hEquals hNe (by simp) [' ']
    have hTrim := hTrimmed.trim_append_blank (b := ' ') (by decide)
    simpa using hTrim
  | cons c rest =>
    refine ⟨' ' :: c :: rest, ?_, ?_⟩
    · have hTrimmed := hKey.append hValue hNe (by simp) [' ', '=', ' ']
      simpa using hTrimmed.trim_eq
    · rw [Text.trim_blank_cons (by decide), hValue.trim_eq]

theorem readLine_line {e : Entry} (h : e.IsSavable) : readLine e.line = .ok (some e.canonical) := by
  obtain ⟨hKey, hNe, hEquals, hHash⟩ := isValue_key h
  obtain ⟨rest, hTrim, hRest⟩ := exists_trim_line hKey.toTrimmed hNe (isValue_value h).toTrimmed
  have hStart : ((e.key.toList ++ ' ' :: '=' :: rest).isEmpty ||
      decide ((e.key.toList ++ ' ' :: '=' :: rest).head? = some '#')) = false := by
    rw [List.head?_append_of_ne_nil _ hNe, Bool.or_eq_false_iff, decide_eq_false_iff_not]
    exact ⟨by simp, fun hHead => hHash (List.mem_of_mem_head? hHead)⟩
  have hCut : Text.cutAt '=' (e.key.toList ++ ' ' :: '=' :: rest) = some (e.key.toList ++ [' '], rest) := by
    have hBefore : '=' ∉ e.key.toList ++ [' '] := by simp [hEquals]
    have hAppend := Text.cutAt_append rest hBefore
    simpa using hAppend
  simp only [readLine, line, hTrim, hStart, hCut, hKey.toTrimmed.trim_append_blank (b := ' ') (by decide), hRest,
    readEntry_key h]
  rfl

end Entry

end ShadeGraph
