import ShadeGraph.Proofs.BagOrder

/-!
# Lists of ports as text

A text is a list of ports exactly if every piece between its commas that is not blank has two words, the keyword of a
value type and an identifier. Expression nodes take their ports from such texts one list at a time, and the names of
both lists stay apart.
-/

namespace ShadeGraph

namespace Text

theorem split_eq_splitOnP (isSeparator : Char → Bool) (text : List Char) :
    split isSeparator text = text.splitOnP isSeparator := by
  induction text with
  | nil => rfl
  | cons c rest ih =>
    rw [List.splitOnP_cons_eq_if_modifyHead, ← ih, split]
    split
    · rfl
    · obtain ⟨piece, pieces, hPieces⟩ := List.exists_cons_of_ne_nil (split_ne_nil isSeparator rest)
      rw [hPieces]
      rfl

/-! ## Words and blanks -/

def Blank (text : List Char) : Prop := ∀ c ∈ text, isBlank c = true

structure IsWord (word : List Char) : Prop where
  ne_nil : word ≠ []
  solid : ∀ c ∈ word, isBlank c = false

theorem IsPlain.isWord {text : List Char} (h : IsPlain text) : IsWord text :=
  ⟨h.ne_nil, fun c hMem => isBlank_of_isPlainChar (h.isPlainChar c hMem)⟩

theorem words_blank_append {gap : List Char} (hGap : Blank gap) (text : List Char) :
    words (gap ++ text) = words text := by
  induction gap with
  | nil => rfl
  | cons b gap ih =>
    obtain ⟨hBlank, hRest⟩ := List.forall_mem_cons.mp hGap
    rw [← ih hRest, List.cons_append, words, split, if_pos hBlank, List.filter_cons_of_neg (by simp), words]

theorem words_word_append {word rest : List Char} (hWord : IsWord word) (hRest : ∀ c ∈ rest.head?, isBlank c = true) :
    words (word ++ rest) = word :: words rest := by
  cases rest with
  | nil =>
    rw [List.append_nil, words, split_of_forall hWord.solid]
    simp [hWord.ne_nil, words, split]
  | cons b rest =>
    have hBlank := hRest b rfl
    have hGap : words (b :: rest) = words rest := words_blank_append (List.forall_mem_singleton.mpr hBlank) rest
    rw [hGap, words, split_append_cons rest hWord.solid hBlank, words]
    simp [hWord.ne_nil]

theorem words_of_blank {text : List Char} (h : Blank text) : words text = [] := by
  have hNil := words_blank_append h []
  rwa [List.append_nil] at hNil

theorem split_append_singleton {isSeparator : Char → Bool} {s : Char} (hSeparator : isSeparator s = true)
    (text : List Char) : split isSeparator (text ++ [s]) = split isSeparator text ++ [[]] := by
  induction text with
  | nil => simp [split, hSeparator]
  | cons c rest ih =>
    obtain ⟨piece, pieces, hPieces⟩ := List.exists_cons_of_ne_nil (split_ne_nil isSeparator rest)
    rw [List.cons_append, split, split, ih, hPieces]
    split <;> rfl

theorem words_append_blank (text : List Char) {gap : List Char} (hGap : Blank gap) :
    words (text ++ gap) = words text := by
  induction gap generalizing text with
  | nil => rw [List.append_nil]
  | cons b gap ih =>
    obtain ⟨hBlank, hRest⟩ := List.forall_mem_cons.mp hGap
    have hLast : words (text ++ [b]) = words text := by
      rw [words, split_append_singleton hBlank, List.filter_append, words]
      simp
    rw [← hLast, ← ih (text ++ [b]) hRest, List.append_assoc, List.singleton_append]

/-- A text starts with blanks, and if it has more then a word follows, which a blank or the end of the text ends. -/
theorem blank_or_exists_word (text : List Char) :
    Blank text ∨ ∃ gap word rest, text = gap ++ (word ++ rest) ∧ Blank gap ∧ IsWord word ∧
      ∀ c ∈ rest.head?, isBlank c = true := by
  have hGap : Blank (text.takeWhile isBlank) := fun c hMem => List.mem_takeWhile_imp hMem
  have hText := (List.takeWhile_append_dropWhile (p := isBlank) (l := text)).symm
  cases hBody : text.dropWhile isBlank with
  | nil =>
    rw [hBody, List.append_nil] at hText
    exact .inl (hText ▸ hGap)
  | cons c body =>
    have hSolid : isBlank c = false := by
      have hHead := List.head?_dropWhile_not isBlank text
      rw [hBody] at hHead
      exact hHead
    refine .inr ⟨_, (c :: body).takeWhile (!isBlank ·), (c :: body).dropWhile (!isBlank ·), ?_, hGap, ⟨?_, ?_⟩, ?_⟩
    · rw [List.takeWhile_append_dropWhile, ← hBody]
      exact hText
    · simp [hSolid]
    · intro d hMem
      simpa using List.mem_takeWhile_imp hMem
    · intro d hMem
      have hHead := List.head?_dropWhile_not (!isBlank ·) (c :: body)
      rw [Option.mem_def.mp hMem] at hHead
      simpa using hHead

theorem words_eq_nil_iff {text : List Char} : words text = [] ↔ Blank text := by
  refine ⟨fun h => ?_, words_of_blank⟩
  rcases blank_or_exists_word text with hBlank | ⟨gap, word, rest, rfl, hGap, hWord, hRest⟩
  · exact hBlank
  · rw [words_blank_append hGap, words_word_append hWord hRest] at h
    cases h

theorem words_eq_cons_iff {text word : List Char} {others : List (List Char)} :
    words text = word :: others ↔ ∃ gap rest, text = gap ++ (word ++ rest) ∧ Blank gap ∧ IsWord word ∧
      (∀ c ∈ rest.head?, isBlank c = true) ∧ words rest = others := by
  constructor
  · intro h
    rcases blank_or_exists_word text with hBlank | ⟨gap, first, rest, rfl, hGap, hWord, hRest⟩
    · cases (words_of_blank hBlank).symm.trans h
    · rw [words_blank_append hGap, words_word_append hWord hRest] at h
      obtain ⟨rfl, rfl⟩ := List.cons.inj h
      exact ⟨gap, rest, rfl, hGap, hWord, hRest, rfl⟩
  · rintro ⟨gap, rest, rfl, hGap, hWord, hRest, rfl⟩
    rw [words_blank_append hGap, words_word_append hWord hRest]

/-- Two words: blanks stand between them, and there may be some before and after. -/
theorem words_eq_pair_iff {text first second : List Char} :
    words text = [first, second] ↔ IsWord first ∧ IsWord second ∧ ∃ before between after,
      Blank before ∧ Blank between ∧ between ≠ [] ∧ Blank after ∧
        text = before ++ first ++ between ++ second ++ after := by
  constructor
  · intro h
    obtain ⟨before, tail, rfl, hBefore, hFirst, hTail, hWords⟩ := words_eq_cons_iff.mp h
    obtain ⟨between, after, rfl, hBetween, hSecond, -, hAfter⟩ := words_eq_cons_iff.mp hWords
    refine ⟨hFirst, hSecond, before, between, after, hBefore, hBetween, ?_, words_eq_nil_iff.mp hAfter, ?_⟩
    · rintro rfl
      -- without a gap the second word would go on with the first
      obtain ⟨c, rest, rfl⟩ := List.exists_cons_of_ne_nil hSecond.ne_nil
      cases (hTail c rfl).symm.trans (hSecond.solid c List.mem_cons_self)
    · simp only [List.append_assoc]
  · rintro ⟨hFirst, hSecond, before, between, after, hBefore, hBetween, hNe, hAfter, rfl⟩
    obtain ⟨b, gap, rfl⟩ := List.exists_cons_of_ne_nil hNe
    have hGap : ∀ c ∈ (b :: gap ++ second).head?, isBlank c = true := by
      simpa using hBetween b List.mem_cons_self
    have hLast : words second = [second] := by
      have hEnd : words (second ++ []) = second :: words [] := words_word_append hSecond (by simp)
      rwa [List.append_nil] at hEnd
    rw [words_append_blank _ hAfter, List.append_assoc, List.append_assoc, words_blank_append hBefore,
      words_word_append hFirst hGap, words_blank_append hBetween, hLast]

theorem exists_trim (text : List Char) :
    ∃ before after, Blank before ∧ Blank after ∧ text = before ++ (trim text ++ after) := by
  let body := text.dropWhile isBlank
  refine ⟨text.takeWhile isBlank, (body.reverse.takeWhile isBlank).reverse, ?_, ?_, ?_⟩
  · exact fun c hMem => List.mem_takeWhile_imp hMem
  · exact fun c hMem => List.mem_takeWhile_imp (List.mem_reverse.mp hMem)
  · have hBody : trim text ++ (body.reverse.takeWhile isBlank).reverse = body := by
      change (body.reverse.dropWhile isBlank).reverse ++ _ = body
      rw [← List.reverse_append, List.takeWhile_append_dropWhile, List.reverse_reverse]
    rw [hBody]
    exact List.takeWhile_append_dropWhile.symm

theorem words_trim (text : List Char) : words (trim text) = words text := by
  obtain ⟨before, after, hBefore, hAfter, hText⟩ := exists_trim text
  conv_rhs => rw [hText, words_blank_append hBefore, words_append_blank _ hAfter]

theorem trim_eq_nil_iff {text : List Char} : trim text = [] ↔ Blank text := by
  constructor
  · intro h
    rw [← words_eq_nil_iff, ← words_trim, h]
    rfl
  · intro h
    rw [trim, trimStart, List.dropWhile_eq_nil_iff.mpr h]
    rfl

end Text

open Text

/-! ## Declarations -/

/-- A letter or underscore, then letters, digits and underscores. -/
def IsIdentifier (name : String) : Prop :=
  ∃ first rest, name.toList = first :: rest ∧ (first.isAlpha = true ∨ first = '_') ∧
    ∀ c ∈ rest, c.isAlphanum = true ∨ c = '_'

theorem isIdentifier_iff {name : String} : isIdentifier name = true ↔ IsIdentifier name := by
  rw [isIdentifier, IsIdentifier]
  cases name.toList with
  | nil => simp
  | cons first rest => simp

namespace LocalPort

/-- A piece of text that declares a port: the keyword of a value type, blanks, and an identifier. -/
structure Declares (piece : List Char) (p : LocalPort) : Prop where
  value : p.type.isSampler = false
  named : IsIdentifier p.name
  spaced : ∃ before between after, Blank before ∧ Blank between ∧ between ≠ [] ∧ Blank after ∧
    piece = before ++ p.type.keyword.toList ++ between ++ p.name.toList ++ after

/-- The pieces of a text between its commas, without the blank ones. -/
def pieces (text : String) : List (List Char) :=
  (text.toList.splitOn ',').filter fun piece => !piece.all isBlank

theorem isUsable_iff {p : LocalPort} : p.isUsable = true ↔ p.type.isSampler = false ∧ IsIdentifier p.name := by
  rw [isUsable, Bool.and_eq_true, Bool.not_eq_true', isIdentifier_iff]

theorem valueType?_eq_some_iff {keyword : String} {type : PortType} :
    valueType? keyword = some type ↔ type.isSampler = false ∧ keyword = type.keyword := by
  constructor
  · intro h
    obtain ⟨hFind, hValue⟩ := Option.filter_eq_some_iff.mp h
    have hKeyword := List.find?_some hFind
    exact ⟨by simpa using hValue, (of_decide_eq_true hKeyword).symm⟩
  · rintro ⟨hValue, rfl⟩
    exact valueType?_keyword hValue

theorem read_eq_ok_iff_words {piece : List Char} {p : LocalPort} :
    read piece = .ok p ↔ p.isUsable = true ∧ words piece = [p.type.keyword.toList, p.name.toList] := by
  constructor
  · intro h
    rw [read] at h
    split at h
    · rename_i keyword name hWords
      split at h
      · cases h
      · rename_i type hType
        split at h
        · rename_i hName
          cases h
          obtain ⟨hValue, hKeyword⟩ := valueType?_eq_some_iff.mp hType
          refine ⟨isUsable_iff.mpr ⟨hValue, isIdentifier_iff.mp hName⟩, ?_⟩
          rw [hWords, ← hKeyword, String.toList_ofList, String.toList_ofList]
        · cases h
    · cases h
  · rintro ⟨hUsable, hWords⟩
    obtain ⟨hValue, hName⟩ := isUsable_iff.mp hUsable
    simp only [read, hWords, String.ofList_toList, valueType?_keyword hValue, isIdentifier_iff.mpr hName, if_true]

theorem read_eq_ok_iff {piece : List Char} {p : LocalPort} : read piece = .ok p ↔ Declares piece p := by
  rw [read_eq_ok_iff_words, isUsable_iff, words_eq_pair_iff]
  constructor
  · rintro ⟨⟨hValue, hName⟩, -, -, hSpaced⟩
    exact ⟨hValue, hName, hSpaced⟩
  · rintro ⟨hValue, hName, hSpaced⟩
    exact ⟨⟨hValue, hName⟩, (isPlain_keyword p.type).isWord,
      (isPlain_of_isIdentifier (isIdentifier_iff.mpr hName)).isWord, hSpaced⟩

theorem items_eq (text : String) : items text.toList = (pieces text).map trim := by
  rw [items, Text.splitOn, split_eq_splitOnP, List.filter_map, pieces]
  congr 1
  refine List.filter_congr fun piece _ => ?_
  rw [Bool.eq_iff_iff]
  have hNil : ¬trim piece = [] ↔ ¬Blank piece := not_congr trim_eq_nil_iff
  simpa [Blank] using hNil

/-- A text is read as the ports that its pieces declare, one after the other. -/
theorem readAll_eq_ok_iff {text : String} {ports : List LocalPort} :
    readAll text = .ok ports ↔ List.Forall₂ Declares (pieces text) ports := by
  rw [readAll, items_eq, Except.mapM_eq_ok_iff, List.forall₂_map_left_iff]
  have hPiece (piece : List Char) (p : LocalPort) : read (trim piece) = .ok p ↔ Declares piece p := by
    rw [← read_eq_ok_iff, read_eq_ok_iff_words, words_trim, read_eq_ok_iff_words]
  simp only [hPiece]

theorem exists_readAll_iff {text : String} :
    (∃ ports, readAll text = .ok ports) ↔ ∀ piece ∈ pieces text, ∃ p, Declares piece p := by
  simp only [readAll_eq_ok_iff]
  induction pieces text with
  | nil => exact iff_of_true ⟨[], .nil⟩ (List.forall_mem_nil _)
  | cons piece rest ih =>
    rw [List.forall_mem_cons, ← ih]
    constructor
    · rintro ⟨ports, hAll⟩
      obtain ⟨p, ports, hFirst, hRest, rfl⟩ := List.forall₂_cons_left_iff.mp hAll
      exact ⟨⟨p, hFirst⟩, ports, hRest⟩
    · rintro ⟨⟨p, hFirst⟩, ports, hRest⟩
      exact ⟨p :: ports, .cons hFirst hRest⟩

end LocalPort

/-! ## Expression nodes -/

namespace ExpressionNode

/-- A call that fails leaves the node as it was. -/
theorem HasLocals.store {n : ExpressionNode} (h : n.HasLocals) (name : String) (value : ParamValue) :
    ((ExpressionNode.store name value).exec n).2.HasLocals := by
  have hExec : (ExpressionNode.store name value).exec n = _ := n.performs_store name value
  rw [hExec]
  cases hAssign : ParamSlot.assign n.slots "expression" name value with
  | ok n' =>
    obtain ⟨_, -, -, hLocals⟩ := sets_of_assign h hAssign
    exact hLocals
  | error e => exact h

def stored (n : ExpressionNode) (calls : List (String × ParamValue)) : ExpressionNode :=
  calls.foldl (fun n call => ((store call.1 call.2).exec n).2) n

theorem HasLocals.stored {n : ExpressionNode} (h : n.HasLocals) (calls : List (String × ParamValue)) :
    (n.stored calls).HasLocals := by
  induction calls generalizing n with
  | nil => exact h
  | cons call rest ih => exact ih (h.store call.1 call.2)

theorem names_ports (n : ExpressionNode) :
    (n.inputPorts ++ n.outputPorts).map Port.name = (n.inputs ++ n.outputs).map LocalPort.name := by
  rw [List.map_append, List.map_append, inputPorts, outputPorts, List.map_map, List.map_map]
  rfl

theorem HasLocals.ports_named {n : ExpressionNode} (h : n.HasLocals) :
    ((n.inputPorts ++ n.outputPorts).map Port.name).Nodup ∧
      ∀ port ∈ n.inputPorts ++ n.outputPorts, port.type.isSampler = false ∧ IsIdentifier port.name := by
  obtain ⟨hUsable, -, hNodup⟩ := LocalPort.check_eq_ok_iff.mp h
  refine ⟨n.names_ports ▸ hNodup, fun port hMem => ?_⟩
  rcases List.mem_append.mp hMem with hInput | hOutput
  · obtain ⟨p, hPort, rfl⟩ := List.mem_map.mp hInput
    exact LocalPort.isUsable_iff.mp (hUsable p (List.mem_append_left _ hPort))
  · obtain ⟨p, hPort, rfl⟩ := List.mem_map.mp hOutput
    exact LocalPort.isUsable_iff.mp (hUsable p (List.mem_append_right _ hPort))

/-- Every list of ports that can be local variables is read back from its text. A text can be read exactly if each of
its pieces declares a port, and it is read as these ports, in order. Whatever is stored in a new expression node, its
ports have distinct identifiers as names, and types of values. -/
theorem port_lists_read_exactly_and_stay_distinct :
    (∀ ports : List LocalPort, (∀ p ∈ ports, p.type.isSampler = false ∧ IsIdentifier p.name) →
      LocalPort.readAll (LocalPort.writeAll ports) = .ok ports) ∧
    (∀ text, ((∃ ports, LocalPort.readAll text = .ok ports) ↔
        ∀ piece ∈ LocalPort.pieces text, ∃ p, LocalPort.Declares piece p) ∧
      ∀ ports, LocalPort.readAll text = .ok ports ↔
        List.Forall₂ LocalPort.Declares (LocalPort.pieces text) ports) ∧
    ∀ calls, let n := ({} : ExpressionNode).stored calls
      ((n.inputPorts ++ n.outputPorts).map Port.name).Nodup ∧
        ∀ port ∈ n.inputPorts ++ n.outputPorts, port.type.isSampler = false ∧ IsIdentifier port.name := by
  refine ⟨?_, fun text => ⟨LocalPort.exists_readAll_iff, fun ports => LocalPort.readAll_eq_ok_iff⟩, ?_⟩
  · intro ports hPorts
    exact LocalPort.readAll_writeAll fun p hMem => LocalPort.isUsable_iff.mpr (hPorts p hMem)
  · intro calls
    have hNew : ({} : ExpressionNode).HasLocals := rfl
    exact (hNew.stored calls).ports_named

/-- The second list names a port of the first and is refused, then it is stored under another name. -/
theorem port_lists_read_exactly_and_stay_distinct_twice :
    let ports : List LocalPort := [⟨.scalar, "_a"⟩, ⟨.vector3, "b2"⟩]
    let calls : List (String × ParamValue) :=
      [("inputs", .text "float _a,, \tvec3\n b2 "), ("outputs", .text "bool b2"), ("outputs", .text "bool c")]
    LocalPort.readAll (LocalPort.writeAll ports) = .ok ports ∧
      LocalPort.readAll "float _a,, \tvec3\n b2 " = .ok ports ∧
      List.Forall₂ LocalPort.Declares (LocalPort.pieces "float _a,, \tvec3\n b2 ") ports ∧
      ((({} : ExpressionNode).stored calls).inputPorts ++ (({} : ExpressionNode).stored calls).outputPorts).map
        Port.name = ["_a", "b2", "c"] ∧ ["_a", "b2", "c"].Nodup := by
  intro ports calls
  obtain ⟨hBack, hText, hNode⟩ := port_lists_read_exactly_and_stay_distinct
  have hUsable : ∀ p ∈ ports, p.isUsable = true := by decide
  have hRead : LocalPort.readAll "float _a,, \tvec3\n b2 " = .ok ports := rfl
  have hNames : ((({} : ExpressionNode).stored calls).inputPorts ++
      (({} : ExpressionNode).stored calls).outputPorts).map Port.name = ["_a", "b2", "c"] := rfl
  exact ⟨hBack ports fun p hMem => LocalPort.isUsable_iff.mp (hUsable p hMem), hRead, ((hText _).2 ports).mp hRead,
    hNames, hNames ▸ (hNode calls).1⟩

end ExpressionNode

end ShadeGraph
