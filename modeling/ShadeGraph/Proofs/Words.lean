import ShadeGraph.Node.Code
import ShadeGraph.Proofs.Names

/-!
# Words of shader text

The words of a text are its longest runs of letters, digits and underscores. Built-ins of stages are written in
capitals, and most texts hold no word in capitals: they are calm. What is put together from calm texts is calm, with
no regard to where one ends and the next begins; a text that is not calm is taken apart between its words.
-/

namespace ShadeGraph.Text

def isNameChar (c : Char) : Bool := c.isAlphanum || c = '_'

def identifiers (text : List Char) : List (List Char) :=
  (split (!isNameChar ·) text).filter (!·.isEmpty)

/-- A word stands in a text. -/
def Mentions (text word : String) : Prop := word.toList ∈ identifiers text.toList

instance (text word : String) : Decidable (Mentions text word) := inferInstanceAs (Decidable (_ ∈ _))

/-! ## Texts taken apart -/

theorem split_append_separator {isSeparator : Char → Bool} (before : List Char) {c : Char} (after : List Char)
    (h : isSeparator c = true) :
    split isSeparator (before ++ c :: after) = split isSeparator before ++ split isSeparator after := by
  induction before with
  | nil => simp [split, h]
  | cons d rest ih =>
    obtain ⟨piece, pieces, hRest⟩ := List.exists_cons_of_ne_nil (split_ne_nil isSeparator rest)
    rw [List.cons_append, split, split, ih, hRest]
    split
    · rfl
    · rfl

/-- The pieces of a text stand in it, the first one at its start. -/
theorem split_infix (isSeparator : Char → Bool) (text : List Char) :
    ∃ first pieces, split isSeparator text = first :: pieces ∧ first <+: text ∧ ∀ piece ∈ pieces, piece <:+: text := by
  induction text with
  | nil => exact ⟨[], [], rfl, List.prefix_rfl, by simp⟩
  | cons c rest ih =>
    obtain ⟨first, pieces, hRest, hFirst, hPieces⟩ := ih
    rw [split, hRest]
    split
    · refine ⟨[], first :: pieces, rfl, List.nil_prefix, ?_⟩
      intro piece hMem
      rcases List.mem_cons.mp hMem with rfl | hMem
      · exact List.infix_cons hFirst.isInfix
      · exact List.infix_cons (hPieces piece hMem)
    · refine ⟨c :: first, pieces, rfl, List.cons_prefix_cons.mpr ⟨rfl, hFirst⟩, ?_⟩
      exact fun piece hMem => List.infix_cons (hPieces piece hMem)

theorem infix_of_mem_identifiers {text word : List Char} (h : word ∈ identifiers text) : word <:+: text := by
  obtain ⟨first, pieces, hSplit, hFirst, hPieces⟩ := split_infix (!isNameChar ·) text
  have hMem := (List.mem_filter.mp h).1
  rw [hSplit] at hMem
  rcases List.mem_cons.mp hMem with rfl | hMem
  · exact hFirst.isInfix
  · exact hPieces word hMem

theorem identifiers_append_cons (before : List Char) {c : Char} (after : List Char) (h : isNameChar c = false) :
    identifiers (before ++ c :: after) = identifiers before ++ identifiers after := by
  rw [identifiers, split_append_separator before after (by simp [h]), List.filter_append]
  rfl

theorem identifiers_of_forall {word : List Char} (hNe : word ≠ []) (h : ∀ c ∈ word, isNameChar c = true) :
    identifiers word = [word] := by
  rw [identifiers, split_of_forall fun c hMem => by simp [h c hMem]]
  simp [hNe]

/-- Whether a text has a boundary of words at its start, or is empty. -/
def startsApart (text : String) : Bool := text.toList.head?.all (!isNameChar ·)

def endsApart (text : String) : Bool := text.toList.getLast?.all (!isNameChar ·)

theorem identifiers_append_of_startsApart (before : List Char) {after : List Char}
    (h : after.head?.all (!isNameChar ·) = true) :
    identifiers (before ++ after) = identifiers before ++ identifiers after := by
  cases after with
  | nil => simp [identifiers, split]
  | cons c rest =>
    have hChar : isNameChar c = false := by simpa using h
    have hAfter := identifiers_append_cons [] rest hChar
    rw [identifiers_append_cons before rest hChar, ← List.nil_append (c :: rest), hAfter]
    rfl

theorem identifiers_append_of_endsApart {before : List Char} (after : List Char)
    (h : before.getLast?.all (!isNameChar ·) = true) :
    identifiers (before ++ after) = identifiers before ++ identifiers after := by
  rcases List.eq_nil_or_concat' before with rfl | ⟨rest, c, rfl⟩
  · simp [identifiers, split]
  · have hChar : isNameChar c = false := by simpa using h
    rw [List.append_assoc, List.singleton_append, identifiers_append_cons rest after hChar,
      identifiers_append_cons rest [] hChar, List.append_assoc]
    rfl

theorem mentions_append_of_startsApart {before after word : String} (h : startsApart after = true) :
    Mentions (before ++ after) word ↔ Mentions before word ∨ Mentions after word := by
  rw [Mentions, String.toList_append, identifiers_append_of_startsApart _ h, List.mem_append]
  rfl

theorem mentions_append_of_endsApart {before after word : String} (h : endsApart before = true) :
    Mentions (before ++ after) word ↔ Mentions before word ∨ Mentions after word := by
  rw [Mentions, String.toList_append, identifiers_append_of_endsApart _ h, List.mem_append]
  rfl

theorem endsApart_append {first second : String} (hNe : second ≠ "") :
    endsApart (first ++ second) = endsApart second := by
  rw [endsApart, String.toList_append, List.getLast?_append_of_ne_nil _ (by simpa using hNe)]
  rfl

theorem endsApart_ofChars {chars : List Char} (h : chars.getLast?.all (!isNameChar ·) = true) :
    endsApart (String.ofList chars) = true := by
  rw [endsApart, String.toList_ofList]
  exact h

theorem endsApart_append_of {first second : String} (hFirst : endsApart first = true)
    (hSecond : endsApart second = true) :
    endsApart (first ++ second) = true := by
  by_cases hEmpty : second = ""
  · rwa [hEmpty, String.append_empty]
  · rwa [endsApart_append hEmpty]

theorem endsApart_concat {parts : List String} (h : ∀ part ∈ parts, endsApart part = true) :
    endsApart (concat parts) = true := by
  induction parts with
  | nil => rfl
  | cons part rest ih =>
    exact endsApart_append_of (h part List.mem_cons_self)
      (ih fun part' hMem => h part' (List.mem_cons_of_mem part hMem))

theorem mentions_concat {parts : List String} {word : String} (h : ∀ part ∈ parts, endsApart part = true) :
    Mentions (concat parts) word ↔ ∃ part ∈ parts, Mentions part word := by
  induction parts with
  | nil => simp [concat, Mentions, identifiers, split]
  | cons part rest ih =>
    rw [concat_cons, mentions_append_of_endsApart (h part List.mem_cons_self),
      ih fun part' hMem => h part' (List.mem_cons_of_mem part hMem), List.exists_mem_cons_iff]

theorem mentions_of_isName {name word : String} (h : UniformName.IsName name) : Mentions name word ↔ name = word := by
  obtain ⟨first, rest, hName, hFirst, hRest⟩ := h
  have hChars : ∀ c ∈ name.toList, isNameChar c = true := by
    intro c hMem
    rw [hName] at hMem
    rcases List.mem_cons.mp hMem with rfl | hMem
    · rw [isNameChar, UniformName.isAlphanum_of_isAlpha hFirst]
      rfl
    · exact hRest c hMem
  rw [Mentions, identifiers_of_forall (by rw [hName]; exact List.cons_ne_nil first rest) hChars, List.mem_singleton,
    String.toList_inj, eq_comm]

theorem identifiers_dropReturn (line : List Char) : identifiers (dropReturn line) = identifiers line := by
  rw [dropReturn]
  split
  · rename_i hReturn
    obtain ⟨rest, rfl⟩ := List.getLast?_eq_some_iff.mp hReturn
    rw [List.dropLast_concat, identifiers_append_cons rest [] (by decide)]
    exact (List.append_nil _).symm
  · rfl

/-- A word stands in one of the lines. -/
theorem mem_identifiers_iff_lines {text word : List Char} :
    word ∈ identifiers text ↔ ∃ line ∈ lines text, word ∈ identifiers line := by
  induction text using line_induction with
  | hLast text hLast =>
    rw [lines_of_not_mem hLast]
    split
    · rename_i hEmpty
      rw [List.isEmpty_iff.mp hEmpty]
      simp [identifiers, split]
    · simp
  | hBreak before after hBefore ih =>
    rw [identifiers_append_cons _ _ (by decide), List.mem_append, ih, lines_append_cons _ hBefore,
      List.exists_mem_cons_iff, identifiers_dropReturn]

/-! ## Capitals -/

/-- Whether a capital that a character follows is not part of a word in capitals. -/
def endsCapital (c : Char) : Bool := c.isLower || c = '.' || c = ' '

/-- Whether each capital is followed by a small letter, a point or a blank. -/
def isCalm : List Char → Bool
  | [] => true
  | c :: rest => (!c.isUpper || rest.head?.any endsCapital) && isCalm rest

/-- No word in capitals stands in the text or reaches into what follows it. -/
structure Calm (text : String) : Prop where
  chars : isCalm text.toList = true

instance (text : String) : Decidable (Calm text) :=
  decidable_of_iff (isCalm text.toList = true) ⟨Calm.mk, Calm.chars⟩

/-- Whether a word begins like a word in capitals. -/
def isCapital : List Char → Bool
  | c :: d :: _ => c.isUpper && !endsCapital d
  | _ => false

theorem isCalm_cons {c : Char} {rest : List Char} (hSmall : c.isUpper = false) (hRest : isCalm rest = true) :
    isCalm (c :: rest) = true := by
  rw [isCalm, hSmall, hRest]
  rfl

theorem isCalm_append {first second : List Char} (hFirst : isCalm first = true) (hSecond : isCalm second = true) :
    isCalm (first ++ second) = true := by
  induction first with
  | nil => exact hSecond
  | cons c rest ih =>
    rw [isCalm, Bool.and_eq_true] at hFirst
    rw [List.cons_append, isCalm, ih hFirst.2, Bool.and_true]
    cases rest with
    | nil =>
      -- nothing follows, so the character is no capital
      have hSmall : c.isUpper = false := by simpa using hFirst.1
      simp [hSmall]
    | cons d rest => exact hFirst.1

theorem isCalm_of_append (first : List Char) {second : List Char} (h : isCalm (first ++ second) = true) :
    isCalm second = true := by
  induction first with
  | nil => exact h
  | cons c rest ih =>
    rw [List.cons_append, isCalm, Bool.and_eq_true] at h
    exact ih h.2

theorem isCalm_of_forall {text : List Char} (h : ∀ c ∈ text, c.isUpper = false) : isCalm text = true := by
  induction text with
  | nil => rfl
  | cons c rest ih => exact isCalm_cons (h c List.mem_cons_self) (ih fun d hMem => h d (List.mem_cons_of_mem c hMem))

/-- Characters given one by one are looked at faster than those of a string. -/
theorem Calm.ofChars {chars : List Char} (h : isCalm chars = true) : Calm (String.ofList chars) := by
  constructor
  rw [String.toList_ofList]
  exact h

theorem Calm.append {first second : String} (hFirst : Calm first) (hSecond : Calm second) : Calm (first ++ second) := by
  constructor
  rw [String.toList_append]
  exact isCalm_append hFirst.chars hSecond.chars

theorem calm_concat {parts : List String} (h : ∀ part ∈ parts, Calm part) : Calm (concat parts) := by
  induction parts with
  | nil => decide
  | cons part rest ih =>
    rw [concat_cons]
    exact (h part List.mem_cons_self).append (ih fun part' hMem => h part' (List.mem_cons_of_mem part hMem))

/-- Calm texts hold no word in capitals. -/
theorem Calm.not_mentions {text word : String} (h : Calm text) (hWord : isCapital word.toList = true) :
    ¬Mentions text word := by
  intro hMentions
  obtain ⟨before, after, hText⟩ := infix_of_mem_identifiers hMentions
  cases hChars : word.toList with
  | nil => simp [hChars, isCapital] at hWord
  | cons c rest =>
    cases rest with
    | nil => simp [hChars, isCapital] at hWord
    | cons d rest =>
      rw [hChars] at hWord hText
      simp only [isCapital, Bool.and_eq_true, Bool.not_eq_true'] at hWord
      have hCalm := h.chars
      rw [← hText, List.append_assoc] at hCalm
      have hRest := isCalm_of_append _ hCalm
      simp [isCalm, hWord] at hRest

/-- What stands beside a text and apart from it adds no word in capitals. -/
theorem mentions_append_calm {text after word : String} (hAfter : Calm after) (hStarts : startsApart after = true)
    (hWord : isCapital word.toList = true) : Mentions (text ++ after) word ↔ Mentions text word := by
  rw [mentions_append_of_startsApart hStarts, or_iff_left (hAfter.not_mentions hWord)]

theorem mentions_calm_append {before text word : String} (hBefore : Calm before) (hEnds : endsApart before = true)
    (hWord : isCapital word.toList = true) : Mentions (before ++ text) word ↔ Mentions text word := by
  rw [mentions_append_of_endsApart hEnds, or_iff_right (hBefore.not_mentions hWord)]

/-- The words in capitals of a text that holds one. -/
theorem mentions_iff_of_capitals {text name word : String} (hWord : isCapital word.toList = true)
    (hOnly : (identifiers text.toList).filter isCapital = [name.toList]) : Mentions text word ↔ word = name := by
  have hMem : word.toList ∈ (identifiers text.toList).filter isCapital ↔ Mentions text word := by
    rw [List.mem_filter, and_iff_left hWord]
    rfl
  rw [← hMem, hOnly, List.mem_singleton, String.toList_inj]

theorem not_isUpper_of_isDigit {c : Char} (h : c.isDigit = true) : c.isUpper = false := by
  rw [Bool.eq_false_iff]
  intro hUpper
  have hAlpha : c.isAlpha = true := by
    change (c.isUpper || c.isLower) = true
    rw [hUpper]
    rfl
  rw [UniformName.isDigit_of_isAlpha hAlpha] at h
  cases h

end ShadeGraph.Text
