import Mathlib.Data.List.Basic
import ShadeGraph.Text.Basic
import ShadeGraph.Text.Numeral
import ShadeGraph.Text.Quoted

/-!
# Texts that read back

What is written in pieces is cut into the same pieces again, as long as no piece holds the separator and the
blanks around a piece do not matter.
-/

namespace ShadeGraph.Text

/-! ## Whole numbers -/

@[simp] theorem digitsValue_toDigits (n : Nat) : digitsValue (Nat.toDigits 10 n) = n :=
  Nat.ofDigitChars_toDigits (by decide) (by decide)

theorem isDigit_of_mem_repr {n : Nat} {c : Char} (h : c ∈ (Nat.repr n).toList) : c.isDigit = true := by
  rw [Nat.toList_repr] at h
  exact Nat.isDigit_of_mem_toDigits (by decide) (by decide) h

theorem repr_ne_nil (n : Nat) : (Nat.repr n).toList ≠ [] := by
  rw [Nat.toList_repr]
  exact Nat.toDigits_ne_nil

theorem repr_injective : Function.Injective Nat.repr := by
  intro m n h
  have hDigits : Nat.toDigits 10 m = Nat.toDigits 10 n := by
    rw [← Nat.toList_repr, ← Nat.toList_repr, h]
  rw [← digitsValue_toDigits m, hDigits, digitsValue_toDigits]

theorem natural?_toDigits (n : Nat) : natural? (Nat.toDigits 10 n) = some n := by
  have hDigits : (Nat.toDigits 10 n).all Char.isDigit = true :=
    List.all_eq_true.mpr fun c hMem => Nat.isDigit_of_mem_toDigits (by decide) (by decide) hMem
  simp [natural?, hDigits, Nat.toDigits_ne_nil]

theorem below?_toDigits {bound n : Nat} (h : n < bound) : below? bound (Nat.toDigits 10 n) = some n := by
  have hPlus : '+' ∉ Nat.toDigits 10 n := fun hMem => by
    have hDigit := Nat.isDigit_of_mem_toDigits (by decide) (by decide) hMem
    cases hDigit
  rw [below?, natural?_toDigits]
  · simp [h]
  · intro rest hDigits
    exact hPlus (hDigits ▸ List.mem_cons_self)

theorem index?_repr {n : Nat} (h : n < indexBound) : index? (Nat.repr n).toList = some n := by
  rw [index?, Nat.toList_repr, below?_toDigits h]

/-! ## Cutting -/

theorem eq_append_of_cutAt {separator : Char} {text before after : List Char}
    (h : cutAt separator text = some (before, after)) : text = before ++ separator :: after := by
  induction text generalizing before with
  | nil => cases h
  | cons c rest ih =>
    rw [cutAt] at h
    split at h
    · rename_i hSeparator
      cases h
      rw [hSeparator, List.nil_append]
    · obtain ⟨⟨before', after'⟩, hRest, hSame⟩ := Option.map_eq_some_iff.mp h
      cases hSame
      rw [ih hRest, List.cons_append]

theorem cutAt_append {separator : Char} {before : List Char} (after : List Char) (h : separator ∉ before) :
    cutAt separator (before ++ separator :: after) = some (before, after) := by
  induction before with
  | nil => simp [cutAt]
  | cons c rest ih =>
    simp only [List.mem_cons, not_or] at h
    simp [cutAt, Ne.symm h.1, ih h.2]

theorem split_of_forall {isSeparator : Char → Bool} {piece : List Char} (h : ∀ c ∈ piece, isSeparator c = false) :
    split isSeparator piece = [piece] := by
  induction piece with
  | nil => rfl
  | cons c rest ih =>
    have hRest := ih fun c' hMem => h c' (List.mem_cons_of_mem c hMem)
    simp [split, h c List.mem_cons_self, hRest]

theorem split_append_cons {isSeparator : Char → Bool} {piece : List Char} {s : Char} (rest : List Char)
    (h : ∀ c ∈ piece, isSeparator c = false) (hSeparator : isSeparator s = true) :
    split isSeparator (piece ++ s :: rest) = piece :: split isSeparator rest := by
  induction piece with
  | nil => simp [split, hSeparator]
  | cons c piece ih =>
    have hRest := ih fun c' hMem => h c' (List.mem_cons_of_mem c hMem)
    simp [split, h c List.mem_cons_self, hRest]

theorem splitOn_of_not_mem {separator : Char} {piece : List Char} (h : separator ∉ piece) :
    splitOn separator piece = [piece] :=
  split_of_forall fun c hMem => by
    rw [beq_eq_false_iff_ne]
    rintro rfl
    exact h hMem

theorem splitOn_append_cons {separator : Char} {piece : List Char} (rest : List Char) (h : separator ∉ piece) :
    splitOn separator (piece ++ separator :: rest) = piece :: splitOn separator rest :=
  split_append_cons rest (fun c hMem => by
    rw [beq_eq_false_iff_ne]
    rintro rfl
    exact h hMem) BEq.rfl

theorem split_ne_nil (isSeparator : Char → Bool) (text : List Char) : split isSeparator text ≠ [] := by
  cases text with
  | nil => simp [split]
  | cons c rest =>
    rw [split]
    split
    · simp
    · split <;> simp

theorem splitOn_ne_nil (separator : Char) (text : List Char) : splitOn separator text ≠ [] := split_ne_nil _ text

/-- A character that is no separator belongs to the first piece. -/
theorem splitOn_cons_of_ne {separator c : Char} {text piece : List Char} {pieces : List (List Char)}
    (hNe : c ≠ separator) (h : splitOn separator text = piece :: pieces) :
    splitOn separator (c :: text) = (c :: piece) :: pieces := by
  rw [splitOn] at h ⊢
  simp [split, hNe, h]

@[simp] theorem concat_nil : concat [] = "" := rfl

@[simp] theorem concat_cons (part : String) (parts : List String) : concat (part :: parts) = part ++ concat parts :=
  rfl

@[simp] theorem concat_append (parts parts' : List String) :
    concat (parts ++ parts') = concat parts ++ concat parts' := by
  induction parts with
  | nil => simp [concat]
  | cons part rest ih => simp [ih, String.append_assoc]

theorem concat_filter (parts : List String) : concat (parts.filter (!·.isEmpty)) = concat parts := by
  induction parts with
  | nil => rfl
  | cons part rest ih =>
    by_cases hEmpty : part = ""
    · simp [hEmpty, ih]
    · simp [hEmpty, ih]

/-! ## Blanks -/

/-- A text that no blanks surround. -/
structure Trimmed (text : List Char) : Prop where
  head : ∀ c ∈ text.head?, isBlank c = false
  last : ∀ c ∈ text.getLast?, isBlank c = false

theorem dropWhile_isBlank_eq_self {text : List Char} (h : ∀ c ∈ text.head?, isBlank c = false) :
    text.dropWhile isBlank = text := by
  cases text with
  | nil => rfl
  | cons c rest => simp [h c rfl]

theorem trimEnd_eq_self {text : List Char} (h : ∀ c ∈ text.getLast?, isBlank c = false) : trimEnd text = text := by
  rw [trimEnd, dropWhile_isBlank_eq_self, List.reverse_reverse]
  rwa [List.head?_reverse]

theorem trim_blank_cons {b : Char} (h : isBlank b = true) (text : List Char) : trim (b :: text) = trim text := by
  simp [trim, trimStart, h]

namespace Trimmed

theorem trim_eq {text : List Char} (h : Trimmed text) : trim text = text := by
  rw [trim, trimStart, dropWhile_isBlank_eq_self h.head, trimEnd_eq_self h.last]

theorem nil : Trimmed [] := by
  constructor <;> simp

theorem of_forall {text : List Char} (h : ∀ c ∈ text, isBlank c = false) : Trimmed text :=
  ⟨fun c hHead => h c (List.mem_of_mem_head? hHead), fun c hLast => h c (List.mem_of_mem_getLast? hLast)⟩

theorem append {s t : List Char} (hs : Trimmed s) (ht : Trimmed t) (hsNe : s ≠ []) (htNe : t ≠ []) (m : List Char) :
    Trimmed (s ++ m ++ t) := by
  constructor
  · intro c hHead
    rw [List.append_assoc, List.head?_append_of_ne_nil _ hsNe] at hHead
    exact hs.head c hHead
  · intro c hLast
    rw [List.getLast?_append_of_ne_nil _ htNe] at hLast
    exact ht.last c hLast

theorem trim_append_blank {text : List Char} {b : Char} (h : Trimmed text) (hBlank : isBlank b = true) :
    trim (text ++ [b]) = text := by
  cases text with
  | nil => simp [trim, trimStart, trimEnd, hBlank]
  | cons c rest =>
    have hHead : (c :: rest ++ [b]).dropWhile isBlank = c :: rest ++ [b] := by
      simp [h.head c rfl]
    have hDrop : (c :: rest ++ [b]).reverse.dropWhile isBlank = (c :: rest).reverse := by
      rw [List.reverse_append, List.reverse_singleton, List.singleton_append, List.dropWhile_cons_of_pos hBlank]
      apply dropWhile_isBlank_eq_self
      rw [List.head?_reverse]
      exact h.last
    rw [trim, trimStart, hHead, trimEnd, hDrop, List.reverse_reverse]

end Trimmed

/-! ## Plain texts -/

/-- The characters of names and numbers: none is blank, and none separates anything. -/
def isPlainChar (c : Char) : Bool := c.isAlphanum || c = '_' || c = '-' || c = '.'

/-- A name or a number. -/
structure IsPlain (text : List Char) : Prop where
  ne_nil : text ≠ []
  isPlainChar : ∀ c ∈ text, isPlainChar c = true

-- Decided by running over the text: there are too many characters to try them all.
instance (text : List Char) : Decidable (IsPlain text) :=
  decidable_of_iff (text ≠ [] ∧ text.all isPlainChar = true)
    ⟨fun h => ⟨h.1, List.all_eq_true.mp h.2⟩, fun h => ⟨h.ne_nil, List.all_eq_true.mpr h.isPlainChar⟩⟩

theorem toNat_of_isAlpha {c : Char} (h : c.isAlpha = true) :
    (65 ≤ c.toNat ∧ c.toNat ≤ 90) ∨ 97 ≤ c.toNat ∧ c.toNat ≤ 122 := by
  change (decide (c.val ≥ 65 ∧ c.val ≤ 90) || (decide (c.val ≥ 97) && decide (c.val ≤ 122))) = true at h
  simp only [Bool.or_eq_true, Bool.and_eq_true, decide_eq_true_eq, UInt32.le_iff_toNat_le, ge_iff_le] at h
  exact h

theorem isDigit_iff_toNat {c : Char} : c.isDigit = true ↔ 48 ≤ c.toNat ∧ c.toNat ≤ 57 := by
  simp only [Char.isDigit, Bool.and_eq_true, decide_eq_true_eq, UInt32.le_iff_toNat_le, ge_iff_le]
  rfl

theorem isBlank_of_isPlainChar {c : Char} (h : isPlainChar c = true) : isBlank c = false := by
  simp only [isPlainChar, Bool.or_eq_true, decide_eq_true_eq] at h
  rcases h with ((hName | rfl) | rfl) | rfl
  · have hCode : ((65 ≤ c.toNat ∧ c.toNat ≤ 90) ∨ 97 ≤ c.toNat ∧ c.toNat ≤ 122) ∨ 48 ≤ c.toNat ∧ c.toNat ≤ 57 := by
      rw [Char.isAlphanum, Bool.or_eq_true] at hName
      exact hName.imp toNat_of_isAlpha isDigit_iff_toNat.mp
    simp only [isBlank, blankRanges, List.any_cons, List.any_nil, Bool.or_false, Bool.or_eq_false_iff,
      Bool.and_eq_false_iff, decide_eq_false_iff_not]
    omega
  · decide
  · decide
  · decide

namespace IsPlain

theorem ofChars {chars : List Char} (h : decide (IsPlain chars) = true) :
    IsPlain (String.ofList chars).toList := by
  rw [String.toList_ofList]
  exact of_decide_eq_true h

theorem trimmed {text : List Char} (h : IsPlain text) : Trimmed text :=
  .of_forall fun c hMem => isBlank_of_isPlainChar (h.isPlainChar c hMem)

theorem not_mem {text : List Char} (h : IsPlain text) {c : Char} (hc : Text.isPlainChar c = false) : c ∉ text := by
  intro hMem
  rw [h.isPlainChar c hMem] at hc
  cases hc

theorem words_pair {first second : List Char} (hFirst : IsPlain first) (hSecond : IsPlain second) :
    words (first ++ ' ' :: second) = [first, second] := by
  have hCut : split isBlank (first ++ ' ' :: second) = [first, second] := by
    rw [split_append_cons second (fun c hMem => isBlank_of_isPlainChar (hFirst.isPlainChar c hMem)) (by decide),
      split_of_forall fun c hMem => isBlank_of_isPlainChar (hSecond.isPlainChar c hMem)]
  rw [words, hCut]
  simp [hFirst.ne_nil, hSecond.ne_nil]

end IsPlain

theorem isPlainChar_of_isDigit {c : Char} (h : c.isDigit = true) : isPlainChar c = true := by
  simp [isPlainChar, Char.isAlphanum, h]

theorem isPlain_repr (n : Nat) : IsPlain (Nat.repr n).toList :=
  ⟨repr_ne_nil n, fun _ hMem => isPlainChar_of_isDigit (isDigit_of_mem_repr hMem)⟩

/-! ## Lists -/

theorem joinWith_cons_cons (glue part next : String) (rest : List String) :
    joinWith glue (part :: next :: rest) = part ++ glue ++ joinWith glue (next :: rest) := rfl

theorem joinWith_append {glue : String} {parts parts' : List String} (h : parts ≠ []) (h' : parts' ≠ []) :
    joinWith glue (parts ++ parts') = joinWith glue parts ++ glue ++ joinWith glue parts' := by
  induction parts with
  | nil => exact absurd rfl h
  | cons part rest ih =>
    cases rest with
    | nil =>
      obtain ⟨part', rest', rfl⟩ := List.exists_cons_of_ne_nil h'
      rfl
    | cons next rest =>
      have hRest := ih (by simp)
      rw [List.cons_append] at hRest
      rw [List.cons_append, List.cons_append, joinWith_cons_cons, hRest, joinWith_cons_cons]
      simp only [String.append_assoc]

theorem toList_joinWith_cons (glue part next : String) (rest : List String) :
    (joinWith glue (part :: next :: rest)).toList =
      part.toList ++ glue.toList ++ (joinWith glue (next :: rest)).toList := by
  rw [joinWith_cons_cons, String.toList_append, String.toList_append]

theorem map_trim_splitOn_joinWith {separator : Char} {glue : String} (hGlue : glue.toList = [separator, ' '])
    (hSeparator : separator ≠ ' ') {parts : List String} (hNe : parts ≠ [])
    (hParts : ∀ p ∈ parts, separator ∉ p.toList ∧ Trimmed p.toList) :
    (splitOn separator (joinWith glue parts).toList).map trim = parts.map String.toList := by
  induction parts with
  | nil => exact absurd rfl hNe
  | cons part rest ih =>
    obtain ⟨hFree, hTrimmed⟩ := hParts part List.mem_cons_self
    cases rest with
    | nil => simp [joinWith, splitOn_of_not_mem hFree, hTrimmed.trim_eq]
    | cons next rest =>
      have hRest := ih (by simp) fun p hMem => hParts p (List.mem_cons_of_mem part hMem)
      obtain ⟨piece, pieces, hPieces⟩ :=
        List.exists_cons_of_ne_nil (splitOn_ne_nil separator (joinWith glue (next :: rest)).toList)
      have hText : (joinWith glue (part :: next :: rest)).toList =
          part.toList ++ separator :: ' ' :: (joinWith glue (next :: rest)).toList := by
        rw [toList_joinWith_cons, hGlue, List.append_assoc]
        rfl
      rw [hPieces] at hRest
      rw [hText, splitOn_append_cons _ hFree, splitOn_cons_of_ne hSeparator.symm hPieces, List.map_cons, List.map_cons,
        trim_blank_cons (by decide), hTrimmed.trim_eq, ← List.map_cons, hRest]
      rfl

theorem filter_splitOn_joinWith {separator : Char} {glue : String} (hGlue : glue.toList = [separator, ' '])
    (hSeparator : separator ≠ ' ') {parts : List String}
    (hParts : ∀ p ∈ parts, separator ∉ p.toList ∧ Trimmed p.toList ∧ p.toList ≠ []) :
    ((splitOn separator (joinWith glue parts).toList).map trim).filter (!·.isEmpty) = parts.map String.toList := by
  by_cases hNe : parts = []
  · subst hNe
    rfl
  · rw [map_trim_splitOn_joinWith hGlue hSeparator hNe fun p hMem => ⟨(hParts p hMem).1, (hParts p hMem).2.1⟩,
      List.filter_eq_self]
    intro text hMem
    obtain ⟨p, hPart, rfl⟩ := List.mem_map.mp hMem
    simpa using (hParts p hPart).2.2

theorem items_joinWith {parts : List String} (hParts : ∀ p ∈ parts, ',' ∉ p.toList ∧ Trimmed p.toList ∧ p.toList ≠ []) :
    items (joinWith ", " parts).toList = parts.map String.toList :=
  filter_splitOn_joinWith rfl (by decide) hParts

theorem splitOn_joinWith {separator : Char} {glue : String} (hGlue : glue.toList = [separator]) {parts : List String}
    (hNe : parts ≠ []) (hParts : ∀ p ∈ parts, separator ∉ p.toList) :
    splitOn separator (joinWith glue parts).toList = parts.map String.toList := by
  induction parts with
  | nil => exact absurd rfl hNe
  | cons part rest ih =>
    have hPart := hParts part List.mem_cons_self
    cases rest with
    | nil => exact splitOn_of_not_mem hPart
    | cons next rest =>
      rw [toList_joinWith_cons, hGlue, List.append_assoc, List.singleton_append, splitOn_append_cons _ hPart,
        ih (by simp) fun p hMem => hParts p (List.mem_cons_of_mem part hMem)]
      rfl

theorem not_mem_joinWith {c : Char} {glue : String} (hGlue : c ∉ glue.toList) {parts : List String}
    (hParts : ∀ p ∈ parts, c ∉ p.toList) : c ∉ (joinWith glue parts).toList := by
  induction parts with
  | nil => exact List.not_mem_nil
  | cons part rest ih =>
    have hPart := hParts part List.mem_cons_self
    cases rest with
    | nil => exact hPart
    | cons next rest =>
      rw [toList_joinWith_cons]
      simp [hPart, hGlue, ih fun p hMem => hParts p (List.mem_cons_of_mem part hMem)]

theorem joinWith_ne_nil {glue : String} {parts : List String} (hNe : parts ≠ []) (hParts : ∀ p ∈ parts, p.toList ≠ []) :
    (joinWith glue parts).toList ≠ [] := by
  cases parts with
  | nil => exact absurd rfl hNe
  | cons part rest =>
    have hPart := hParts part List.mem_cons_self
    cases rest with
    | nil => exact hPart
    | cons next rest => simp [toList_joinWith_cons, hPart]

/-- A text that fits on a line after an equals sign. -/
structure IsValue (text : List Char) : Prop extends Trimmed text where
  newline : '\n' ∉ text

instance (text : List Char) : Decidable (IsValue text) :=
  decidable_of_iff (text.head?.all (!isBlank ·) = true ∧ text.getLast?.all (!isBlank ·) = true ∧ '\n' ∉ text) <| by
    have hEnd (c? : Option Char) : c?.all (!isBlank ·) = true ↔ ∀ c ∈ c?, isBlank c = false := by
      cases c? <;> simp
    rw [hEnd, hEnd]
    exact ⟨fun h => ⟨⟨h.1, h.2.1⟩, h.2.2⟩, fun h => ⟨h.head, h.last, h.newline⟩⟩

theorem IsValue.ofChars {chars : List Char} (h : decide (IsValue chars) = true) :
    IsValue (String.ofList chars).toList := by
  rw [String.toList_ofList]
  exact of_decide_eq_true h

theorem IsPlain.isValue {text : List Char} (h : IsPlain text) : IsValue text :=
  ⟨h.trimmed, h.not_mem (by decide)⟩

theorem isValue_joinWith {glue : String} (hGlue : '\n' ∉ glue.toList) {parts : List String}
    (hParts : ∀ p ∈ parts, IsValue p.toList ∧ p.toList ≠ []) : IsValue (joinWith glue parts).toList := by
  induction parts with
  | nil => exact ⟨.nil, List.not_mem_nil⟩
  | cons part rest ih =>
    obtain ⟨hPart, hNe⟩ := hParts part List.mem_cons_self
    cases rest with
    | nil => exact hPart
    | cons next rest =>
      have hRest := ih fun p hMem => hParts p (List.mem_cons_of_mem part hMem)
      have hRestNe : (joinWith glue (next :: rest)).toList ≠ [] :=
        joinWith_ne_nil (by simp) fun p hMem => (hParts p (List.mem_cons_of_mem part hMem)).2
      rw [toList_joinWith_cons]
      refine ⟨hPart.toTrimmed.append hRest.toTrimmed hNe hRestNe _, ?_⟩
      simp [hPart.newline, hGlue, hRest.newline]

/-! ## Quotes and brackets -/

theorem isSuffixOf?_append_singleton (text : List Char) (c : Char) : [c].isSuffixOf? (text ++ [c]) = some text := by
  simp [List.isSuffixOf?, List.isPrefixOf?]

theorem unescape_escape (text : List Char) : unescape (escape text) = .ok text := by
  fun_induction escape text with
  | case1 => rfl
  | case2 rest ih => simp [unescape, ih, Except.map]
  | case3 rest ih => simp [unescape, ih, Except.map]
  | case4 rest ih => simp [unescape, ih, Except.map]
  | case5 rest ih => simp [unescape, ih, Except.map]
  | case6 c rest hBackslash _ _ _ ih =>
    rw [unescape, ih]
    · rfl
    · exact fun _ _ hSame _ => hBackslash hSame
    · exact fun hSame _ => hBackslash hSame

theorem newline_not_mem_escape (text : List Char) : '\n' ∉ escape text := by
  fun_induction escape text with
  | case1 => exact List.not_mem_nil
  | case2 rest ih => simp [ih]
  | case3 rest ih => simp [ih]
  | case4 rest ih => simp [ih]
  | case5 rest ih => simp [ih]
  | case6 c rest _ _ hNewline _ ih => simpa [ih] using Ne.symm hNewline

theorem unquote_quote (text : String) : unquote (quote text).toList = .ok text := by
  simp [unquote, quote, unwrap?, isSuffixOf?_append_singleton, unescape_escape, Except.map]

theorem isValue_quote (text : String) : IsValue (quote text).toList := by
  rw [quote, String.toList_ofList]
  refine ⟨⟨?_, ?_⟩, ?_⟩
  · intro c hHead
    cases hHead
    rfl
  · intro c hLast
    rw [List.getLast?_append_of_ne_nil _ (by simp)] at hLast
    cases hLast
    rfl
  · simp [newline_not_mem_escape]

/-! ## Lines -/

theorem toList_concat (parts : List String) : (concat parts).toList = parts.flatMap String.toList := by
  induction parts with
  | nil => rfl
  | cons part rest ih => simp [ih, String.toList_append]

/-- Characters are slow to compute from a literal, and quick to take from it. -/
theorem toList_concat_cons (chars : List Char) (parts : List String) :
    (concat (String.ofList chars :: parts)).toList = chars ++ (concat parts).toList := by
  rw [concat_cons, String.toList_append, String.toList_ofList]

theorem lines_append_cons {before : List Char} (after : List Char) (h : '\n' ∉ before) :
    lines (before ++ '\n' :: after) = dropReturn before :: lines after := by
  obtain ⟨piece, pieces, hPieces⟩ := List.exists_cons_of_ne_nil (splitOn_ne_nil '\n' after)
  rw [lines, lines, splitOn_append_cons _ h, hPieces, endLines]
  simp

theorem lines_of_not_mem {text : List Char} (h : '\n' ∉ text) : lines text = if text.isEmpty then [] else [text] := by
  rw [lines, splitOn_of_not_mem h, endLines]

/-- A text is taken apart from its first line on. -/
theorem line_induction {P : List Char → Prop} (hLast : ∀ text, '\n' ∉ text → P text)
    (hBreak : ∀ before after, '\n' ∉ before → P after → P (before ++ '\n' :: after)) (text : List Char) : P text := by
  induction hLength : text.length using Nat.strongRecOn generalizing text with
  | ind n ih =>
    by_cases hMem : '\n' ∈ text
    · obtain ⟨before, after, rfl, hBefore⟩ := List.eq_append_cons_of_mem hMem
      refine hBreak before after hBefore (ih after.length ?_ after rfl)
      rw [← hLength, List.length_append, List.length_cons]
      omega
    · exact hLast text hMem

/-- What comes after the text starts on a line of its own. -/
def EndsLine (text : List Char) : Prop := text = [] ∨ text.getLast? = some '\n'

instance (text : List Char) : Decidable (EndsLine text) :=
  inferInstanceAs (Decidable (text = [] ∨ text.getLast? = some '\n'))

theorem EndsLine.append {text text' : List Char} (h : EndsLine text) (h' : EndsLine text') :
    EndsLine (text ++ text') := by
  rcases h' with rfl | hLast
  · rwa [List.append_nil]
  · right
    rw [List.getLast?_append, hLast, Option.some_or]

theorem endsLine_append (text : String) {ending : String} (h : ending.toList.getLast? = some '\n') :
    EndsLine (text ++ ending).toList := by
  right
  rw [String.toList_append, List.getLast?_append, h, Option.some_or]

theorem lines_append {text : List Char} (h : EndsLine text) (after : List Char) :
    lines (text ++ after) = lines text ++ lines after := by
  induction text using line_induction with
  | hLast text hBreak =>
    rcases h with rfl | hLast
    · rfl
    · exact absurd (List.mem_of_getLast? hLast) hBreak
  | hBreak before rest hBefore ih =>
    have hRest : EndsLine rest := by
      cases rest with
      | nil => exact .inl rfl
      | cons c rest =>
        rcases h with hNil | hLast
        · simp at hNil
        · rw [List.getLast?_append, List.getLast?_cons_cons] at hLast
          exact .inr (by simpa using hLast)
    rw [List.append_assoc, List.cons_append, lines_append_cons _ hBefore, lines_append_cons _ hBefore, ih hRest,
      List.cons_append]

theorem lines_concat {parts : List String} (h : ∀ part ∈ parts, EndsLine part.toList) :
    lines (concat parts).toList = parts.flatMap fun part => lines part.toList := by
  induction parts with
  | nil => rfl
  | cons part rest ih =>
    rw [List.forall_mem_cons] at h
    rw [concat_cons, String.toList_append, lines_append h.1, ih h.2, List.flatMap_cons]

theorem lines_flatMap {texts : List (List Char)} (h : ∀ text ∈ texts, '\n' ∉ text ∧ text.getLast? ≠ some '\r') :
    lines (texts.flatMap (· ++ ['\n'])) = texts := by
  induction texts with
  | nil => rfl
  | cons text rest ih =>
    obtain ⟨hLine, hReturn⟩ := h text List.mem_cons_self
    rw [List.flatMap_cons, List.append_assoc, List.singleton_append, lines_append_cons _ hLine, dropReturn,
      if_neg hReturn, ih fun t hMem => h t (List.mem_cons_of_mem text hMem)]

end ShadeGraph.Text
