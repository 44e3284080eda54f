import Mathlib.Algebra.Group.Defs
import ShadeGraph.Proofs.Text

/-!
# Brackets

Of every text one can say how many brackets it closes that it did not open, and how many it leaves open. These two
numbers of texts that follow each other make those of the whole, so the brackets of a text are known from the pieces
that it is put together from.
-/

namespace ShadeGraph

inductive Bracket
  | curly | round | square
  deriving DecidableEq, Repr

namespace Bracket

def opening : Bracket → Char
  | .curly => '\x7b'
  | .round => '('
  | .square => '['

def closing : Bracket → Char
  | .curly => '\x7d'
  | .round => ')'
  | .square => ']'

/-- As many brackets are closed as are opened, and none before it was opened. -/
def Balanced (b : Bracket) (text : List Char) : Prop :=
  text.count b.opening = text.count b.closing ∧
    ∀ before, before <+: text → before.count b.closing ≤ before.count b.opening

end Bracket

/-! ## What is left of the brackets of one kind -/

/-- The brackets of one kind that have no partner within a text. Those that close come first. -/
@[ext] structure Excess where
  closing : Nat
  opening : Nat
  deriving DecidableEq, Repr

namespace Excess

instance : One Excess := ⟨⟨0, 0⟩⟩

/-- What the first leaves open, the second may close. -/
instance : Mul Excess :=
  ⟨fun x y => ⟨x.closing + (y.closing - x.opening), y.opening + (x.opening - y.closing)⟩⟩

theorem closing_one : (1 : Excess).closing = 0 := rfl

theorem opening_one : (1 : Excess).opening = 0 := rfl

theorem closing_mul (x y : Excess) : (x * y).closing = x.closing + (y.closing - x.opening) := rfl

theorem opening_mul (x y : Excess) : (x * y).opening = y.opening + (x.opening - y.closing) := rfl

instance : Monoid Excess where
  one_mul x := by
    ext
    · rw [closing_mul, closing_one, opening_one]
      omega
    · rw [opening_mul, opening_one]
      omega
  mul_one x := by
    ext
    · rw [closing_mul, closing_one]
      omega
    · rw [opening_mul, opening_one, closing_one]
      omega
  mul_assoc x y z := by
    ext
    · simp only [closing_mul, opening_mul]
      omega
    · simp only [closing_mul, opening_mul]
      omega

end Excess

namespace Bracket

def excessOf (b : Bracket) (c : Char) : Excess :=
  if c = b.opening then ⟨0, 1⟩ else if c = b.closing then ⟨1, 0⟩ else 1

def excess (b : Bracket) : List Char → Excess
  | [] => 1
  | c :: rest => b.excessOf c * b.excess rest

theorem opening_ne_closing (b : Bracket) : b.opening ≠ b.closing := by
  cases b <;> decide

theorem excess_add_count (b : Bracket) (text : List Char) :
    (b.excess text).closing + text.count b.opening = (b.excess text).opening + text.count b.closing := by
  have hNe := b.opening_ne_closing
  induction text with
  | nil => rfl
  | cons c rest ih =>
    rw [excess, Excess.closing_mul, Excess.opening_mul, excessOf]
    split
    · rename_i hOpens
      rw [hOpens, List.count_cons_self, List.count_cons_of_ne hNe]
      dsimp only
      omega
    · rename_i hOther
      split
      · rename_i hCloses
        rw [hCloses, List.count_cons_self, List.count_cons_of_ne hNe.symm]
        dsimp only
        omega
      · rename_i hPlain
        rw [List.count_cons_of_ne hOther, List.count_cons_of_ne hPlain, Excess.closing_one, Excess.opening_one]
        omega

theorem forall_prefix_cons {P : List Char → Prop} {c : Char} {rest : List Char} :
    (∀ before, before <+: c :: rest → P before) ↔ P [] ∧ ∀ before, before <+: rest → P (c :: before) := by
  constructor
  · exact fun h => ⟨h [] List.nil_prefix, fun before hBefore => h _ (List.cons_prefix_cons.mpr ⟨rfl, hBefore⟩)⟩
  · rintro ⟨hNil, hCons⟩ before hBefore
    rcases List.prefix_cons_iff.mp hBefore with rfl | ⟨rest', rfl, hRest⟩
    · exact hNil
    · exact hCons rest' hRest

/-- What a text closes without a partner is the most that a part at its start closes more than it opens. -/
theorem closing_excess_le_iff (b : Bracket) (text : List Char) (spare : Nat) :
    (b.excess text).closing ≤ spare ↔
      ∀ before, before <+: text → before.count b.closing ≤ before.count b.opening + spare := by
  have hNe := b.opening_ne_closing
  induction text generalizing spare with
  | nil => simp [excess, Excess.closing_one]
  | cons c rest ih =>
    rw [forall_prefix_cons, excess, Excess.closing_mul, excessOf]
    split
    · rename_i hOpens
      have hRest := ih (spare + 1)
      simp only [hOpens, List.count_cons_self, List.count_cons_of_ne hNe, List.count_nil, Nat.zero_le, true_and]
      simp only [Nat.add_right_comm _ 1 spare, Nat.add_assoc _ spare 1, ← hRest]
      omega
    · rename_i hOther
      split
      · rename_i hCloses
        simp only [hCloses, List.count_cons_self, List.count_cons_of_ne hNe.symm, List.count_nil, Nat.zero_le, true_and]
        -- the bracket itself needs a spare one
        cases spare with
        | zero =>
          refine iff_of_false (by omega) fun h => ?_
          have hEmpty := h [] List.nil_prefix
          simp at hEmpty
        | succ spare =>
          simp only [← Nat.add_assoc, Nat.add_le_add_iff_right, ← ih spare]
          omega
      · rename_i hPlain
        simp only [List.count_cons_of_ne hOther, List.count_cons_of_ne hPlain, List.count_nil, Nat.zero_le, true_and,
          ← ih spare, Excess.closing_one, Excess.opening_one]
        omega

theorem balanced_iff {b : Bracket} {text : List Char} : b.Balanced text ↔ b.excess text = 1 := by
  have hCount := b.excess_add_count text
  have hPrefix := b.closing_excess_le_iff text 0
  simp only [Nat.add_zero] at hPrefix
  rw [Balanced, ← hPrefix, Excess.ext_iff, Excess.closing_one, Excess.opening_one]
  omega

end Bracket

/-! ## Brackets of all kinds -/

/-- What a text leaves of the brackets of each kind. -/
@[ext] structure Nesting where
  curly : Excess
  round : Excess
  square : Excess
  deriving DecidableEq, Repr

namespace Nesting

instance : One Nesting := ⟨⟨1, 1, 1⟩⟩

instance : Mul Nesting := ⟨fun x y => ⟨x.curly * y.curly, x.round * y.round, x.square * y.square⟩⟩

instance : Monoid Nesting where
  one_mul x := Nesting.ext (one_mul x.curly) (one_mul x.round) (one_mul x.square)
  mul_one x := Nesting.ext (mul_one x.curly) (mul_one x.round) (mul_one x.square)
  mul_assoc x y z := Nesting.ext (mul_assoc x.curly y.curly z.curly) (mul_assoc x.round y.round z.round)
    (mul_assoc x.square y.square z.square)

def ofChars (text : List Char) : Nesting :=
  ⟨Bracket.curly.excess text, Bracket.round.excess text, Bracket.square.excess text⟩

theorem ofChars_eq_one_iff {text : List Char} : ofChars text = 1 ↔ ∀ b : Bracket, b.Balanced text := by
  simp only [Bracket.balanced_iff]
  constructor
  · intro h b
    cases b with
    | curly => exact congrArg curly h
    | round => exact congrArg round h
    | square => exact congrArg square h
  · exact fun h => Nesting.ext (h .curly) (h .round) (h .square)

end Nesting

theorem Bracket.excess_append (b : Bracket) (first second : List Char) :
    b.excess (first ++ second) = b.excess first * b.excess second := by
  induction first with
  | nil => exact (one_mul _).symm
  | cons c rest ih => rw [List.cons_append, excess, excess, ih, mul_assoc]

namespace Nesting

theorem ofChars_append (first second : List Char) : ofChars (first ++ second) = ofChars first * ofChars second :=
  Nesting.ext (Bracket.excess_append _ first second) (Bracket.excess_append _ first second)
    (Bracket.excess_append _ first second)

theorem ofChars_cons (c : Char) (rest : List Char) : ofChars (c :: rest) = ofChars [c] * ofChars rest :=
  ofChars_append [c] rest

end Nesting

/-- Characters that are no brackets leave none. -/
theorem Nesting.ofChars_of_forall {text : List Char} (h : ∀ c ∈ text, ofChars [c] = 1) : ofChars text = 1 := by
  induction text with
  | nil => rfl
  | cons c rest ih =>
    rw [ofChars_cons, h c List.mem_cons_self, one_mul]
    exact ih fun c' hMem => h c' (List.mem_cons_of_mem c hMem)

theorem Nesting.ofChars_singleton {c : Char} (h : ∀ b : Bracket, c ≠ b.opening ∧ c ≠ b.closing) : ofChars [c] = 1 := by
  have hExcess (b : Bracket) : b.excess [c] = 1 := by
    rw [Bracket.excess, Bracket.excessOf, if_neg (h b).1, if_neg (h b).2]
    rfl
  exact Nesting.ext (hExcess .curly) (hExcess .round) (hExcess .square)

theorem Nesting.ofChars_of_isPlainChar {c : Char} (h : Text.isPlainChar c = true) : ofChars [c] = 1 := by
  refine ofChars_singleton fun b => ⟨?_, ?_⟩
  · rintro rfl
    revert h
    cases b <;> decide
  · rintro rfl
    revert h
    cases b <;> decide

/-- A bracket of some kind. Codes are compared faster than characters. -/
def isBracket (c : Char) : Bool :=
  c.toNat.beq 40 || c.toNat.beq 41 || c.toNat.beq 91 || c.toNat.beq 93 || c.toNat.beq 123 || c.toNat.beq 125

theorem Bracket.isBracket_opening (b : Bracket) : isBracket b.opening = true := by
  cases b <;> rfl

theorem Bracket.isBracket_closing (b : Bracket) : isBracket b.closing = true := by
  cases b <;> rfl

theorem Nesting.ofChars_filter (text : List Char) : ofChars (text.filter isBracket) = ofChars text := by
  induction text with
  | nil => rfl
  | cons c rest ih =>
    rw [List.filter_cons]
    split
    · rw [ofChars_cons, ih, ← ofChars_cons]
    · rename_i hOther
      have hNone : ofChars [c] = 1 := by
        refine ofChars_singleton fun b => ⟨?_, ?_⟩
        · rintro rfl
          exact hOther b.isBracket_opening
        · rintro rfl
          exact hOther b.isBracket_closing
      rw [ofChars_cons c rest, hNone, one_mul, ih]

namespace Text

/-- The text leaves just these brackets without a partner. One that leaves none is closed. -/
def Nests (text : String) (n : Nesting) : Prop := Nesting.ofChars text.toList = n

theorem nests_one_iff {text : String} : Nests text 1 ↔ ∀ b : Bracket, b.Balanced text.toList :=
  Nesting.ofChars_eq_one_iff

theorem nests_empty : Nests "" 1 := rfl

namespace Nests

variable {text first second : String} {x y n : Nesting}

theorem of_eq (h : Nests text x) (hSame : x = y) : Nests text y := h.trans hSame

theorem ofList (chars : List Char) : Nests (String.ofList chars) (.ofChars chars) := by
  rw [Nests, String.toList_ofList]

/-- A text that is spelled out. -/
theorem lit {chars : List Char} (h : Nesting.ofChars (chars.filter isBracket) = n) : Nests (String.ofList chars) n := by
  rw [Nesting.ofChars_filter] at h
  exact (ofList chars).of_eq h

theorem append (hFirst : Nests first x) (hSecond : Nests second y) : Nests (first ++ second) (x * y) := by
  rw [Nests, String.toList_append, Nesting.ofChars_append, hFirst, hSecond]

/-- A closed text between two pieces that close each other's brackets. -/
theorem enclose (hFirst : Nests first x) (hSecond : Nests second y) (hPair : x * y = 1) (h : Nests text 1) :
    Nests (first ++ text ++ second) 1 := by
  refine ((hFirst.append h).append hSecond).of_eq ?_
  rw [mul_one, hPair]

/-- Brackets that one part opens may be closed by another one. -/
theorem concat_prod {parts : List String} {nestings : List Nesting} (h : List.Forall₂ Nests parts nestings) :
    Nests (Text.concat parts) nestings.prod := by
  induction h with
  | nil => rfl
  | cons hPart _ ih =>
    rw [List.prod_cons]
    exact hPart.append ih

theorem concat {parts : List String} (h : ∀ part ∈ parts, Nests part 1) : Nests (Text.concat parts) 1 := by
  induction parts with
  | nil => rfl
  | cons part rest ih =>
    have hRest := ih fun part' hMem => h part' (List.mem_cons_of_mem part hMem)
    exact ((h part List.mem_cons_self).append hRest).of_eq rfl

theorem joinWith {glue : String} (hGlue : Nests glue 1) :
    ∀ {parts : List String}, (∀ part ∈ parts, Nests part 1) → Nests (Text.joinWith glue parts) 1
  | [], _ => nests_empty
  | [last], h => h last List.mem_cons_self
  | part :: next :: rest, h => by
    have hRest := joinWith hGlue fun part' hMem => h part' (List.mem_cons_of_mem part hMem)
    exact (((h part List.mem_cons_self).append hGlue).append hRest).of_eq rfl

theorem of_plain (h : ∀ c ∈ text.toList, isPlainChar c = true) : Nests text 1 :=
  Nesting.ofChars_of_forall fun c hMem => Nesting.ofChars_of_isPlainChar (h c hMem)

end Nests

/-- Breaks between lines hold no brackets, and neither do the returns that are dropped with them. -/
theorem nests_lines {render : List Char → String} (hRender : ∀ line, Nests (render line) (.ofChars line))
    (text : List Char) : Nests (concat ((lines text).map render)) (.ofChars text) := by
  have hReturn (line : List Char) : Nesting.ofChars (dropReturn line) = .ofChars line := by
    rw [dropReturn]
    split
    · rename_i hLast
      obtain ⟨rest, rfl⟩ := List.getLast?_eq_some_iff.mp hLast
      rw [List.dropLast_concat, Nesting.ofChars_append]
      exact (mul_one _).symm
    · rfl
  induction text using line_induction with
  | hLast text hLast =>
    rw [lines_of_not_mem hLast]
    split
    · rename_i hEmpty
      rw [List.isEmpty_iff.mp hEmpty]
      rfl
    · exact ((hRender text).append nests_empty).of_eq (mul_one _)
  | hBreak before after hBefore ih =>
    rw [lines_append_cons _ hBefore, List.map_cons, concat_cons, Nesting.ofChars_append, Nesting.ofChars_cons]
    refine ((hRender (dropReturn before)).append ih).of_eq ?_
    rw [hReturn]
    exact congrArg _ (one_mul _).symm

end Text

end ShadeGraph
