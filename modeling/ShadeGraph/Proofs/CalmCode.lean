import ShadeGraph.Node.Standard
import ShadeGraph.Proofs.Decimal
import ShadeGraph.Proofs.Emission
import ShadeGraph.Proofs.Words

/-!
# Calm code

Numbers and variables are calm, and so is the text that nodes put around them. The code of constants, operators,
functions, formulas and most of logic is calm if their operands are.
-/

namespace ShadeGraph

open Text

/-! ## Calm pieces -/

theorem isCalm_of_digits {digits : List Char} (h : ∀ c ∈ digits, c.isDigit = true) : isCalm digits = true :=
  isCalm_of_forall fun c hMem => not_isUpper_of_isDigit (h c hMem)

theorem calm_repr (n : Nat) : Calm (Nat.repr n) := ⟨isCalm_of_digits fun _ => isDigit_of_mem_repr⟩

theorem calm_outputVariable (id : NodeId) (port : Nat) : Calm (outputVariable id port) :=
  (((by decide : Calm "n").append (calm_repr id.toNat)).append (by decide)).append (calm_repr port)

theorem EmitContext.calm_ownName (ctx : EmitContext) {base : String} (h : Calm base) : Calm (ctx.ownName base) := by
  have hTag : Calm ctx.stage.tag := by cases ctx.stage <;> decide
  exact (((h.append (by decide)).append hTag).append (by decide)).append (calm_repr _)

theorem PortType.calm_zeroLiteral (type : PortType) : Calm type.zeroLiteral := by cases type <;> decide

theorem calm_operandOr {text fallback : String} (hText : Calm text) (hFallback : Calm fallback) :
    Calm (operandOr text fallback) := by
  rw [operandOr]
  split
  · exact hFallback
  · exact hText

theorem Single.calm_fixed (x : Single) (decimals : Nat) : Calm (x.fixed decimals) := by
  have hMagnitude (count : Nat) :
      isCalm (Nat.toDigits 10 (count / 10 ^ decimals) ++ '.' :: lastDigits decimals count) = true := by
    refine isCalm_append (isCalm_of_digits fun c => Nat.isDigit_of_mem_toDigits (by decide) (by decide)) ?_
    exact isCalm_cons (by decide) (isCalm_of_digits fun c => isDigit_of_mem_lastDigits)
  constructor
  rw [fixed, signed, String.toList_ofList]
  split
  · exact isCalm_cons (by decide) (hMagnitude _)
  · exact hMagnitude _

theorem Single.calm_literal {x : Single} {text : String} (h : x.literal = .ok text) : Calm text := by
  rw [literal] at h
  split at h
  · cases h
    exact x.calm_fixed 6
  · cases h

theorem Vec3.calm_components {v : Vec3} {text : String} (h : v.components = .ok text) : Calm text := by
  simp only [components, Except.bind_eq_ok_iff, Except.pure_eq_ok_iff] at h
  obtain ⟨x, hx, y, hy, z, hz, rfl⟩ := h
  exact ((((Single.calm_literal hx).append (by decide)).append (Single.calm_literal hy)).append (by decide)).append
    (Single.calm_literal hz)

theorem Vec3.calm_literal {v : Vec3} {text : String} (h : v.literal = .ok text) : Calm text := by
  simp only [literal, Except.bind_eq_ok_iff, Except.pure_eq_ok_iff] at h
  obtain ⟨components, hComponents, rfl⟩ := h
  exact ((by decide : Calm "vec3(").append (calm_components hComponents)).append (by decide)

theorem Transform.calm_literal {t : Transform} {text : String} (h : t.literal = .ok text) : Calm text := by
  simp only [literal, Except.bind_eq_ok_iff, Except.pure_eq_ok_iff] at h
  obtain ⟨column0, h0, column1, h1, column2, h2, origin, hOrigin, rfl⟩ := h
  refine Calm.append (Calm.append (Calm.append (Calm.append (Calm.append (Calm.append (Calm.append (Calm.append
    (by decide) (Vec3.calm_components h0)) (by decide)) (Vec3.calm_components h1)) (by decide))
    (Vec3.calm_components h2)) (by decide)) (Vec3.calm_components hOrigin)) (by decide)

theorem calm_booleanLiteral (value : Bool) : Calm (booleanLiteral value) := by cases value <;> decide

theorem PortValue.calm_literal {v : PortValue} {text : String} (h : v.literal = .ok text) : Calm text := by
  cases v with
  | scalar x => exact Single.calm_literal h
  | vector3 v => exact Vec3.calm_literal h
  | boolean value =>
    cases h
    exact calm_booleanLiteral value
  | transform t => exact Transform.calm_literal h

theorem Formula.fill_cons_of_ne {operands : List String} {c : Char} {rest : List Char} (h : c ≠ '$') :
    fill operands (c :: rest) = c :: fill operands rest := by
  rw [fill]
  rintro _ _ rfl
  cases h rfl

theorem isCalm_fill {operands : List String} (hOperands : ∀ text ∈ operands, Calm text) {template : List Char}
    (hTemplate : isCalm template = true) : isCalm (Formula.fill operands template) = true := by
  induction template using Formula.fill.induct with
  | case1 => rfl
  | case2 digit rest hDigit ih =>
    rw [Formula.fill, if_pos hDigit]
    refine isCalm_append ?_ (ih (isCalm_of_append ['$', digit] hTemplate))
    cases hOperand : operands[digit.toNat - '0'.toNat]? with
    | none => rfl
    | some text => exact (hOperands text (List.mem_of_getElem? hOperand)).chars
  | case3 digit rest hDigit ih =>
    rw [Formula.fill, if_neg hDigit]
    exact isCalm_cons (by decide) (ih (isCalm_of_append ['$'] hTemplate))
  | case4 c rest hOther ih =>
    rw [Formula.fill, isCalm, ih (isCalm_of_append [c] hTemplate), Bool.and_true]
    rw [isCalm, Bool.and_eq_true] at hTemplate
    -- what ends a capital is no sign of an operand, so it is kept
    cases rest with
    | nil => exact hTemplate.1
    | cons d rest =>
      have hEnds : c.isUpper = false ∨ endsCapital d = true := by simpa using hTemplate.1
      rcases hEnds with hSmall | hEnds
      · simp [hSmall]
      · have hNe : d ≠ '$' := by
          rintro rfl
          cases hEnds
        rw [Formula.fill_cons_of_ne hNe]
        simp [hEnds]
    exact hOther

theorem Formula.calm_substitute {template : String} (hTemplate : Calm template) {operands : List String}
    (hOperands : ∀ text ∈ operands, Calm text) : Calm (substitute template operands) := by
  constructor
  rw [substitute, String.toList_ofList]
  exact isCalm_fill hOperands hTemplate.chars

/-! ## Calm code -/

namespace Statement

/-- Code in which no built-in stands. -/
def IsCalm (code : List Statement) : Prop := ∀ s ∈ code, Calm s.render

theorem calm_indent (depth : Nat) : Calm (indent depth) := by
  refine ⟨isCalm_of_forall fun c hMem => ?_⟩
  rw [indent, String.toList_ofList] at hMem
  cases List.eq_of_mem_replicate hMem
  rfl

theorem calm_assign {depth : Nat} {target value : String} (hTarget : Calm target) (hValue : Calm value) :
    Calm (assign depth target value).render :=
  ((((calm_indent depth).append hTarget).append (by decide)).append hValue).append (by decide)

/-- A name may end in a capital: a blank follows it. -/
theorem calm_define {depth : Nat} {type name value : String} (hType : Calm type) (hName : Calm (name ++ " = "))
    (hValue : Calm value) : Calm (define depth type name value).render := by
  have hRender : (define depth type name value).render =
      indent depth ++ type ++ " " ++ (name ++ " = ") ++ value ++ ";\n" := by simp only [render, String.append_assoc]
  rw [hRender]
  exact (((((calm_indent depth).append hType).append (by decide)).append hName).append hValue).append (by decide)

theorem calm_line {depth : Nat} {text : String} (h : Calm text) : Calm (line depth text).render :=
  ((calm_indent depth).append h).append (by decide)

theorem IsCalm.single {s : Statement} (h : Calm s.render) : IsCalm [s] := by
  rintro _ (_ | ⟨_, ⟨⟩⟩)
  exact h

theorem IsCalm.scope {body : List Statement} (h : IsCalm body) : IsCalm (scope body) := by
  intro s hMem
  simp only [Statement.scope, List.cons_append, List.mem_cons, List.mem_append, List.not_mem_nil, or_false] at hMem
  rcases hMem with rfl | hMem | rfl
  · decide
  · exact h s hMem
  · decide

theorem IsCalm.renderAll {code : List Statement} (h : IsCalm code) : Calm (renderAll code) := by
  refine calm_concat ?_
  rintro _ hMem
  obtain ⟨s, hs, rfl⟩ := List.mem_map.mp hMem
  exact h s hs

end Statement

open Statement (IsCalm calm_assign calm_define calm_line)

theorem Calm.operand {texts : List String} (h : ∀ text ∈ texts, Calm text) {port : Nat} {text : String}
    (hOperand : operand texts port = .ok text) : Calm text := by
  rw [ShadeGraph.operand] at hOperand
  split at hOperand
  · rename_i hGet
    cases hOperand
    exact h text (List.mem_of_getElem? hGet)
  · cases hOperand

section

variable {operands results : List String} {code : List Statement}

theorem isCalm_assign_literal {out : String} (hOut : Calm out) {literal : Except LiteralError String}
    (hLiteral : ∀ text, literal = .ok text → Calm text)
    (h : (literalOf literal >>= fun text => pure [Statement.assign 0 out text]) = .ok code) : IsCalm code := by
  simp only [Except.bind_eq_ok_iff, Except.pure_eq_ok_iff, literalOf, Except.mapError_eq_ok_iff] at h
  obtain ⟨text, hText, rfl⟩ := h
  exact .single (calm_assign hOut (hLiteral text hText))

theorem Constant.isCalm_body {c : Constant} (hResults : ∀ text ∈ results, Calm text) (h : c.body results = .ok code) :
    IsCalm code := by
  simp only [body, Except.bind_eq_ok_iff] at h
  obtain ⟨out, hOut, h⟩ := h
  replace hOut := Calm.operand hResults hOut
  cases c with
  | scalar value => exact isCalm_assign_literal hOut (fun _ => Single.calm_literal) h
  | boolean value =>
    cases h
    exact .single (calm_assign hOut (calm_booleanLiteral value))
  | color value =>
    simp only [Except.bind_eq_ok_iff, Except.pure_eq_ok_iff, literalOf, Except.mapError_eq_ok_iff, Color.literals] at h
    obtain ⟨_, ⟨rgb, hRgb, alpha, hAlpha, rfl⟩, out', hOut', rfl⟩ := h
    simp only [IsCalm, List.forall_mem_cons]
    exact ⟨calm_assign hOut (Vec3.calm_literal hRgb),
      calm_assign (Calm.operand hResults hOut') (Single.calm_literal hAlpha), by simp⟩
  | vector value => exact isCalm_assign_literal hOut (fun _ => Vec3.calm_literal) h
  | transform value => exact isCalm_assign_literal hOut (fun _ => Transform.calm_literal) h

namespace Operator

variable {out a b : String}

theorem calm_between {symbol : String} (hSymbol : Calm symbol) (ha : Calm a) (hb : Calm b) :
    Calm (between symbol a b) :=
  (((ha.append (by decide)).append hSymbol).append (by decide)).append hb

theorem calm_call {function : String} (hFunction : Calm function) (ha : Calm a) (hb : Calm b) :
    Calm (call function a b) :=
  ((((hFunction.append (by decide)).append ha).append (by decide)).append hb).append (by decide)

theorem calm_scalarExpression (op : ScalarOperator) (ha : Calm a) (hb : Calm b) : Calm (scalarExpression op a b) := by
  cases op with
  | add | sub | mul | div => exact calm_between (by decide) ha hb
  | _ => exact calm_call (by decide) ha hb

theorem calm_vectorExpression (op : VectorOperator) (ha : Calm a) (hb : Calm b) : Calm (vectorExpression op a b) := by
  cases op with
  | add | sub | mul | div => exact calm_between (by decide) ha hb
  | _ => exact calm_call (by decide) ha hb

theorem calm_transformExpression (op : TransformProduct) (ha : Calm a) (hb : Calm b) :
    Calm (transformExpression op a b) := by
  cases op with
  | ab => exact calm_between (by decide) ha hb
  | ba => exact calm_between (by decide) hb ha
  | abComponents => exact calm_call (by decide) ha hb
  | baComponents => exact calm_call (by decide) hb ha

theorem calm_transformVectorExpression (op : VectorProduct) (ha : Calm a) (hb : Calm b) :
    Calm (transformVectorExpression op a b) := by
  cases op <;>
    refine Calm.append (Calm.append (Calm.append (Calm.append ?_ ?_) ?_) ?_) ?_ <;> first | assumption | decide

theorem isCalm_channel {low high axis : String} (hOut : Calm out) (ha : Calm a) (hb : Calm b) (hLow : Calm low)
    (hHigh : Calm high) (hAxis : Calm axis) : IsCalm (channel out a b low high axis) := by
  have hTarget : Calm (out ++ "." ++ axis) := (hOut.append (by decide)).append hAxis
  refine IsCalm.scope ?_
  simp only [IsCalm, List.forall_mem_cons]
  refine ⟨calm_define (by decide) (by decide) ((ha.append (by decide)).append hAxis),
    calm_define (by decide) (by decide) ((hb.append (by decide)).append hAxis), calm_line (.ofChars rfl),
    calm_assign hTarget hLow, calm_line (.ofChars rfl), calm_assign hTarget hHigh, calm_line (.ofChars rfl),
    by simp⟩

theorem isCalm_channels {low high : String} (hOut : Calm out) (ha : Calm a) (hb : Calm b) (hLow : Calm low)
    (hHigh : Calm high) : IsCalm (channels out a b low high) := by
  intro s hMem
  obtain ⟨axis, hAxis, hs⟩ := List.mem_flatMap.mp hMem
  have hAxes : ∀ axis ∈ ["x", "y", "z"], Calm axis := by decide
  exact isCalm_channel hOut ha hb hLow hHigh (hAxes axis hAxis) s hs

theorem isCalm_blend (op : ColorOperator) (hOut : Calm out) (ha : Calm a) (hb : Calm b) :
    IsCalm (blend op out a b) := by
  cases op with
  | screen | difference | dodge | burn =>
    refine .single (calm_assign hOut ?_)
    refine Calm.append (Calm.append (Calm.append (Calm.append ?_ ?_) ?_) ?_) ?_ <;> first | assumption | decide
  | darken | lighten => exact .single (calm_assign hOut (calm_call (by decide) ha hb))
  | overlay | softLight | hardLight => exact isCalm_channels hOut ha hb (.ofChars rfl) (.ofChars rfl)

theorem isCalm_body {o : Operator} (hOperands : ∀ text ∈ operands, Calm text) (hResults : ∀ text ∈ results, Calm text)
    (h : o.body operands results = .ok code) : IsCalm code := by
  simp only [body, Except.bind_eq_ok_iff] at h
  obtain ⟨out, hOut, a, ha, b, hb, h⟩ := h
  replace hOut := Calm.operand hResults hOut
  replace ha := Calm.operand hOperands ha
  replace hb := Calm.operand hOperands hb
  cases o with
  | scalar op =>
    cases h
    exact .single (calm_assign hOut (calm_scalarExpression op ha hb))
  | vector op =>
    cases h
    exact .single (calm_assign hOut (calm_vectorExpression op ha hb))
  | color op =>
    cases h
    exact isCalm_blend op hOut ha hb
  | transform op =>
    cases h
    exact .single (calm_assign hOut (calm_transformExpression op ha hb))
  | transformVector op =>
    cases h
    exact .single (calm_assign hOut (calm_transformVectorExpression op ha hb))

end Operator

theorem Formula.isCalm_assign_substitute {out template a : String} (hOut : Calm out) (hTemplate : Calm template)
    (ha : Calm a) : IsCalm [.assign 0 out (substitute template [a])] :=
  .single (calm_assign hOut (calm_substitute hTemplate (by simpa using ha)))

namespace FunctionNode

variable {out a : String}

theorem calm_apply {function : String} (hFunction : Calm function) (ha : Calm a) : Calm (apply function a) :=
  ((hFunction.append (by decide)).append ha).append (by decide)

theorem isCalm_vectorBody (f : VectorFunction) (hOut : Calm out) (ha : Calm a) : IsCalm (vectorBody f out a) := by
  have hDefine : Calm (Statement.define 1 "vec3" "c" a).render := calm_define (by decide) (by decide) ha
  rw [vectorBody]
  split
  · rename_i template hTemplate
    refine Formula.isCalm_assign_substitute hOut ?_ ha
    cases f <;> cases hTemplate <;> exact .ofChars rfl
  · split
    · refine IsCalm.scope ?_
      simp only [IsCalm, List.forall_mem_cons]
      exact ⟨hDefine, calm_define (by decide) (by decide) (.ofChars rfl),
        calm_define (by decide) (by decide) (.ofChars rfl), calm_define (by decide) (by decide) (.ofChars rfl),
        calm_define (by decide) (by decide) (.ofChars rfl), calm_define (by decide) (by decide) (.ofChars rfl),
        calm_assign hOut (.ofChars rfl), by simp⟩
    · refine IsCalm.scope ?_
      simp only [IsCalm, List.forall_mem_cons]
      exact ⟨hDefine, calm_define (by decide) (by decide) (.ofChars rfl),
        calm_define (by decide) (by decide) (.ofChars rfl), calm_assign hOut (.ofChars rfl), by simp⟩

theorem isCalm_statements (n : FunctionNode) (hOut : Calm out) (ha : Calm a) : IsCalm (n.statements out a) := by
  have hDefine : Calm (Statement.define 1 "vec3" "c" a).render := calm_define (by decide) (by decide) ha
  cases n with
  | scalar f =>
    refine Formula.isCalm_assign_substitute hOut ?_ ha
    cases f <;> exact .ofChars rfl
  | vector f => exact isCalm_vectorBody f hOut ha
  | color f =>
    cases f with
    | grayscale =>
      refine IsCalm.scope ?_
      simp only [IsCalm, List.forall_mem_cons]
      exact ⟨hDefine, calm_define (by decide) (by decide) (.ofChars rfl),
        calm_define (by decide) (by decide) (.ofChars rfl), calm_assign hOut (.ofChars rfl), by simp⟩
    | sepia =>
      refine IsCalm.scope ?_
      simp only [IsCalm, List.forall_mem_cons]
      exact ⟨hDefine, calm_define (by decide) (by decide) (.ofChars rfl),
        calm_define (by decide) (by decide) (.ofChars rfl), calm_define (by decide) (by decide) (.ofChars rfl),
        calm_assign hOut (.ofChars rfl), by simp⟩
  | transform f => cases f <;> exact .single (calm_assign hOut (calm_apply (by decide) ha))
  | scalarDerivative f | vectorDerivative f =>
    cases f <;> exact .single (calm_assign hOut (calm_apply (by decide) ha))

theorem isCalm_body {n : FunctionNode} (hOperands : ∀ text ∈ operands, Calm text)
    (hResults : ∀ text ∈ results, Calm text) (h : n.body operands results = .ok code) : IsCalm code := by
  simp only [body, Except.bind_eq_ok_iff, Except.pure_eq_ok_iff] at h
  obtain ⟨out, hOut, a, ha, rfl⟩ := h
  exact isCalm_statements n (Calm.operand hResults hOut) (Calm.operand hOperands ha)

end FunctionNode

theorem StandardFormula.isCalm_body (f : StandardFormula) (hOperands : ∀ text ∈ operands, Calm text)
    (hResults : ∀ text ∈ results, Calm text) : IsCalm (f.formula.body operands results) := by
  have hTemplates : ∀ output ∈ f.formula.outputs, Calm output.template := by
    cases f <;> simp only [formula, function, interpolation, List.forall_mem_cons, List.not_mem_nil, false_imp_iff,
      implies_true, and_true] <;> and_intros <;> exact .ofChars rfl
  rintro _ hMem
  obtain ⟨⟨output, result⟩, hPair, rfl⟩ := List.mem_map.mp hMem
  obtain ⟨hOutput, hResult⟩ := List.of_mem_zip hPair
  exact calm_assign (hResults result hResult) (Formula.calm_substitute (hTemplates output hOutput) hOperands)

theorem Comparison.isCalm_body {c : Comparison} (hOperands : ∀ text ∈ operands, Calm text)
    (hResults : ∀ text ∈ results, Calm text) (h : c.body operands results = .ok code) : IsCalm code := by
  simp only [body, Except.bind_eq_ok_iff] at h
  obtain ⟨out, hOut, h⟩ := h
  replace hOut := Calm.operand hResults hOut
  split at h
  · cases h
    exact .single (calm_assign hOut (by decide))
  · simp only [Except.bind_eq_ok_iff] at h
    obtain ⟨a, ha, b, hb, h⟩ := h
    replace ha := Calm.operand hOperands ha
    replace hb := Calm.operand hOperands hb
    split at h
    · cases h
      refine IsCalm.scope ?_
      have hFunction : Calm c.relation.vectorFunction := by cases c.relation <;> exact .ofChars rfl
      have hQuantifier : Calm c.quantifier.function := by cases c.quantifier <;> exact .ofChars rfl
      simp only [IsCalm, List.forall_mem_cons]
      exact ⟨calm_define (by decide) (by decide) (Operator.calm_call hFunction ha hb),
        calm_assign hOut (hQuantifier.append (by decide)), by simp⟩
    · split at h
      · simp only [Except.bind_eq_ok_iff, Except.pure_eq_ok_iff] at h
        obtain ⟨near, hNear, rfl⟩ := h
        replace hNear := Calm.operand hOperands hNear
        have hNearness : Calm (nearness a b near) :=
          ((((((by decide : Calm "(abs(").append ha).append (by decide)).append hb).append (by decide)).append
            hNear).append (by decide)
        refine .single (calm_assign hOut ?_)
        split
        · exact hNearness
        · exact (by decide : Calm "!").append hNearness
      · cases h
        have hSymbol : Calm c.relation.symbol := by cases c.relation <;> exact .ofChars rfl
        exact .single (calm_assign hOut (Operator.calm_between hSymbol ha hb))

namespace LogicNode

variable {out a b c d e f : String}

theorem isCalm_orderBody (hOut : Calm out) (ha : Calm a) (hb : Calm b) (hc : Calm c) (hd : Calm d) (he : Calm e)
    (hf : Calm f) : IsCalm (orderBody out a b c d e f) := by
  have hNear : Calm ("if (abs(" ++ a ++ " - " ++ b ++ ") < " ++ c ++ ") \x7b") :=
    ((((((by decide : Calm "if (abs(").append ha).append (by decide)).append hb).append (by decide)).append
      hc).append (by decide)
  have hBelow : Calm ("\x7d else if (" ++ a ++ " < " ++ b ++ ") \x7b") :=
    ((((by decide : Calm "\x7d else if (").append ha).append (by decide)).append hb).append (by decide)
  simp only [IsCalm, orderBody, List.forall_mem_cons]
  exact ⟨calm_line hNear, calm_assign hOut hd, calm_line hBelow, calm_assign hOut hf, calm_line (.ofChars rfl),
    calm_assign hOut he, calm_line (.ofChars rfl), by simp⟩

theorem isCalm_switchBody (hOut : Calm out) (ha : Calm a) (hb : Calm b) (hc : Calm c) :
    IsCalm (switchBody out a b c) := by
  have hTest : Calm ("if (" ++ a ++ ") \x7b") := ((by decide : Calm "if (").append ha).append (by decide)
  simp only [IsCalm, switchBody, List.forall_mem_cons]
  exact ⟨calm_line hTest, calm_assign hOut hb, calm_line (.ofChars rfl), calm_assign hOut hc,
    calm_line (.ofChars rfl), by simp⟩

theorem isCalm_body {n : LogicNode} (hFresnel : n ≠ .fresnel) (hOperands : ∀ text ∈ operands, Calm text)
    (hResults : ∀ text ∈ results, Calm text) (h : n.body operands results = .ok code) : IsCalm code := by
  cases n with
  | order =>
    simp only [body, Except.bind_eq_ok_iff, Except.pure_eq_ok_iff] at h
    obtain ⟨out, hOut, a, ha, b, hb, c, hc, d, hd, e, he, f, hf, rfl⟩ := h
    exact isCalm_orderBody (Calm.operand hResults hOut) (Calm.operand hOperands ha) (Calm.operand hOperands hb)
      (Calm.operand hOperands hc) (Calm.operand hOperands hd) (Calm.operand hOperands he) (Calm.operand hOperands hf)
  | vectorSwitch | scalarSwitch =>
    simp only [body, Except.bind_eq_ok_iff, Except.pure_eq_ok_iff] at h
    obtain ⟨out, hOut, a, ha, b, hb, c, hc, rfl⟩ := h
    exact isCalm_switchBody (Calm.operand hResults hOut) (Calm.operand hOperands ha) (Calm.operand hOperands hb)
      (Calm.operand hOperands hc)
  | floatTest tested =>
    simp only [body, Except.bind_eq_ok_iff, Except.pure_eq_ok_iff] at h
    obtain ⟨out, hOut, a, ha, rfl⟩ := h
    have hFunction : Calm (floatTestFunction tested) := by cases tested <;> exact .ofChars rfl
    exact .single (calm_assign (Calm.operand hResults hOut)
      (FunctionNode.calm_apply hFunction (Calm.operand hOperands ha)))
  | compare c => exact Comparison.isCalm_body hOperands hResults h
  | fresnel => cases hFresnel rfl

end LogicNode

end

end ShadeGraph
