import ShadeGraph.Proofs.Brackets
import ShadeGraph.Proofs.PreviewText

/-!
# The brackets in the code of nodes

Names, numbers and operands are closed: they leave no bracket without a partner. A node opens brackets around its
operands and scopes around its statements, and closes all of them.
-/

namespace ShadeGraph

open Text
open Statement (renderAll)

/-! ## Closed pieces -/

theorem nests_of_isName {name : String} (h : UniformName.IsName name) : Nests name 1 := by
  obtain ⟨first, rest, hName, hFirst, hRest⟩ := h
  refine .of_plain fun c hMem => ?_
  rw [hName] at hMem
  rcases List.mem_cons.mp hMem with rfl | hMem
  · simp [isPlainChar, UniformName.isAlphanum_of_isAlpha hFirst]
  · rw [isPlainChar, hRest c hMem]
    rfl

theorem nests_repr (n : Nat) : Nests (Nat.repr n) 1 := .of_plain (isPlain_repr n).isPlainChar

theorem nests_outputVariable (id : NodeId) (port : Nat) : Nests (outputVariable id port) 1 :=
  ((((Nests.lit rfl).append (nests_repr id.toNat)).append (.lit rfl)).append (nests_repr port)).of_eq rfl

theorem EmitContext.nests_ownName (ctx : EmitContext) {base : String} (h : Nests base 1) :
    Nests (ctx.ownName base) 1 := by
  have hTag : Nests ctx.stage.tag 1 := by cases ctx.stage <;> exact .lit rfl
  exact ((((h.append (.lit rfl)).append hTag).append (.lit rfl)).append (nests_repr _)).of_eq rfl

theorem PortType.nests_keyword (type : PortType) : Nests type.keyword 1 := by
  cases type <;> exact .lit rfl

theorem PortType.nests_zeroLiteral (type : PortType) : Nests type.zeroLiteral 1 := by
  cases type <;> exact .lit rfl

theorem nests_operandOr {text fallback : String} (hText : Nests text 1) (hFallback : Nests fallback 1) :
    Nests (operandOr text fallback) 1 := by
  rw [operandOr]
  split
  · exact hFallback
  · exact hText

theorem ofChars_of_digits {digits : List Char} (h : ∀ c ∈ digits, c.isDigit = true) : Nesting.ofChars digits = 1 :=
  Nesting.ofChars_of_forall fun c hMem => Nesting.ofChars_of_isPlainChar (isPlainChar_of_isDigit (h c hMem))

theorem Single.nests_fixed (x : Single) (decimals : Nat) : Nests (x.fixed decimals) 1 := by
  have hMagnitude (count : Nat) :
      Nesting.ofChars (Nat.toDigits 10 (count / 10 ^ decimals) ++ '.' :: lastDigits decimals count) = 1 := by
    rw [Nesting.ofChars_append, Nesting.ofChars_cons, ofChars_of_digits fun c => isDigit_of_mem_lastDigits,
      ofChars_of_digits fun c => Nat.isDigit_of_mem_toDigits (by decide) (by decide)]
    rfl
  rw [Nests, fixed, signed, String.toList_ofList]
  split
  · rw [Nesting.ofChars_cons, hMagnitude]
    rfl
  · exact hMagnitude _

theorem Single.nests_literal {x : Single} {text : String} (h : x.literal = .ok text) : Nests text 1 := by
  rw [literal] at h
  split at h
  · cases h
    exact x.nests_fixed 6
  · cases h

theorem Vec3.nests_components {v : Vec3} {text : String} (h : v.components = .ok text) : Nests text 1 := by
  simp only [components, Except.bind_eq_ok_iff, Except.pure_eq_ok_iff] at h
  obtain ⟨x, hx, y, hy, z, hz, rfl⟩ := h
  exact (((((Single.nests_literal hx).append (.lit rfl)).append (Single.nests_literal hy)).append
    (.lit rfl)).append (Single.nests_literal hz)).of_eq rfl

theorem Vec3.nests_literal {v : Vec3} {text : String} (h : v.literal = .ok text) : Nests text 1 := by
  simp only [literal, Except.bind_eq_ok_iff, Except.pure_eq_ok_iff] at h
  obtain ⟨components, hComponents, rfl⟩ := h
  exact .enclose (.lit rfl) (.lit rfl) rfl (nests_components hComponents)

theorem Transform.nests_literal {t : Transform} {text : String} (h : t.literal = .ok text) : Nests text 1 := by
  simp only [literal, Except.bind_eq_ok_iff, Except.pure_eq_ok_iff] at h
  obtain ⟨column0, h0, column1, h1, column2, h2, origin, hOrigin, rfl⟩ := h
  exact (((((((((Nests.lit rfl).append (Vec3.nests_components h0)).append (.lit rfl)).append
    (Vec3.nests_components h1)).append (.lit rfl)).append (Vec3.nests_components h2)).append (.lit rfl)).append
    (Vec3.nests_components hOrigin)).append (.lit rfl)).of_eq rfl

theorem nests_booleanLiteral (value : Bool) : Nests (booleanLiteral value) 1 := by
  cases value <;> exact .lit rfl

theorem PortValue.nests_literal {v : PortValue} {text : String} (h : v.literal = .ok text) : Nests text 1 := by
  cases v with
  | scalar x => exact Single.nests_literal h
  | vector3 v => exact Vec3.nests_literal h
  | boolean value =>
    cases h
    exact nests_booleanLiteral value
  | transform t => exact Transform.nests_literal h

/-- Closed operands leave the brackets of a template as they are. -/
theorem Formula.ofChars_fill {operands : List String} (hOperands : ∀ text ∈ operands, Nests text 1)
    (template : List Char) : Nesting.ofChars (fill operands template) = Nesting.ofChars template := by
  induction template using Formula.fill.induct with
  | case1 => rfl
  | case2 digit rest hDigit ih =>
    have hOperand : Nesting.ofChars (operands[digit.toNat - '0'.toNat]?.getD "").toList = 1 := by
      cases hGet : operands[digit.toNat - '0'.toNat]? with
      | none => rfl
      | some text => exact hOperands text (List.mem_of_getElem? hGet)
    have hSign : Nesting.ofChars ['$', digit] = 1 := by
      rw [Nesting.ofChars_cons, Nesting.ofChars_of_isPlainChar (isPlainChar_of_isDigit hDigit)]
      rfl
    rw [fill, if_pos hDigit, Nesting.ofChars_append, hOperand, ih, ← hSign, ← Nesting.ofChars_append]
    rfl
  | case3 digit rest hDigit ih => rw [fill, if_neg hDigit, Nesting.ofChars_cons, ih, ← Nesting.ofChars_cons]
  | case4 c rest hOther ih =>
    rw [fill, Nesting.ofChars_cons, ih, ← Nesting.ofChars_cons]
    exact hOther

theorem Formula.nests_substitute {template : String} (hTemplate : Nests template 1) {operands : List String}
    (hOperands : ∀ text ∈ operands, Nests text 1) : Nests (substitute template operands) 1 := by
  rw [Nests, substitute, String.toList_ofList, ofChars_fill hOperands]
  exact hTemplate

/-! ## Statements -/

namespace Statement

variable {depth : Nat} {target type name value text : String} {body rest : List Statement} {s : Statement}
  {x y : Nesting}

theorem nests_indent (depth : Nat) : Nests (indent depth) 1 := by
  rw [Nests, indent, String.toList_ofList]
  refine Nesting.ofChars_of_forall fun c hMem => ?_
  rw [List.eq_of_mem_replicate hMem]
  rfl

theorem nests_assign_mul (hTarget : Nests target x) (hValue : Nests value y) :
    Nests (assign depth target value).render (x * y) := by
  have hEquals : Nests " = " 1 := .lit rfl
  have hEnd : Nests ";\n" 1 := .lit rfl
  refine (((((nests_indent depth).append hTarget).append hEquals).append hValue).append hEnd).of_eq ?_
  rw [one_mul, mul_one, mul_one]

theorem nests_assign (hTarget : Nests target 1) (hValue : Nests value 1) :
    Nests (assign depth target value).render 1 :=
  (nests_assign_mul hTarget hValue).of_eq rfl

theorem nests_define (hType : Nests type 1) (hName : Nests name 1) (hValue : Nests value 1) :
    Nests (define depth type name value).render 1 :=
  (((((((nests_indent depth).append hType).append (.lit rfl)).append hName).append (.lit rfl)).append
    hValue).append (.lit rfl)).of_eq rfl

/-- A line may open a scope that another one closes. -/
theorem nests_line (h : Nests text x) : Nests (line depth text).render x := by
  have hBreak : Nests "\n" 1 := .lit rfl
  refine (((nests_indent depth).append h).append hBreak).of_eq ?_
  rw [one_mul, mul_one]

theorem nests_nil : Nests (renderAll []) 1 := rfl

theorem nests_cons (hFirst : Nests s.render x) (hRest : Nests (renderAll rest) y) :
    Nests (renderAll (s :: rest)) (x * y) :=
  hFirst.append hRest

theorem nests_of_forall (h : ∀ s ∈ body, Nests s.render 1) : Nests (renderAll body) 1 := by
  refine .concat fun part hMem => ?_
  obtain ⟨s, hs, rfl⟩ := List.mem_map.mp hMem
  exact h s hs

theorem nests_append (hFirst : Nests (renderAll body) x) (hSecond : Nests (renderAll rest) y) :
    Nests (renderAll (body ++ rest)) (x * y) := by
  rw [renderAll, List.map_append, concat_append]
  exact hFirst.append hSecond

theorem nests_scope (h : Nests (renderAll body) 1) : Nests (renderAll (scope body)) 1 :=
  (nests_append (nests_cons (nests_line (.lit rfl)) h) (nests_cons (nests_line (.lit rfl)) nests_nil)).of_eq rfl

theorem nests_assign_single (hTarget : Nests target 1) (hValue : Nests value 1) :
    Nests (renderAll [.assign 0 target value]) 1 :=
  (nests_cons (nests_assign hTarget hValue) nests_nil).of_eq rfl

end Statement

open Statement (nests_assign nests_define nests_line nests_nil nests_cons nests_append nests_of_forall nests_scope
  nests_assign_single)

theorem nests_operand {texts : List String} (h : ∀ text ∈ texts, Nests text 1) {port : Nat} {text : String}
    (hOperand : operand texts port = .ok text) : Nests text 1 :=
  h text (List.mem_of_getElem? (operand_eq_ok_iff.mp hOperand))

/-! ## Nodes -/

section

variable {operands results : List String} {code : List Statement} {out a b : String}

theorem Constant.nests_body {c : Constant} (hResults : ∀ text ∈ results, Nests text 1)
    (h : c.body results = .ok code) : Nests (renderAll code) 1 := by
  simp only [body, Except.bind_eq_ok_iff] at h
  obtain ⟨out, hOut, h⟩ := h
  replace hOut := nests_operand hResults hOut
  have hLiteral {literal : Except LiteralError String} (hClosed : ∀ text, literal = .ok text → Nests text 1)
      (h : (literalOf literal >>= fun text => pure [Statement.assign 0 out text]) = .ok code) :
      Nests (renderAll code) 1 := by
    simp only [Except.bind_eq_ok_iff, Except.pure_eq_ok_iff, literalOf, Except.mapError_eq_ok_iff] at h
    obtain ⟨text, hText, rfl⟩ := h
    exact nests_assign_single hOut (hClosed text hText)
  cases c with
  | scalar value => exact hLiteral (fun _ => Single.nests_literal) h
  | boolean value =>
    cases h
    exact nests_assign_single hOut (nests_booleanLiteral value)
  | color value =>
    simp only [Except.bind_eq_ok_iff, Except.pure_eq_ok_iff, literalOf, Except.mapError_eq_ok_iff, Color.literals] at h
    obtain ⟨_, ⟨rgb, hRgb, alpha, hAlpha, rfl⟩, out', hOut', rfl⟩ := h
    have hLast := nests_assign_single (nests_operand hResults hOut') (Single.nests_literal hAlpha)
    exact (nests_cons (nests_assign hOut (Vec3.nests_literal hRgb)) hLast).of_eq rfl
  | vector value => exact hLiteral (fun _ => Vec3.nests_literal) h
  | transform value => exact hLiteral (fun _ => Transform.nests_literal) h

namespace Operator

theorem nests_between {symbol : String} (hSymbol : Nests symbol 1) (ha : Nests a 1) (hb : Nests b 1) :
    Nests (between symbol a b) 1 :=
  ((((ha.append (.lit rfl)).append hSymbol).append (.lit rfl)).append hb).of_eq rfl

theorem nests_call {function : String} (hFunction : Nests function 1) (ha : Nests a 1) (hb : Nests b 1) :
    Nests (call function a b) 1 :=
  (((((hFunction.append (.lit rfl)).append ha).append (.lit rfl)).append hb).append (.lit rfl)).of_eq rfl

theorem nests_scalarExpression (op : ScalarOperator) (ha : Nests a 1) (hb : Nests b 1) :
    Nests (scalarExpression op a b) 1 := by
  cases op with
  | add | sub | mul | div => exact nests_between (.lit rfl) ha hb
  | _ => exact nests_call (.lit rfl) ha hb

theorem nests_vectorExpression (op : VectorOperator) (ha : Nests a 1) (hb : Nests b 1) :
    Nests (vectorExpression op a b) 1 := by
  cases op with
  | add | sub | mul | div => exact nests_between (.lit rfl) ha hb
  | _ => exact nests_call (.lit rfl) ha hb

theorem nests_transformExpression (op : TransformProduct) (ha : Nests a 1) (hb : Nests b 1) :
    Nests (transformExpression op a b) 1 := by
  cases op with
  | ab => exact nests_between (.lit rfl) ha hb
  | ba => exact nests_between (.lit rfl) hb ha
  | abComponents => exact nests_call (.lit rfl) ha hb
  | baComponents => exact nests_call (.lit rfl) hb ha

/-- Two operands between three pieces of text that close each other's brackets. -/
theorem nests_around {before between after : String} {x y z : Nesting} (hBefore : Nests before x)
    (hBetween : Nests between y) (hAfter : Nests after z) (hClosed : x * y * z = 1) (ha : Nests a 1) (hb : Nests b 1) :
    Nests (before ++ a ++ between ++ b ++ after) 1 := by
  refine ((((hBefore.append ha).append hBetween).append hb).append hAfter).of_eq ?_
  rw [mul_one, mul_one, hClosed]

theorem nests_transformVectorExpression (op : VectorProduct) (ha : Nests a 1) (hb : Nests b 1) :
    Nests (transformVectorExpression op a b) 1 := by
  cases op with
  | ab | abBasis => exact nests_around (.lit rfl) (.lit rfl) (.lit rfl) rfl ha hb
  | ba | baBasis => exact nests_around (.lit rfl) (.lit rfl) (.lit rfl) rfl hb ha

/-- The two cases of a channel stand in scopes of their own, and so does the channel. -/
theorem nests_channel {low high axis : String} (hOut : Nests out 1) (ha : Nests a 1) (hb : Nests b 1)
    (hLow : Nests low 1) (hHigh : Nests high 1) (hAxis : Nests axis 1) :
    Nests (renderAll (channel out a b low high axis)) 1 := by
  have hComponent {text : String} (h : Nests text 1) : Nests (text ++ "." ++ axis) 1 :=
    ((h.append (.lit rfl)).append hAxis).of_eq rfl
  refine nests_scope ((nests_cons (nests_define (.lit rfl) (.lit rfl) (hComponent ha))
    (nests_cons (nests_define (.lit rfl) (.lit rfl) (hComponent hb))
    (nests_cons (nests_line (.lit rfl)) (nests_cons (nests_assign (hComponent hOut) hLow)
    (nests_cons (nests_line (.lit rfl)) (nests_cons (nests_assign (hComponent hOut) hHigh)
    (nests_cons (nests_line (.lit rfl)) nests_nil))))))).of_eq rfl)

theorem nests_channels {low high : String} (hOut : Nests out 1) (ha : Nests a 1) (hb : Nests b 1) (hLow : Nests low 1)
    (hHigh : Nests high 1) : Nests (renderAll (channels out a b low high)) 1 := by
  have hChannel {axis : String} (hAxis : Nests axis 1) := nests_channel hOut ha hb hLow hHigh hAxis
  exact (nests_append (hChannel (.lit rfl)) (nests_append (hChannel (.lit rfl))
    (nests_append (hChannel (.lit rfl)) nests_nil))).of_eq rfl

theorem nests_blend (op : ColorOperator) (hOut : Nests out 1) (ha : Nests a 1) (hb : Nests b 1) :
    Nests (renderAll (blend op out a b)) 1 := by
  cases op with
  | screen | difference | dodge | burn =>
    exact nests_assign_single hOut (nests_around (.lit rfl) (.lit rfl) (.lit rfl) rfl ha hb)
  | darken | lighten => exact nests_assign_single hOut (nests_call (.lit rfl) ha hb)
  | overlay | softLight | hardLight => exact nests_channels hOut ha hb (.lit rfl) (.lit rfl)

theorem nests_body {o : Operator} (hOperands : ∀ text ∈ operands, Nests text 1)
    (hResults : ∀ text ∈ results, Nests text 1) (h : o.body operands results = .ok code) :
    Nests (renderAll code) 1 := by
  simp only [body, Except.bind_eq_ok_iff] at h
  obtain ⟨out, hOut, a, ha, b, hb, h⟩ := h
  replace hOut := nests_operand hResults hOut
  replace ha := nests_operand hOperands ha
  replace hb := nests_operand hOperands hb
  cases o with
  | scalar op =>
    cases h
    exact nests_assign_single hOut (nests_scalarExpression op ha hb)
  | vector op =>
    cases h
    exact nests_assign_single hOut (nests_vectorExpression op ha hb)
  | color op =>
    cases h
    exact nests_blend op hOut ha hb
  | transform op =>
    cases h
    exact nests_assign_single hOut (nests_transformExpression op ha hb)
  | transformVector op =>
    cases h
    exact nests_assign_single hOut (nests_transformVectorExpression op ha hb)

end Operator

namespace FunctionNode

theorem nests_apply {function : String} (hFunction : Nests function 1) (ha : Nests a 1) : Nests (apply function a) 1 :=
  (((hFunction.append (.lit rfl)).append ha).append (.lit rfl)).of_eq rfl

theorem nests_assign_substitute {template : String} (hTemplate : Nests template 1) (hOut : Nests out 1)
    (ha : Nests a 1) : Nests (renderAll [.assign 0 out (Formula.substitute template [a])]) 1 :=
  nests_assign_single hOut (Formula.nests_substitute hTemplate (by simpa using ha))

theorem nests_vectorBody (f : VectorFunction) (hOut : Nests out 1) (ha : Nests a 1) :
    Nests (renderAll (vectorBody f out a)) 1 := by
  have hDefine : Nests (Statement.define 1 "vec3" "c" a).render 1 := nests_define (.lit rfl) (.lit rfl) ha
  rw [vectorBody]
  split
  · rename_i template hTemplate
    refine nests_assign_substitute ?_ hOut ha
    cases f <;> cases hTemplate <;> exact .lit rfl
  · split
    · refine nests_scope (nests_of_forall ?_)
      simp only [List.forall_mem_cons]
      refine ⟨hDefine, ?_, ?_, ?_, ?_, ?_, nests_assign hOut (.lit rfl), by simp⟩ <;>
        exact nests_define (.lit rfl) (.lit rfl) (.lit rfl)
    · refine nests_scope (nests_of_forall ?_)
      simp only [List.forall_mem_cons]
      refine ⟨hDefine, ?_, ?_, nests_assign hOut (.lit rfl), by simp⟩ <;>
        exact nests_define (.lit rfl) (.lit rfl) (.lit rfl)

theorem nests_statements (n : FunctionNode) (hOut : Nests out 1) (ha : Nests a 1) :
    Nests (renderAll (n.statements out a)) 1 := by
  have hDefine : Nests (Statement.define 1 "vec3" "c" a).render 1 := nests_define (.lit rfl) (.lit rfl) ha
  cases n with
  | scalar f =>
    refine nests_assign_substitute ?_ hOut ha
    cases f <;> exact .lit rfl
  | vector f => exact nests_vectorBody f hOut ha
  | color f =>
    cases f with
    | grayscale =>
      refine nests_scope (nests_of_forall ?_)
      simp only [List.forall_mem_cons]
      refine ⟨hDefine, ?_, ?_, nests_assign hOut (.lit rfl), by simp⟩ <;>
        exact nests_define (.lit rfl) (.lit rfl) (.lit rfl)
    | sepia =>
      refine nests_scope (nests_of_forall ?_)
      simp only [List.forall_mem_cons]
      refine ⟨hDefine, ?_, ?_, ?_, nests_assign hOut (.lit rfl), by simp⟩ <;>
        exact nests_define (.lit rfl) (.lit rfl) (.lit rfl)
  | transform f => cases f <;> exact nests_assign_single hOut (nests_apply (.lit rfl) ha)
  | scalarDerivative f | vectorDerivative f =>
    cases f <;> exact nests_assign_single hOut (nests_apply (.lit rfl) ha)

theorem nests_body {n : FunctionNode} (hOperands : ∀ text ∈ operands, Nests text 1)
    (hResults : ∀ text ∈ results, Nests text 1) (h : n.body operands results = .ok code) :
    Nests (renderAll code) 1 := by
  simp only [body, Except.bind_eq_ok_iff, Except.pure_eq_ok_iff] at h
  obtain ⟨out, hOut, a, ha, rfl⟩ := h
  exact n.nests_statements (nests_operand hResults hOut) (nests_operand hOperands ha)

end FunctionNode

theorem StandardFormula.nests_body (f : StandardFormula) (hOperands : ∀ text ∈ operands, Nests text 1)
    (hResults : ∀ text ∈ results, Nests text 1) : Nests (renderAll (f.formula.body operands results)) 1 := by
  have hTemplates : ∀ output ∈ f.formula.outputs, Nests output.template 1 := by
    cases f <;> simp only [formula, function, interpolation, List.forall_mem_cons, List.not_mem_nil, false_imp_iff,
      implies_true, and_true] <;> and_intros <;> exact .lit rfl
  refine nests_of_forall fun s hMem => ?_
  obtain ⟨⟨output, result⟩, hPair, rfl⟩ := List.mem_map.mp hMem
  obtain ⟨hOutput, hResult⟩ := List.of_mem_zip hPair
  exact nests_assign (hResults result hResult) (Formula.nests_substitute (hTemplates output hOutput) hOperands)

theorem Comparison.nests_body {c : Comparison} (hOperands : ∀ text ∈ operands, Nests text 1)
    (hResults : ∀ text ∈ results, Nests text 1) (h : c.body operands results = .ok code) :
    Nests (renderAll code) 1 := by
  simp only [body, Except.bind_eq_ok_iff] at h
  obtain ⟨out, hOut, h⟩ := h
  replace hOut := nests_operand hResults hOut
  split at h
  · cases h
    exact nests_assign_single hOut (.lit rfl)
  · simp only [Except.bind_eq_ok_iff] at h
    obtain ⟨a, ha, b, hb, h⟩ := h
    replace ha := nests_operand hOperands ha
    replace hb := nests_operand hOperands hb
    split at h
    · cases h
      have hFunction : Nests c.relation.vectorFunction 1 := by cases c.relation <;> exact .lit rfl
      have hQuantifier : Nests c.quantifier.function 1 := by cases c.quantifier <;> exact .lit rfl
      have hValue : Nests (c.quantifier.function ++ "(_bv)") 1 := (hQuantifier.append (.lit rfl)).of_eq rfl
      exact nests_scope ((nests_cons (nests_define (.lit rfl) (.lit rfl) (Operator.nests_call hFunction ha hb))
        (nests_cons (nests_assign hOut hValue) nests_nil)).of_eq rfl)
    · split at h
      · simp only [Except.bind_eq_ok_iff, Except.pure_eq_ok_iff] at h
        obtain ⟨near, hNear, rfl⟩ := h
        replace hNear := nests_operand hOperands hNear
        have hNearness : Nests (nearness a b near) 1 :=
          (((((((Nests.lit rfl).append ha).append (.lit rfl)).append hb).append (.lit rfl)).append
            hNear).append (.lit rfl)).of_eq rfl
        refine nests_assign_single hOut ?_
        split
        · exact hNearness
        · exact ((Nests.lit rfl).append hNearness).of_eq rfl
      · cases h
        have hSymbol : Nests c.relation.symbol 1 := by cases c.relation <;> exact .lit rfl
        exact nests_assign_single hOut (Operator.nests_between hSymbol ha hb)

namespace LogicNode

variable {c d e f : String}

theorem nests_orderBody (hOut : Nests out 1) (ha : Nests a 1) (hb : Nests b 1) (hc : Nests c 1) (hd : Nests d 1)
    (he : Nests e 1) (hf : Nests f 1) : Nests (renderAll (orderBody out a b c d e f)) 1 :=
  (nests_cons (nests_line (((((((Nests.lit rfl).append ha).append (.lit rfl)).append hb).append
      (.lit rfl)).append hc).append (.lit rfl))) (nests_cons (nests_assign hOut hd)
    (nests_cons (nests_line (((((Nests.lit rfl).append ha).append (.lit rfl)).append hb).append
      (.lit rfl))) (nests_cons (nests_assign hOut hf)
    (nests_cons (nests_line (.lit rfl)) (nests_cons (nests_assign hOut he)
    (nests_cons (nests_line (.lit rfl)) nests_nil))))))).of_eq rfl

theorem nests_switchBody (hOut : Nests out 1) (ha : Nests a 1) (hb : Nests b 1) (hc : Nests c 1) :
    Nests (renderAll (switchBody out a b c)) 1 :=
  (nests_cons (nests_line (((Nests.lit rfl).append ha).append (.lit rfl))) (nests_cons (nests_assign hOut hb)
    (nests_cons (nests_line (.lit rfl)) (nests_cons (nests_assign hOut hc)
    (nests_cons (nests_line (.lit rfl)) nests_nil))))).of_eq rfl

theorem nests_fresnelExpression (ha : Nests a 1) (hb : Nests b 1) (hc : Nests c 1) (hd : Nests d 1) :
    Nests (fresnelExpression a b c d) 1 := by
  have hFacing := Operator.nests_around (.lit rfl : Nests "clamp(dot(" _) (.lit rfl : Nests ", " _)
    (.lit rfl : Nests "), 0.0, 1.0)" _) rfl (nests_operandOr ha (.lit rfl : Nests "NORMAL" 1))
    (nests_operandOr hb (.lit rfl : Nests "VIEW" 1))
  exact (((((((((hc.append (.lit rfl)).append hFacing).append (.lit rfl)).append hd).append
    (.lit rfl)).append hFacing).append (.lit rfl)).append hd).append (.lit rfl)).of_eq rfl

theorem nests_body {n : LogicNode} (hOperands : ∀ text ∈ operands, Nests text 1)
    (hResults : ∀ text ∈ results, Nests text 1) (h : n.body operands results = .ok code) :
    Nests (renderAll code) 1 := by
  cases n with
  | order =>
    simp only [body, Except.bind_eq_ok_iff, Except.pure_eq_ok_iff] at h
    obtain ⟨out, hOut, a, ha, b, hb, c, hc, d, hd, e, he, f, hf, rfl⟩ := h
    exact nests_orderBody (nests_operand hResults hOut) (nests_operand hOperands ha) (nests_operand hOperands hb)
      (nests_operand hOperands hc) (nests_operand hOperands hd) (nests_operand hOperands he)
      (nests_operand hOperands hf)
  | vectorSwitch | scalarSwitch =>
    simp only [body, Except.bind_eq_ok_iff, Except.pure_eq_ok_iff] at h
    obtain ⟨out, hOut, a, ha, b, hb, c, hc, rfl⟩ := h
    exact nests_switchBody (nests_operand hResults hOut) (nests_operand hOperands ha) (nests_operand hOperands hb)
      (nests_operand hOperands hc)
  | floatTest tested =>
    simp only [body, Except.bind_eq_ok_iff, Except.pure_eq_ok_iff] at h
    obtain ⟨out, hOut, a, ha, rfl⟩ := h
    have hFunction : Nests (floatTestFunction tested) 1 := by cases tested <;> exact .lit rfl
    exact nests_assign_single (nests_operand hResults hOut)
      (FunctionNode.nests_apply hFunction (nests_operand hOperands ha))
  | compare c => exact Comparison.nests_body hOperands hResults h
  | fresnel =>
    simp only [body, Except.bind_eq_ok_iff, Except.pure_eq_ok_iff] at h
    obtain ⟨out, hOut, a, ha, b, hb, c, hc, d, hd, rfl⟩ := h
    exact nests_assign_single (nests_operand hResults hOut) (nests_fresnelExpression (nests_operand hOperands ha)
      (nests_operand hOperands hb) (nests_operand hOperands hc) (nests_operand hOperands hd))

end LogicNode

namespace Sampling

variable {sampler coordinate lod color alpha name value : String}

theorem nests_coordinate (h : Nests a 1) : Nests (Sampling.coordinate a) 1 := by
  rw [Sampling.coordinate]
  split
  · exact .lit rfl
  · exact (h.append (.lit rfl)).of_eq rfl

theorem nests_read (hSampler : Nests sampler 1) (hCoordinate : Nests coordinate 1) (hLod : Nests lod 1) :
    Nests (read sampler coordinate lod) 1 := by
  rw [read]
  split
  · exact Operator.nests_around (.lit rfl) (.lit rfl) (.lit rfl) rfl hSampler hCoordinate
  · exact (((((((Nests.lit rfl).append hSampler).append (.lit rfl)).append hCoordinate).append
      (.lit rfl)).append hLod).append (.lit rfl)).of_eq rfl

theorem nests_readInto (hName : Nests name 1) (hValue : Nests value 1) (hColor : Nests color 1)
    (hAlpha : Nests alpha 1) : Nests (renderAll (readInto name value color alpha)) 1 :=
  (nests_cons (nests_define (.lit rfl) hName hValue)
    (nests_cons (nests_assign hColor ((hName.append (.lit rfl)).of_eq rfl))
    (nests_cons (nests_assign hAlpha ((hName.append (.lit rfl)).of_eq rfl)) nests_nil))).of_eq rfl

end Sampling

namespace UniformNode

theorem nests_valueBody {u : ValueUniform} (hName : Nests u.name 1) (hResults : ∀ text ∈ results, Nests text 1)
    (h : u.body results = .ok code) : Nests (renderAll code) 1 := by
  simp only [ValueUniform.body, Except.bind_eq_ok_iff] at h
  obtain ⟨out, hOut, h⟩ := h
  replace hOut := nests_operand hResults hOut
  split at h
  · simp only [Except.bind_eq_ok_iff, Except.pure_eq_ok_iff] at h
    obtain ⟨alpha, hAlpha, rfl⟩ := h
    exact (nests_cons (nests_assign hOut ((hName.append (.lit rfl)).of_eq rfl))
      (nests_cons (nests_assign (nests_operand hResults hAlpha) ((hName.append (.lit rfl)).of_eq rfl))
      nests_nil)).of_eq rfl
  · cases h
    exact nests_assign_single hOut hName

theorem nests_textureBody {u : TextureUniform} (hName : Nests u.name 1) (hOperands : ∀ text ∈ operands, Nests text 1)
    (hResults : ∀ text ∈ results, Nests text 1) (h : u.body operands results = .ok code) :
    Nests (renderAll code) 1 := by
  simp only [TextureUniform.body, Except.bind_eq_ok_iff, Except.pure_eq_ok_iff] at h
  obtain ⟨first, hFirst, second, hSecond, color, hColor, alpha, hAlpha, rfl⟩ := h
  replace hFirst := nests_operand hOperands hFirst
  replace hSecond := nests_operand hOperands hSecond
  refine Sampling.nests_readInto (.lit rfl) ?_ (nests_operand hResults hColor) (nests_operand hResults hAlpha)
  rw [TextureUniform.readExpression]
  split
  · exact (((((((Nests.lit rfl).append hName).append (.lit rfl)).append
      (nests_operandOr hFirst (.lit rfl))).append (.lit rfl)).append
      (nests_operandOr hSecond (.lit rfl))).append (.lit rfl)).of_eq rfl
  · exact Sampling.nests_read hName (Sampling.nests_coordinate hFirst) hSecond

theorem nests_body {u : UniformNode} (hName : Nests u.name 1) (hOperands : ∀ text ∈ operands, Nests text 1)
    (hResults : ∀ text ∈ results, Nests text 1) (h : u.body operands results = .ok code) :
    Nests (renderAll code) 1 := by
  cases u with
  | value u => exact nests_valueBody hName hResults h
  | texture u => exact nests_textureBody hName hOperands hResults h
  | cubeMap u =>
    cases h
    exact nests_nil

end UniformNode

namespace TextureNode

variable {ctx : EmitContext} {color alpha : String}

theorem nests_placeholder (n : TextureNode) (hColor : Nests color 1) (hAlpha : Nests alpha 1) :
    Nests (renderAll (n.placeholder color alpha)) 1 := by
  have hZero : Nests (if n.source = .depth then PortType.scalar.zeroLiteral else PortType.vector3.zeroLiteral) 1 := by
    split <;> exact PortType.nests_zeroLiteral _
  exact (nests_cons (nests_assign hColor hZero)
    (nests_cons (nests_assign hAlpha (.lit rfl)) nests_nil)).of_eq rfl

/-- Whatever is read, it is the read of a sampler, and where there is nothing to read a placeholder stands in. -/
theorem nests_body {n : TextureNode} (hOperands : ∀ text ∈ operands, Nests text 1)
    (hResults : ∀ text ∈ results, Nests text 1) (h : n.body ctx operands results = .ok code) :
    Nests (renderAll code) 1 := by
  simp only [body, Except.bind_eq_ok_iff, Except.pure_eq_ok_iff] at h
  obtain ⟨uv, hUv, lod, hLod, handed, hHanded, color, hColor, alpha, hAlpha, rfl⟩ := h
  replace hUv := nests_operand hOperands hUv
  replace hLod := nests_operand hOperands hLod
  replace hHanded := nests_operand hOperands hHanded
  replace hColor := nests_operand hResults hColor
  replace hAlpha := nests_operand hResults hAlpha
  have hRead {source : String} (hSource : Nests source 1) :
      Nests (renderAll (Sampling.readInto "_tex_read" (Sampling.read source (Sampling.coordinate uv) lod) color alpha))
        1 :=
    Sampling.nests_readInto (.lit rfl) (Sampling.nests_read hSource (Sampling.nests_coordinate hUv) hLod) hColor
      hAlpha
  have hOwn : Nests (ownSampler ctx) 1 := ctx.nests_ownName (.lit rfl)
  rw [statements]
  split
  · exact n.nests_placeholder hColor hAlpha
  · dsimp only
    split
    · exact Sampling.nests_readInto ((hOwn.append (.lit rfl)).of_eq rfl)
        (Sampling.nests_read hOwn (Sampling.nests_coordinate hUv) hLod) hColor hAlpha
    · split
      · exact n.nests_placeholder hColor hAlpha
      · exact hRead hHanded
    · exact Sampling.nests_readInto (.lit rfl) (Sampling.nests_read (.lit rfl) (Sampling.nests_coordinate hUv)
        (nests_operandOr hLod (.lit rfl))) hColor hAlpha
    · exact hRead (.lit rfl)
    · exact hRead (.lit rfl)
    · split
      · exact n.nests_placeholder hColor hAlpha
      · have hDepth := Sampling.nests_read (.lit rfl : Nests "DEPTH_TEXTURE" 1) (Sampling.nests_coordinate hUv) hLod
        exact (nests_cons (nests_define (.lit rfl) (.lit rfl) ((hDepth.append (.lit rfl)).of_eq rfl))
          (nests_cons (nests_assign hColor (.lit rfl))
          (nests_cons (nests_assign hAlpha (.lit rfl)) nests_nil))).of_eq rfl

end TextureNode

theorem CubeMapNode.nests_body {n : CubeMapNode} {ctx : EmitContext} (hOperands : ∀ text ∈ operands, Nests text 1)
    (hResults : ∀ text ∈ results, Nests text 1) (h : n.body ctx operands results = .ok code) :
    Nests (renderAll code) 1 := by
  simp only [body, Except.bind_eq_ok_iff, Except.pure_eq_ok_iff] at h
  obtain ⟨sampler, hSampler, value, hValue, color, hColor, alpha, hAlpha, rfl⟩ := h
  refine Sampling.nests_readInto (.lit rfl) ?_ (nests_operand hResults hColor) (nests_operand hResults hAlpha)
  have hClosed : Nests sampler 1 := by
    rw [CubeMapNode.sampler] at hSampler
    split at hSampler
    · cases hSampler
      exact ctx.nests_ownName (.lit rfl)
    · exact nests_operand hOperands hSampler
  rw [readExpression] at hValue
  split at hValue
  · cases hValue
    exact .lit rfl
  · simp only [Except.bind_eq_ok_iff, Except.pure_eq_ok_iff] at hValue
    obtain ⟨direction, hDirection, lod, hLod, rfl⟩ := hValue
    have hTurned := nests_operandOr (nests_operand hOperands hDirection) PortType.vector3.nests_zeroLiteral
    exact Sampling.nests_read hClosed hTurned (nests_operand hOperands hLod)

/-! ## Terminals -/

namespace StageBuiltin

variable {mode : Mode} {stage : Stage} {row : StageBuiltin}

theorem nests_of_mem_inputs (h : row ∈ inputs mode stage) : Nests row.expression 1 := by
  have hAll : ∀ row ∈ inputs mode stage, Nests row.expression 1 := by
    cases mode <;> cases stage <;> simp only [inputs, spatialVertexInputs, spatialFragmentInputs, spatialLightInputs,
      canvasVertexInputs, canvasFragmentInputs, canvasLightInputs, particlesVertexInputs, List.forall_mem_cons,
      List.not_mem_nil, false_imp_iff, implies_true, and_true] <;> and_intros <;> exact .lit rfl
  exact hAll row h

theorem nests_of_mem_substitutes (h : row ∈ substitutes mode stage) : Nests row.expression 1 := by
  have hAll : ∀ row ∈ substitutes mode stage, Nests row.expression 1 := by
    cases mode <;> cases stage <;> simp only [substitutes, spatialFragmentSubstitutes, spatialLightSubstitutes,
      canvasVertexSubstitutes, canvasFragmentSubstitutes, canvasLightSubstitutes, particlesVertexSubstitutes,
      List.forall_mem_cons, List.not_mem_nil, false_imp_iff, implies_true, and_true] <;> and_intros <;>
      exact .lit rfl
  exact hAll row h

theorem nests_of_mem_outputs (h : row ∈ outputs mode stage) : Nests row.expression 1 := by
  have hAll : ∀ row ∈ outputs mode stage, Nests row.expression 1 := by
    cases mode <;> cases stage <;> simp only [outputs, spatialVertexOutputs, spatialFragmentOutputs,
      spatialLightOutputs, canvasVertexOutputs, canvasFragmentOutputs, canvasLightOutputs, particlesVertexOutputs,
      List.forall_mem_cons, List.not_mem_nil, false_imp_iff, implies_true, and_true] <;> and_intros <;>
      exact .lit rfl
  exact hAll row h

end StageBuiltin

namespace InputNode

theorem nests_of_builtin? {n : InputNode} {row : StageBuiltin} (h : n.builtin? = some row) : Nests row.expression 1 :=
  StageBuiltin.nests_of_mem_inputs (List.mem_of_find?_eq_some h)

theorem nests_expression (n : InputNode) (ctx : EmitContext) : Nests (n.expression ctx) 1 := by
  rw [expression]
  cases hRow : (if ctx.preview then StageBuiltin.find? (StageBuiltin.substitutes n.mode n.stage) n.name
    else n.builtin?) with
  | none => exact n.type.nests_zeroLiteral
  | some row =>
    split at hRow
    · exact StageBuiltin.nests_of_mem_substitutes (List.mem_of_find?_eq_some hRow)
    · exact nests_of_builtin? hRow

theorem nests_body {n : InputNode} {ctx : EmitContext} (hResults : ∀ text ∈ results, Nests text 1)
    (h : n.body ctx results = .ok code) : Nests (renderAll code) 1 := by
  rw [body] at h
  split at h
  · cases h
    exact nests_nil
  · simp only [Except.bind_eq_ok_iff, Except.pure_eq_ok_iff] at h
    obtain ⟨out, hOut, rfl⟩ := h
    exact nests_assign_single (nests_operand hResults hOut) (n.nests_expression ctx)

end InputNode

/-- The target and the components of an assignment stand in the table with a colon between them. -/
theorem OutputNode.nests_assignment {target : StageBuiltin} (hTarget : Nests target.expression 1) {value : String}
    (hValue : Nests value 1) : Nests (assignment target value).render 1 := by
  rw [assignment]
  split
  · rename_i name components hCut
    have hName : Nests (String.ofList name) (.ofChars name) := .ofList name
    have hComponents : Nests (String.ofList components) (.ofChars components) := .ofList components
    have hPoint : Nests "." 1 := .lit rfl
    refine (Statement.nests_assign_mul hName ((hValue.append hPoint).append hComponents)).of_eq ?_
    have hColon : Nesting.ofChars [':'] = 1 := rfl
    rw [Nests, eq_append_of_cutAt hCut, Nesting.ofChars_append, Nesting.ofChars_cons, hColon, one_mul] at hTarget
    rw [one_mul, one_mul, hTarget]
  · exact nests_assign hTarget hValue

theorem OutputNode.nests_body (n : OutputNode) (hOperands : ∀ text ∈ operands, Nests text 1) :
    Nests (renderAll (n.body operands)) 1 := by
  refine nests_of_forall fun s hMem => ?_
  obtain ⟨⟨target, value⟩, hPair, rfl⟩ := List.mem_map.mp hMem
  obtain ⟨hTarget, hValue⟩ := List.of_mem_zip (List.mem_filter.mp hPair).1
  exact nests_assignment (StageBuiltin.nests_of_mem_outputs hTarget) (hOperands value hValue)

/-- The code of every node that holds none of the user's own closes what it opens. -/
theorem StandardNode.nests_body {n : StandardNode} {ctx : EmitContext} (hPlain : n.isExpression = false)
    (hName : ∀ name, NodeModel.uniformName? n = some name → UniformName.IsName name)
    (hOperands : ∀ text ∈ operands, Nests text 1) (hResults : ∀ text ∈ results, Nests text 1)
    (h : NodeModel.body n ctx operands results = .ok code) : Nests (renderAll code) 1 := by
  cases n with
  | output n =>
    cases h
    exact n.nests_body hOperands
  | input n => exact InputNode.nests_body hResults h
  | constant n => exact Constant.nests_body hResults h
  | operator n => exact Operator.nests_body hOperands hResults h
  | function n => exact FunctionNode.nests_body hOperands hResults h
  | formula n =>
    cases h
    exact n.nests_body hOperands hResults
  | logic n => exact LogicNode.nests_body hOperands hResults h
  | uniform n => exact UniformNode.nests_body (nests_of_isName (hName n.name rfl)) hOperands hResults h
  | texture n => exact TextureNode.nests_body hOperands hResults h
  | cubeMap n => exact CubeMapNode.nests_body hOperands hResults h
  | expression n | globalExpression n => cases hPlain

end

end ShadeGraph
