import ShadeGraph.Proofs.CalmCode
import ShadeGraph.Proofs.Diagnosis

/-!
# The built-ins in the code of nodes

A node puts its operands between pieces of calm text. So the words in capitals of its code are those of a few texts:
the name of a uniform or sampler, the hint of a port, what stands in for an operand.
-/

namespace ShadeGraph

open Text
open Statement (renderAll)

theorem operand_eq_ok_iff {texts : List String} {port : Nat} {text : String} :
    operand texts port = .ok text ↔ texts[port]? = some text := by
  rw [operand]
  cases texts[port]? <;> simp

section

variable {word : String} (hWord : isCapital word.toList = true)

include hWord

theorem mentions_operandOr {text fallback : String} (hFallback : Calm fallback) :
    Mentions (operandOr text fallback) word ↔ Mentions text word := by
  rw [operandOr]
  split
  · rename_i hEmpty
    rw [String.isEmpty_iff.mp hEmpty]
    exact iff_of_false (hFallback.not_mentions hWord) ((by decide : Calm "").not_mentions hWord)
  · rfl

namespace Statement

theorem mentions_assign {depth : Nat} {target value : String} (hTarget : Calm target) :
    Mentions (assign depth target value).render word ↔ Mentions value word := by
  rw [render, mentions_append_calm (by decide) (by decide) hWord,
    mentions_calm_append (((calm_indent depth).append hTarget).append (by decide)) ?_ hWord]
  rw [endsApart_append (by decide)]
  decide

theorem mentions_define {depth : Nat} {type name value : String} (hType : Calm type) (hName : Calm name) :
    Mentions (define depth type name value).render word ↔ Mentions value word := by
  have hBefore := ((((calm_indent depth).append hType).append (by decide : Calm " ")).append hName).append
    (by decide : Calm " = ")
  rw [render, mentions_append_calm (by decide) (by decide) hWord, mentions_calm_append hBefore ?_ hWord]
  rw [endsApart_append (by decide)]
  decide

end Statement

end

theorem Statement.endsApart_assign (depth : Nat) (target value : String) :
    endsApart (assign depth target value).render = true := by
  rw [render, endsApart_append (by decide)]
  decide

theorem Statement.endsApart_define (depth : Nat) (type name value : String) :
    endsApart (define depth type name value).render = true := by
  rw [render, endsApart_append (by decide)]
  decide

theorem Statement.mentions_renderAll_cons {s : Statement} {rest : List Statement} {word : String}
    (h : endsApart s.render = true) :
    Mentions (renderAll (s :: rest)) word ↔ Mentions s.render word ∨ Mentions (renderAll rest) word := by
  rw [renderAll, List.map_cons, concat_cons, mentions_append_of_endsApart h]
  rfl

theorem not_mentions_nil (word : String) : ¬Mentions (renderAll []) word := by
  rintro ⟨⟩

section

variable {word : String} (hWord : isCapital word.toList = true)

include hWord

theorem Statement.mentions_assign_single {target value : String} (hTarget : Calm target) :
    Mentions (renderAll [.assign 0 target value]) word ↔ Mentions value word := by
  rw [mentions_renderAll_cons (endsApart_assign ..), mentions_assign hWord hTarget,
    or_iff_left (not_mentions_nil word)]

namespace Sampling

theorem mentions_coordinate (uv : String) : Mentions (coordinate uv) word ↔ Mentions uv word := by
  rw [coordinate]
  split
  · rename_i hEmpty
    rw [String.isEmpty_iff.mp hEmpty]
    exact iff_of_false ((by decide : Calm "vec2(0.0)").not_mentions hWord) ((by decide : Calm "").not_mentions hWord)
  · exact mentions_append_calm (by decide) (by decide) hWord

theorem mentions_read {sampler coordinate lod : String} (hLod : Calm lod) :
    Mentions (read sampler coordinate lod) word ↔ Mentions sampler word ∨ Mentions coordinate word := by
  have hApart (before : String) : endsApart (before ++ ", ") = true := (endsApart_append (by decide)).trans (by decide)
  rw [read]
  split
  · rw [mentions_append_calm (by decide) (by decide) hWord, mentions_append_of_endsApart (hApart _),
      mentions_append_calm (by decide) (by decide) hWord, mentions_calm_append (by decide) (by decide) hWord]
  · rw [mentions_append_calm (by decide) (by decide) hWord, mentions_append_of_endsApart (hApart _),
      or_iff_left (hLod.not_mentions hWord), mentions_append_calm (by decide) (by decide) hWord,
      mentions_append_of_endsApart (hApart _), mentions_append_calm (by decide) (by decide) hWord,
      mentions_calm_append (by decide) (by decide) hWord]

theorem mentions_readInto {name value color alpha : String} (hName : Calm name) (hColor : Calm color)
    (hAlpha : Calm alpha) : Mentions (renderAll (readInto name value color alpha)) word ↔ Mentions value word := by
  have hRgb : ¬Mentions (name ++ ".rgb") word := (hName.append (by decide)).not_mentions hWord
  have hLast : ¬Mentions (name ++ ".a") word := (hName.append (by decide)).not_mentions hWord
  rw [readInto, Statement.mentions_renderAll_cons (Statement.endsApart_define ..),
    Statement.mentions_define hWord (by decide) hName,
    Statement.mentions_renderAll_cons (Statement.endsApart_assign ..),
    Statement.mentions_assign hWord hColor, Statement.mentions_assign_single hWord hAlpha]
  simp [hRgb, hLast]

end Sampling

/-! ## Nodes that paste -/

variable {operands results : List String} {code : List Statement}

theorem InputNode.mentions_body {n : InputNode} {ctx : EmitContext} (hResults : ∀ text ∈ results, Calm text)
    (h : n.body ctx results = .ok code) :
    Mentions (renderAll code) word ↔ n.type.isSampler = false ∧ Mentions (n.expression ctx) word := by
  rw [body] at h
  split at h
  · rename_i hSampler
    cases h
    simp [hSampler, not_mentions_nil]
  · rename_i hValue
    simp only [Except.bind_eq_ok_iff, Except.pure_eq_ok_iff] at h
    obtain ⟨out, hOut, rfl⟩ := h
    rw [Statement.mentions_assign_single hWord (Calm.operand hResults hOut)]
    simp [hValue]

theorem LogicNode.mentions_fresnelExpression {normal view invert power : String} (hInvert : Calm invert)
    (hPower : Calm power) : Mentions (fresnelExpression normal view invert power) word ↔
      Mentions (operandOr normal "NORMAL") word ∨ Mentions (operandOr view "VIEW") word := by
  have hComma (before : String) : endsApart (before ++ ", ") = true := (endsApart_append (by decide)).trans (by decide)
  have hFacing : Mentions ("clamp(dot(" ++ operandOr normal "NORMAL" ++ ", " ++ operandOr view "VIEW" ++
      "), 0.0, 1.0)") word ↔ Mentions (operandOr normal "NORMAL") word ∨ Mentions (operandOr view "VIEW") word := by
    rw [mentions_append_calm (.ofChars rfl) (by decide) hWord, mentions_append_of_endsApart (hComma _),
      mentions_append_calm (by decide) (by decide) hWord, mentions_calm_append (by decide) (by decide) hWord]
  have hStart : endsApart (invert ++ " ? pow(") = true := (endsApart_append (by decide)).trans (by decide)
  have hMiddle (before : String) : endsApart (before ++ ") : pow(1.0 - ") = true :=
    (endsApart_append (by decide)).trans (by decide)
  rw [fresnelExpression, mentions_append_calm (by decide) (by decide) hWord, mentions_append_of_endsApart (hComma _),
    or_iff_left (hPower.not_mentions hWord), mentions_append_calm (by decide) (by decide) hWord,
    mentions_append_of_endsApart (hMiddle _), mentions_append_calm (.ofChars rfl) (by decide) hWord,
    mentions_append_of_endsApart (hComma _), or_iff_left (hPower.not_mentions hWord),
    mentions_append_calm (by decide) (by decide) hWord, mentions_calm_append (hInvert.append (by decide)) hStart hWord,
    hFacing, or_self]

theorem ValueUniform.mentions_body {u : ValueUniform} (hResults : ∀ text ∈ results, Calm text)
    (h : u.body results = .ok code) : Mentions (renderAll code) word ↔ Mentions u.name word := by
  simp only [body, Except.bind_eq_ok_iff] at h
  obtain ⟨out, hOut, h⟩ := h
  replace hOut := Calm.operand hResults hOut
  split at h
  · simp only [Except.bind_eq_ok_iff, Except.pure_eq_ok_iff] at h
    obtain ⟨alpha, hAlpha, rfl⟩ := h
    rw [Statement.mentions_renderAll_cons (Statement.endsApart_assign ..), Statement.mentions_assign hWord hOut,
      Statement.mentions_assign_single hWord (Calm.operand hResults hAlpha),
      mentions_append_calm (by decide) (by decide) hWord, mentions_append_calm (by decide) (by decide) hWord, or_self]
  · cases h
    exact Statement.mentions_assign_single hWord hOut

theorem TextureUniform.mentions_readExpression (u : TextureUniform) {first second : String} (hSecond : Calm second) :
    Mentions (u.readExpression first second) word ↔ Mentions u.name word ∨ Mentions first word := by
  rw [readExpression]
  split
  · have hApart (before : String) : endsApart (before ++ ", ") = true :=
      (endsApart_append (by decide)).trans (by decide)
    rw [mentions_append_calm (by decide) (by decide) hWord, mentions_append_of_endsApart (hApart _),
      or_iff_left ((calm_operandOr hSecond (by decide)).not_mentions hWord),
      mentions_append_calm (by decide) (by decide) hWord, mentions_append_of_endsApart (hApart _),
      mentions_append_calm (by decide) (by decide) hWord, mentions_calm_append (by decide) (by decide) hWord,
      mentions_operandOr hWord (by decide)]
  · rw [Sampling.mentions_read hWord hSecond, Sampling.mentions_coordinate hWord]

theorem TextureUniform.mentions_body {u : TextureUniform} (hSecond : ∀ text, operands[1]? = some text → Calm text)
    (hResults : ∀ text ∈ results, Calm text) (h : u.body operands results = .ok code) :
    Mentions (renderAll code) word ↔ Mentions u.name word ∨ Mentions (operands.getD 0 "") word := by
  simp only [body, Except.bind_eq_ok_iff, Except.pure_eq_ok_iff, operand_eq_ok_iff] at h
  obtain ⟨first, hFirst, second, hGet, color, hColor, alpha, hAlpha, rfl⟩ := h
  rw [Sampling.mentions_readInto hWord (by decide) (hResults color (List.mem_of_getElem? hColor))
    (hResults alpha (List.mem_of_getElem? hAlpha)), mentions_readExpression hWord u (hSecond second hGet),
    List.getD_eq_getElem?_getD, hFirst]
  rfl

end

namespace TextureNode

/-- The sampler that is read, given the one at the port. -/
def sampler? (n : TextureNode) (ctx : EmitContext) (handed : String) : Option String :=
  if !n.isAvailable ctx.mode ctx.stage then none
  else match n.source with
    | .texture => some (ownSampler ctx)
    | .samplerPort => if handed.isEmpty then none else some handed
    | .screen => some "SCREEN_TEXTURE"
    | .texture2D => some "TEXTURE"
    | .normalMap2D => some "NORMAL_TEXTURE"
    | .depth => if ctx.preview then none else some "DEPTH_TEXTURE"

theorem sampler?_of_texture {n : TextureNode} (h : n.source = .texture) (ctx : EmitContext) (handed : String) :
    n.sampler? ctx handed = some (ownSampler ctx) := by
  simp [sampler?, isAvailable, h]

theorem sampler?_of_samplerPort {n : TextureNode} (h : n.source = .samplerPort) (ctx : EmitContext) (handed : String) :
    n.sampler? ctx handed = if handed.isEmpty then none else some handed := by
  simp [sampler?, isAvailable, h]

theorem sampler?_of_normalMap2D {n : TextureNode} (h : n.source = .normalMap2D) (ctx : EmitContext) (handed : String) :
    n.sampler? ctx handed = if ctx.mode = .canvas then some "NORMAL_TEXTURE" else none := by
  simp [sampler?, isAvailable, h]

theorem statements_eq_placeholder {n : TextureNode} {ctx : EmitContext} {handed : String}
    (h : n.sampler? ctx handed = none) (uv lod color alpha : String) :
    n.statements ctx uv lod handed color alpha = n.placeholder color alpha := by
  rw [sampler?] at h
  rw [statements]
  split at h
  · rename_i hAvailable
    rw [if_pos hAvailable]
  · rename_i hAvailable
    rw [if_neg hAvailable]
    cases hSource : n.source <;> simp_all

variable {word : String} (hWord : isCapital word.toList = true)

include hWord

theorem not_mentions_placeholder (n : TextureNode) {color alpha : String} (hColor : Calm color) (hAlpha : Calm alpha) :
    ¬Mentions (renderAll (n.placeholder color alpha)) word := by
  have hZero : Calm (if n.source = .depth then PortType.scalar.zeroLiteral else PortType.vector3.zeroLiteral) := by
    split <;> exact PortType.calm_zeroLiteral _
  have hOne : ¬Mentions "1.0" word := (by decide : Calm "1.0").not_mentions hWord
  rw [placeholder, Statement.mentions_renderAll_cons (Statement.endsApart_assign ..),
    Statement.mentions_assign hWord hColor, Statement.mentions_assign_single hWord hAlpha]
  rintro (hMentions | hMentions)
  · exact hZero.not_mentions hWord hMentions
  · exact hOne hMentions

theorem mentions_readDepth {coordinate lod depth alpha : String} (hLod : Calm lod) (hDepth : Calm depth)
    (hAlpha : Calm alpha) : Mentions (renderAll (readDepth coordinate lod depth alpha)) word ↔
      Mentions "DEPTH_TEXTURE" word ∨ Mentions coordinate word := by
  have hLocal : ¬Mentions "_depth" word := (by decide : Calm "_depth").not_mentions hWord
  have hOne : ¬Mentions "1.0" word := (by decide : Calm "1.0").not_mentions hWord
  rw [readDepth, Statement.mentions_renderAll_cons (Statement.endsApart_define ..),
    Statement.mentions_define hWord (by decide) (by decide), mentions_append_calm (by decide) (by decide) hWord,
    Sampling.mentions_read hWord hLod, Statement.mentions_renderAll_cons (Statement.endsApart_assign ..),
    Statement.mentions_assign hWord hDepth, Statement.mentions_assign_single hWord hAlpha]
  simp [hLocal, hOne]

theorem mentions_statements {n : TextureNode} {ctx : EmitContext} {uv lod handed color alpha : String} (hLod : Calm lod)
    (hColor : Calm color) (hAlpha : Calm alpha) :
    Mentions (renderAll (n.statements ctx uv lod handed color alpha)) word ↔
      ∃ s, n.sampler? ctx handed = some s ∧ (Mentions s word ∨ Mentions uv word) := by
  have hRead (source : String) : Mentions (renderAll (Sampling.readInto "_tex_read"
      (Sampling.read source (Sampling.coordinate uv) lod) color alpha)) word ↔
        Mentions source word ∨ Mentions uv word := by
    rw [Sampling.mentions_readInto hWord (by decide) hColor hAlpha, Sampling.mentions_read hWord hLod,
      Sampling.mentions_coordinate hWord]
  cases hSampler : n.sampler? ctx handed with
  | none =>
    rw [statements_eq_placeholder hSampler]
    simp [not_mentions_placeholder hWord n hColor hAlpha]
  | some s =>
    simp only [Option.some.injEq, exists_eq_left']
    rw [sampler?] at hSampler
    rw [statements]
    split at hSampler
    · cases hSampler
    · rename_i hAvailable
      rw [if_neg hAvailable]
      generalize n.source = source at hSampler ⊢
      cases source with
      | texture =>
        cases hSampler
        have hOwn : Calm (ownSampler ctx) := ctx.calm_ownName (by decide)
        dsimp only
        rw [Sampling.mentions_readInto hWord (hOwn.append (by decide)) hColor hAlpha, Sampling.mentions_read hWord hLod,
          Sampling.mentions_coordinate hWord]
      | samplerPort =>
        dsimp only at hSampler ⊢
        split at hSampler
        · cases hSampler
        · rename_i hHanded
          cases hSampler
          rw [if_neg hHanded]
          exact hRead handed
      | screen =>
        cases hSampler
        dsimp only
        rw [Sampling.mentions_readInto hWord (by decide) hColor hAlpha,
          Sampling.mentions_read hWord (calm_operandOr hLod (by decide)), Sampling.mentions_coordinate hWord]
      | texture2D =>
        cases hSampler
        exact hRead "TEXTURE"
      | normalMap2D =>
        cases hSampler
        exact hRead "NORMAL_TEXTURE"
      | depth =>
        dsimp only at hSampler ⊢
        split at hSampler
        · cases hSampler
        · rename_i hCompile
          cases hSampler
          rw [if_neg hCompile, mentions_readDepth hWord hLod hColor hAlpha, Sampling.mentions_coordinate hWord]

theorem mentions_body {n : TextureNode} {ctx : EmitContext} {operands results : List String} {code : List Statement}
    (hLod : ∀ text, operands[1]? = some text → Calm text) (hResults : ∀ text ∈ results, Calm text)
    (h : n.body ctx operands results = .ok code) : Mentions (renderAll code) word ↔
      ∃ s, n.sampler? ctx (operands.getD 2 "") = some s ∧ (Mentions s word ∨ Mentions (operands.getD 0 "") word) := by
  simp only [body, Except.bind_eq_ok_iff, Except.pure_eq_ok_iff, operand_eq_ok_iff] at h
  obtain ⟨uv, hUv, lod, hGet, handed, hHanded, color, hColor, alpha, hAlpha, rfl⟩ := h
  rw [mentions_statements hWord (hLod lod hGet) (hResults color (List.mem_of_getElem? hColor))
    (hResults alpha (List.mem_of_getElem? hAlpha)), List.getD_eq_getElem?_getD, List.getD_eq_getElem?_getD, hUv,
    hHanded]
  rfl

end TextureNode

theorem CubeMapNode.mentions_body {word : String} (hWord : isCapital word.toList = true) {n : CubeMapNode}
    {ctx : EmitContext} {operands results : List String} {code : List Statement}
    (hLod : ∀ text, operands[1]? = some text → Calm text) (hResults : ∀ text ∈ results, Calm text)
    (h : n.body ctx operands results = .ok code) : Mentions (renderAll code) word ↔
      ∃ s, n.sampler ctx operands = .ok s ∧ s ≠ "" ∧ (Mentions s word ∨ Mentions (operands.getD 0 "") word) := by
  simp only [body, Except.bind_eq_ok_iff, Except.pure_eq_ok_iff, operand_eq_ok_iff] at h
  obtain ⟨s, hSampler, value, hValue, color, hColor, alpha, hAlpha, rfl⟩ := h
  rw [Sampling.mentions_readInto hWord (by decide) (hResults color (List.mem_of_getElem? hColor))
    (hResults alpha (List.mem_of_getElem? hAlpha)), hSampler]
  simp only [Except.ok.injEq, exists_eq_left']
  rw [readExpression] at hValue
  split at hValue
  · rename_i hEmpty
    cases hValue
    simp [String.isEmpty_iff.mp hEmpty, (by decide : Calm "vec4(0.0)").not_mentions hWord]
  · rename_i hNe
    simp only [Except.bind_eq_ok_iff, Except.pure_eq_ok_iff, operand_eq_ok_iff] at hValue
    obtain ⟨uv, hUv, lod, hGet, rfl⟩ := hValue
    rw [Sampling.mentions_read hWord (hLod lod hGet), mentions_operandOr hWord (by decide), List.getD_eq_getElem?_getD,
      hUv]
    simp [String.isEmpty_iff.not.mp hNe]

/-! ## All nodes -/

/-- Whether neither a hint nor a sampler can feed the port. -/
def Port.isQuiet (p : Port) : Bool := p.hint?.isNone && !p.type.isSampler

namespace StandardNode

/-- Operands for all inputs of a node, calm where neither a hint nor a sampler can feed it. -/
structure IsFed (n : StandardNode) (operands : List String) : Prop where
  length : operands.length = (NodeModel.inputs n).length
  calm : ∀ index port text, NodeModel.port? n .input index = some port → port.isQuiet = true →
    operands[index]? = some text → Calm text

theorem IsFed.calm_of_quiet {n : StandardNode} {operands : List String} (h : n.IsFed operands)
    (hQuiet : (NodeModel.inputs n).all Port.isQuiet = true) : ∀ text ∈ operands, Calm text := by
  intro text hMem
  obtain ⟨index, hIndex, rfl⟩ := List.getElem_of_mem hMem
  have hPort : index < (NodeModel.inputs n).length := h.length ▸ hIndex
  exact h.calm index _ _ (List.getElem?_eq_getElem hPort)
    (List.all_eq_true.mp hQuiet _ (List.getElem_mem hPort)) (List.getElem?_eq_getElem hIndex)

/-- The texts whose words in capitals stand in the code of a node, given its operands. -/
def pasted (n : StandardNode) (ctx : EmitContext) (operands : List String) : List String :=
  match n with
  | .input n => if n.type.isSampler then [] else [n.expression ctx]
  | .logic .fresnel => [operandOr (operands.getD 0 "") "NORMAL", operandOr (operands.getD 1 "") "VIEW"]
  | .uniform (.value u) => [u.name]
  | .uniform (.texture u) => [u.name, operands.getD 0 ""]
  | .texture n => ((n.sampler? ctx (operands.getD 2 "")).map fun s => [s, operands.getD 0 ""]).getD []
  | .cubeMap n =>
    match n.source with
    | .texture => [operands.getD 0 ""]
    | .samplerPort => if (operands.getD 2 "").isEmpty then [] else [operands.getD 2 "", operands.getD 0 ""]
  | _ => []

/-- Nodes whose code is made by this library alone, and that write no built-in. -/
def isPlain : StandardNode → Bool
  | .output _ | .expression _ | .globalExpression _ => false
  | _ => true

theorem mentions_body {word : String} (hWord : isCapital word.toList = true) {n : StandardNode}
    (hPlain : n.isPlain = true) {ctx : EmitContext} {operands results : List String} {code : List Statement}
    (hFed : n.IsFed operands)
    (hResults : ∀ text ∈ results, Calm text) (h : NodeModel.body n ctx operands results = .ok code) :
    Mentions (renderAll code) word ↔ ∃ text ∈ n.pasted ctx operands, Mentions text word := by
  have hCalm (hCode : Statement.IsCalm code) (hPasted : n.pasted ctx operands = []) :
      Mentions (renderAll code) word ↔ ∃ text ∈ n.pasted ctx operands, Mentions text word := by
    simp [hPasted, hCode.renderAll.not_mentions hWord]
  cases n with
  | output n | expression n | globalExpression n => cases hPlain
  | input n =>
    rw [InputNode.mentions_body hWord hResults h, pasted]
    split <;> simp_all
  | constant c => exact hCalm (Constant.isCalm_body hResults h) rfl
  | operator o => exact hCalm (Operator.isCalm_body (hFed.calm_of_quiet (by cases o <;> rfl)) hResults h) rfl
  | function f => exact hCalm (FunctionNode.isCalm_body (hFed.calm_of_quiet (by cases f <;> rfl)) hResults h) rfl
  | formula f =>
    cases h
    exact hCalm (f.isCalm_body (hFed.calm_of_quiet (by cases f <;> rfl)) hResults) rfl
  | logic l =>
    have hQuiet : l.inputs.all Port.isQuiet = true := by
      cases l with
      | compare c =>
        obtain ⟨type, relation, quantifier⟩ := c
        cases type <;> cases relation <;> rfl
      | _ => rfl
    have hOperands := hFed.calm_of_quiet hQuiet
    change l.body operands results = .ok code at h
    cases l with
    | fresnel =>
      simp only [LogicNode.body, Except.bind_eq_ok_iff, Except.pure_eq_ok_iff, operand_eq_ok_iff] at h
      obtain ⟨out, hOut, normal, hNormal, view, hView, invert, hInvert, power, hPower, rfl⟩ := h
      rw [Statement.mentions_assign_single hWord (hResults out (List.mem_of_getElem? hOut)),
        LogicNode.mentions_fresnelExpression hWord (hOperands invert (List.mem_of_getElem? hInvert))
          (hOperands power (List.mem_of_getElem? hPower))]
      simp [pasted, List.getD_eq_getElem?_getD, hNormal, hView]
    | order | vectorSwitch | scalarSwitch | floatTest _ | compare _ =>
      exact hCalm (LogicNode.isCalm_body (by simp) hOperands hResults h) rfl
  | uniform u =>
    cases u with
    | value u =>
      rw [ValueUniform.mentions_body hWord hResults h]
      simp [pasted]
    | texture u =>
      have hSecond : ∀ text, operands[1]? = some text → Calm text := by
        intro text hText
        obtain ⟨triplanar, name, texture, unbound, resource⟩ := u
        cases triplanar with
        | false => exact hFed.calm 1 Sampling.lodInput text rfl rfl hText
        | true => exact hFed.calm 1 (.input "pos" .vector3) text rfl rfl hText
      rw [TextureUniform.mentions_body hWord hSecond hResults h]
      simp [pasted]
    | cubeMap u =>
      cases h
      simp [pasted, not_mentions_nil]
  | texture n =>
    rw [TextureNode.mentions_body hWord (fun text => hFed.calm 1 Sampling.lodInput text rfl rfl) hResults h, pasted]
    cases n.sampler? ctx (operands.getD 2 "") <;> simp
  | cubeMap n =>
    rw [CubeMapNode.mentions_body hWord (fun text => hFed.calm 1 Sampling.lodInput text rfl rfl) hResults h, pasted,
      CubeMapNode.sampler]
    cases n.source with
    | texture =>
      have hOwn : Calm (CubeMapNode.ownSampler ctx) := ctx.calm_ownName (by decide)
      have hNe : CubeMapNode.ownSampler ctx ≠ "" := by simp [CubeMapNode.ownSampler, EmitContext.ownName]
      simp [hNe, hOwn.not_mentions hWord]
    | samplerPort =>
      obtain ⟨handed, hHanded⟩ : ∃ handed, operands[2]? = some handed :=
        ⟨_, List.getElem?_eq_getElem (by rw [hFed.length]; exact Nat.lt_succ_self 2)⟩
      simp only [operand_eq_ok_iff, hHanded, List.getD_eq_getElem?_getD]
      by_cases hEmpty : handed = "" <;> simp [hEmpty]

end StandardNode

/-! ## What nodes are fed -/

theorem calm_resultNames (id : NodeId) (n : StandardNode) : ∀ text ∈ resultNames id n, Calm text := by
  intro text hMem
  obtain ⟨v, hv, rfl⟩ := List.mem_map.mp hMem
  obtain ⟨⟨port, index⟩, -, rfl⟩ := List.mem_map.mp hv
  dsimp only
  split
  · decide
  · exact calm_outputVariable id index

theorem Single.fixed_ne_nil (x : Single) (decimals : Nat) : x.fixed decimals ≠ "" := by
  rw [fixed, signed]
  split <;> simp

theorem PortValue.literal_ne_nil {v : PortValue} {text : String} (h : v.literal = .ok text) : text ≠ "" := by
  cases v with
  | scalar x =>
    change x.literal = .ok text at h
    rw [Single.literal] at h
    split at h
    · cases h
      exact x.fixed_ne_nil 6
    · cases h
  | vector3 v =>
    simp only [literal, Vec3.literal, Except.bind_eq_ok_iff, Except.pure_eq_ok_iff] at h
    obtain ⟨components, -, rfl⟩ := h
    simp
  | boolean value =>
    cases h
    cases value <;> decide
  | transform t =>
    simp only [literal, Transform.literal, Except.bind_eq_ok_iff, Except.pure_eq_ok_iff] at h
    obtain ⟨_, -, _, -, _, -, _, -, rfl⟩ := h
    simp

namespace Operand

/-- A variable, the literal of a value or nothing. -/
inductive IsQuiet : Operand → Prop
  | wire (e : Edge) (widened : Bool) : IsQuiet (.wire e widened)
  | literal {value : PortValue} {text : String} (h : value.literal = .ok text) : IsQuiet (.literal text)
  | absent : IsQuiet .absent

theorem IsQuiet.calm {operand : Operand} (h : operand.IsQuiet) : Calm operand.text := by
  cases h with
  | wire e widened =>
    have hSource := calm_outputVariable e.source e.output
    rw [Operand.text]
    split
    · exact ((by decide : Calm "vec3(").append hSource).append (by decide)
    · exact hSource
  | literal h => exact PortValue.calm_literal h
  | absent => decide

theorem IsQuiet.text_eq_nil_iff {operand : Operand} (h : operand.IsQuiet) : operand.text = "" ↔ operand = .absent := by
  cases h with
  | wire e widened =>
    rw [Operand.text]
    split <;> simp [outputVariable]
  | literal h => simp [Operand.text, PortValue.literal_ne_nil h]
  | absent => simp [Operand.text]

end Operand

namespace StageGraph

variable {g : StageGraph StandardNode} {placed : PlacedNode StandardNode} {ctx : EmitContext}

/-- An operand is quiet, the hint of its port or a sampler. -/
theorem operandAt_cases {index : Nat} {port : Port} {operand : Operand}
    (h : g.operandAt placed ctx index port = .ok operand) :
    operand.IsQuiet ∨
    (∃ hint, port.hint? = some hint ∧ hint.appliesTo ctx.stage = true ∧ operand = .hint hint.expression) ∨
    ∃ e n, g.reading? ctx.id index = some e ∧ g.node? e.source = some n ∧ port.type.isSampler = true ∧
      operand = .sampler ((NodeModel.samplerName? n { ctx with id := e.source } e.output).getD "") := by
  rw [operandAt] at h
  split at h
  · rename_i e hReading
    rw [wired] at h
    split at h
    · rename_i n type hNode hType
      split_ifs at h with hAccepts hSampler
      · cases h
        refine .inr (.inr ⟨e, n, hReading, hNode, ?_, rfl⟩)
        simp only [Port.accepts, Bool.not_eq_true', Bool.not_eq_false, Bool.and_eq_true, Bool.or_eq_true,
          decide_eq_true_eq] at hAccepts
        rcases hAccepts.2 with hSame | ⟨-, rfl⟩
        · exact hSame ▸ hSampler
        · cases hSampler
      · cases h
        exact .inl (.wire e _)
    · cases h
  · rw [unwired] at h
    split at h
    · rename_i hint hHint
      cases h
      obtain ⟨hPort, hApplies⟩ := Option.filter_eq_some_iff.mp hHint
      exact .inr (.inl ⟨hint, hPort, hApplies, rfl⟩)
    · split at h
      · cases h
        exact .inl .absent
      · simp only [Except.mapError_eq_ok_iff, Except.map_eq_ok_iff] at h
        obtain ⟨text, hText, rfl⟩ := h
        exact .inl (.literal hText)

theorem operandAt_quiet {index : Nat} {port : Port} (hQuiet : port.isQuiet = true) {operand : Operand}
    (h : g.operandAt placed ctx index port = .ok operand) : operand.IsQuiet := by
  simp only [Port.isQuiet, Bool.and_eq_true, Option.isNone_iff_eq_none, Bool.not_eq_true'] at hQuiet
  obtain ⟨hHint, hValue⟩ := hQuiet
  rcases operandAt_cases h with hOperand | ⟨hint, hSome, -⟩ | ⟨e, n, -, -, hSampler, -⟩
  · exact hOperand
  · cases hHint.symm.trans hSome
  · rw [hValue] at hSampler
    cases hSampler

theorem isFed_of_operands {operands : List Operand} (h : g.operands placed ctx = .ok operands) :
    placed.node.IsFed (operands.map Operand.text) where
  length := by rw [List.length_map, length_operands h]
  calm index port text hPort hQuiet hText := by
    obtain ⟨operand, hGet, hOperand⟩ := operands_getElem? h hPort
    rw [List.getElem?_map, hGet] at hText
    cases hText
    exact (operandAt_quiet hQuiet hOperand).calm

end StageGraph

/-- A sampler that is handed on is nothing, a uniform or a built-in that is not withheld. -/
theorem StandardNode.samplerName?_getD_cases (n : StandardNode) (ctx : EmitContext) (port : Nat) :
    (NodeModel.samplerName? n ctx port).getD "" = "" ∨
    (∃ u, n = .uniform u ∧ (NodeModel.samplerName? n ctx port).getD "" = u.name) ∨
    ∃ i row, n = .input i ∧ i.builtin? = some row ∧ row.type.isSampler = true ∧ InputNode.isWithheld row ctx = false ∧
      (NodeModel.samplerName? n ctx port).getD "" = row.expression := by
  cases hName : NodeModel.samplerName? n ctx port with
  | none => exact .inl rfl
  | some name =>
    rcases samplerName?_eq_some_cases hName with ⟨u, rfl, hSame⟩ | ⟨i, row, rfl, hFind, hSampler, hSame⟩
    · exact .inr (.inl ⟨u, rfl, hSame⟩)
    · cases hWithheld : InputNode.isWithheld row ctx with
      | true => exact .inl (by simp [hSame, hWithheld])
      | false => exact .inr (.inr ⟨i, row, rfl, hFind, hSampler, hWithheld, by simp [hSame, hWithheld]⟩)

namespace Design.Emits

variable {d : Design StandardNode} {preview : Bool} {stage : Stage} {id : NodeId} {e : Emission} {n : StandardNode}

theorem exists_operand (h : d.Emits preview stage id (some e)) (hNode : (d.graph stage).node? id = some n) {index : Nat}
    {port : Port} (hPort : NodeModel.port? n .input index = some port) :
    ∃ placed operand, placed.node = n ∧ e.operands[index]? = some operand ∧
      (e.operands.map Operand.text).getD index "" = operand.text ∧
      (d.graph stage).operandAt placed ⟨d.mode, stage, id, preview⟩ index port = .ok operand := by
  obtain ⟨-, placed, hPlaced, hOperands, -, -⟩ := StageGraph.emitNode_eq_ok_some h
  obtain ⟨placed', hPlaced', rfl⟩ := StageGraph.node?_eq_some_iff.mp hNode
  cases hPlaced.symm.trans hPlaced'
  obtain ⟨operand, hGet, hOperand⟩ := StageGraph.operands_getElem? hOperands hPort
  refine ⟨placed, operand, rfl, hGet, ?_, hOperand⟩
  rw [List.getD_eq_getElem?_getD, List.getElem?_map, hGet]
  rfl

theorem body_eq (h : d.Emits preview stage id (some e)) (hNode : (d.graph stage).node? id = some n) :
    NodeModel.body n ⟨d.mode, stage, id, preview⟩ (e.operands.map Operand.text) (resultNames id n) = .ok e.code := by
  obtain ⟨-, placed, hPlaced, -, -, hBody⟩ := StageGraph.emitNode_eq_ok_some h
  obtain ⟨placed', hPlaced', rfl⟩ := StageGraph.node?_eq_some_iff.mp hNode
  cases hPlaced.symm.trans hPlaced'
  exact hBody

/-- The variables of a block are those of the outputs of its node that are no samplers. -/
theorem mem_locals_iff (h : d.Emits preview stage id (some e)) (hNode : (d.graph stage).node? id = some n)
    {v : LocalVariable} : v ∈ e.locals ↔ ∃ port index, NodeModel.port? n .output index = some port ∧
      port.type.isSampler = false ∧ v = ⟨port.type, outputVariable id index⟩ := by
  obtain ⟨-, placed, hPlaced, -, hLocals, -⟩ := StageGraph.emitNode_eq_ok_some h
  obtain ⟨placed', hPlaced', rfl⟩ := StageGraph.node?_eq_some_iff.mp hNode
  cases hPlaced.symm.trans hPlaced'
  rw [hLocals, ShadeGraph.mem_locals_iff]

theorem isFed (h : d.Emits preview stage id (some e)) (hNode : (d.graph stage).node? id = some n) :
    n.IsFed (e.operands.map Operand.text) := by
  obtain ⟨-, placed, hPlaced, hOperands, -, -⟩ := StageGraph.emitNode_eq_ok_some h
  obtain ⟨placed', hPlaced', rfl⟩ := StageGraph.node?_eq_some_iff.mp hNode
  cases hPlaced.symm.trans hPlaced'
  exact StageGraph.isFed_of_operands hOperands

/-- The words in capitals of the code that a node is emitted with are those of the texts that it pastes. -/
theorem mentions_code (h : d.Emits preview stage id (some e)) (hNode : (d.graph stage).node? id = some n)
    (hPlain : n.isPlain = true) {word : String} (hWord : isCapital word.toList = true) :
    Mentions (renderAll e.code) word ↔
      ∃ text ∈ n.pasted ⟨d.mode, stage, id, preview⟩ (e.operands.map Operand.text), Mentions text word :=
  StandardNode.mentions_body hWord hPlain (h.isFed hNode) (calm_resultNames id n) (h.body_eq hNode)

end Design.Emits

end ShadeGraph
