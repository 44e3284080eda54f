import ShadeGraph.Proofs.PreviewText

/-!
# Built-ins in a preview

A preview runs as a fragment of a canvas. Input nodes read substitutes there and samplers that do not exist are
withheld, so what nodes paste is mostly among the built-ins of a canvas fragment. It is not where a falloff has nothing
to compare, and where the position of a canvas vertex is shown.
-/

namespace ShadeGraph

open Text
open Statement (renderAll)

namespace StageBuiltin

/-- A word that some built-in of a mode and stage is written with. -/
def HasWord (mode : Mode) (stage : Stage) (word : String) : Prop :=
  ∃ row ∈ inputs mode stage, Mentions row.expression word

/-- The words in capitals that the built-ins of a canvas fragment are written with. -/
def canvasWords : List String :=
  ["FRAGCOORD", "UV", "COLOR", "MODULATE", "SCREEN_UV", "TEXTURE_PIXEL_SIZE", "SCREEN_PIXEL_SIZE", "POINT_COORD",
    "TIME", "AT_LIGHT_PASS", "TEXTURE", "NORMAL_TEXTURE", "SCREEN_TEXTURE"]

theorem hasWord_canvas_iff {word : String} (hWord : isCapital word.toList = true) :
    HasWord .canvas .fragment word ↔ word ∈ canvasWords := by
  have hAll : (((inputs .canvas .fragment).flatMap fun row => identifiers row.expression.toList).filter
    isCapital).dedup = canvasWords.map String.toList := by decide
  calc HasWord .canvas .fragment word
      ↔ word.toList ∈ (inputs .canvas .fragment).flatMap fun row => identifiers row.expression.toList := by
        rw [List.mem_flatMap]
        rfl
    _ ↔ word.toList ∈ canvasWords.map String.toList := by
        rw [← hAll, List.mem_dedup, List.mem_filter, and_iff_left hWord]
    _ ↔ word ∈ canvasWords := List.mem_map_of_injective fun _ _ => String.toList_inj.mp

theorem ne_of_mem_canvasWords {word name : String} (hWord : isCapital word.toList = true)
    (hNone : ¬HasWord .canvas .fragment word) (hMem : name ∈ canvasWords) : word ≠ name := by
  rintro rfl
  exact hNone ((hasWord_canvas_iff hWord).mpr hMem)

theorem HasSampler.hasWord {mode : Mode} {stage : Stage} {word : String} (h : HasSampler mode stage word) :
    HasWord mode stage word := by
  obtain ⟨row, hMem, hSampler, hName⟩ := h
  exact ⟨row, hMem, (mentions_of_isSampler hMem hSampler).mpr hName⟩

theorem hasSampler_iff_previewHas {expression : String} :
    HasSampler .canvas .fragment expression ↔ InputNode.previewHas expression = true := by
  simp [HasSampler, InputNode.previewHas]

/-- A substitute names no built-in or is one of a canvas fragment, but for the position of a canvas vertex. -/
theorem substitute_cases {mode : Mode} {stage : Stage} {row : StageBuiltin} (hMem : row ∈ substitutes mode stage) :
    Calm row.expression ∨ HasExpression .canvas .fragment row.expression ∨
      mode = .canvas ∧ stage = .vertex ∧ row = ⟨.vector3, "vertex", "vec3(VERTEX, 0.0)"⟩ := by
  have hAll : (substitutes mode stage).all (fun row => decide (Calm row.expression ∨
      HasExpression .canvas .fragment row.expression ∨
      mode = .canvas ∧ stage = .vertex ∧ row = ⟨.vector3, "vertex", "vec3(VERTEX, 0.0)"⟩)) = true := by
    cases mode <;> cases stage <;> decide
  exact of_decide_eq_true (List.all_eq_true.mp hAll row hMem)

end StageBuiltin

/-- What an input node shows names no built-in or is one of a canvas fragment, but for the position of a canvas
vertex. -/
theorem InputNode.expression_cases (n : InputNode) (ctx : EmitContext) (hPreview : ctx.preview = true) :
    Calm (n.expression ctx) ∨ StageBuiltin.HasExpression .canvas .fragment (n.expression ctx) ∨
      n.mode = .canvas ∧ n.stage = .vertex ∧ n.name = "vertex" := by
  rw [expression, if_pos hPreview]
  cases hRow : StageBuiltin.find? (StageBuiltin.substitutes n.mode n.stage) n.name with
  | none => exact .inl (PortType.calm_zeroLiteral _)
  | some row =>
    rcases StageBuiltin.substitute_cases (List.mem_of_find?_eq_some hRow) with hCalm | hHas | ⟨hMode, hStage, rfl⟩
    · exact .inl hCalm
    · exact .inr (.inl hHas)
    · exact .inr (.inr ⟨hMode, hStage, by simpa [eq_comm] using List.find?_some hRow⟩)

/-- The position of a canvas vertex is shown as it is. -/
theorem InputNode.expression_position {n : InputNode} (hMode : n.mode = .canvas) (hStage : n.stage = .vertex)
    (hName : n.name = "vertex") {ctx : EmitContext} (hPreview : ctx.preview = true) :
    n.expression ctx = "vec3(VERTEX, 0.0)" ∧ n.type.isSampler = false := by
  have hShown : StageBuiltin.find? (StageBuiltin.substitutes .canvas .vertex) "vertex" =
    some ⟨.vector3, "vertex", "vec3(VERTEX, 0.0)"⟩ := by decide
  have hRead : StageBuiltin.find? (StageBuiltin.inputs .canvas .vertex) "vertex" =
    some ⟨.vector3, "vertex", "vec3(VERTEX, 0.0)"⟩ := by decide
  constructor
  · rw [expression, if_pos hPreview, hMode, hStage, hName, hShown]
    rfl
  · rw [type, builtin?, hMode, hStage, hName, hRead]
    rfl

theorem mentions_position {word : String} (hWord : isCapital word.toList = true) :
    Mentions "vec3(VERTEX, 0.0)" word ↔ word = "VERTEX" :=
  mentions_iff_of_capitals hWord (by decide)

namespace Design

variable {d : Design StandardNode} {stage : Stage} {e : Emission}

/-- The built-ins that nodes read in a preview though a canvas fragment has none of them. -/
inductive Leaks (d : Design StandardNode) (stage : Stage) (e : Emission) : String → Prop
  | normal (hNode : (d.graph stage).node? e.id = some (.logic .fresnel)) (hOperand : e.operands[0]? = some .absent) :
      Leaks d stage e "NORMAL"
  | view (hNode : (d.graph stage).node? e.id = some (.logic .fresnel)) (hOperand : e.operands[1]? = some .absent) :
      Leaks d stage e "VIEW"
  | position {n : InputNode} (hNode : (d.graph stage).node? e.id = some (.input n)) (hMode : d.mode = .canvas)
      (hStage : stage = .vertex) (hName : n.name = "vertex") : Leaks d stage e "VERTEX"

theorem Leaks.word_mem {word : String} (h : d.Leaks stage e word) : word ∈ ["NORMAL", "VIEW", "VERTEX"] := by
  cases h <;> decide

theorem Reachable.bound_input (h : d.Reachable) {id : NodeId} {n : InputNode}
    (hNode : (d.graph stage).node? id = some (.input n)) : n.mode = d.mode ∧ n.stage = stage := by
  have hBound := (h.intact.anchored stage).bound id _ hNode
  obtain ⟨name, mode, stage'⟩ := n
  obtain ⟨-, rfl, rfl⟩ := InputNode.mk.inj (StandardNode.input.inj hBound)
  exact ⟨rfl, rfl⟩

/-- An input node with a sampler that no canvas fragment has feeds an input of a node. -/
def FedByMissing (d : Design StandardNode) (stage : Stage) (id : NodeId) (input : Nat) : Prop :=
  ∃ c ∈ (d.graph stage).edges, c.target = id ∧ c.input = input ∧
    ∃ i row, (d.graph stage).node? c.source = some (.input i) ∧ i.builtin? = some row ∧ row.type.isSampler = true ∧
      ¬StageBuiltin.HasSampler .canvas .fragment row.expression

theorem resultNames_getElem? {id : NodeId} {n : StandardNode} {index : Nat} {port : Port}
    (hPort : NodeModel.port? n .output index = some port) (hValue : port.type.isSampler = false) :
    (resultNames id n)[index]? = some (outputVariable id index) := by
  have hGet : (NodeModel.outputs n)[index]? = some port := hPort
  simp [resultNames, resultVariables, hGet, hValue]

section

variable (hReachable : d.Reachable) (hEmits : d.Emits true stage e.id (some e))

include hReachable hEmits

theorem Reachable.input_shown {n : InputNode} (hNode : (d.graph stage).node? e.id = some (.input n))
    (hValue : n.type.isSampler = false) : ∃ value, e.code = [.assign 0 (outputVariable e.id 0) value] ∧
      (StageBuiltin.HasExpression .canvas .fragment value ∨ Calm value ∨ d.Leaks stage e "VERTEX") := by
  have hBody : n.body ⟨d.mode, stage, e.id, true⟩ (resultNames e.id (StandardNode.input n)) = .ok e.code :=
    hEmits.body_eq hNode
  have hOutput : NodeModel.port? (StandardNode.input n) .output 0 = some (.output n.name n.type) := rfl
  rw [InputNode.body, if_neg (by simp [hValue])] at hBody
  simp only [Except.bind_eq_ok_iff, Except.pure_eq_ok_iff, operand_eq_ok_iff] at hBody
  obtain ⟨out, hOut, hCode⟩ := hBody
  rw [resultNames_getElem? hOutput hValue] at hOut
  cases hOut
  refine ⟨_, hCode.symm, ?_⟩
  rcases n.expression_cases ⟨d.mode, stage, e.id, true⟩ rfl with hCalm | hHas | ⟨hMode, hStage, hName⟩
  · exact .inr (.inl hCalm)
  · exact .inl hHas
  · obtain ⟨hSameMode, hSameStage⟩ := hReachable.bound_input hNode
    exact .inr (.inr (.position hNode (hSameMode ▸ hMode) (hSameStage ▸ hStage) hName))

/-- A texture node that is fed a sampler no canvas fragment has is handed nothing. -/
theorem Reachable.handed_of_fedByMissing {n : TextureNode} (hNode : (d.graph stage).node? e.id = some (.texture n))
    (hFed : d.FedByMissing stage e.id 2) : (e.operands.map Operand.text).getD 2 "" = "" := by
  obtain ⟨c, hEdge, hTarget, hInput, i, row, hSource, hRow, hSampler, hNone⟩ := hFed
  have hPort : NodeModel.port? (StandardNode.texture n) .input c.input = some (.input "sampler2D" .sampler2D) := by
    rw [hInput]
    rfl
  obtain ⟨-, -, -, hText⟩ := hEmits.getD_of_edge hReachable hNode hEdge hTarget hPort rfl hSource
  have hName : NodeModel.samplerName? (StandardNode.input i) ⟨d.mode, stage, c.source, true⟩ c.output = some "" := by
    change i.samplerName? _ = some ""
    rw [StageBuiltin.hasSampler_iff_previewHas] at hNone
    simp [InputNode.samplerName?, hRow, hSampler, InputNode.isWithheld, hNone]
  rw [← hInput, hText, hName]
  rfl

theorem Reachable.texture_shown {n : TextureNode} (hNode : (d.graph stage).node? e.id = some (.texture n))
    (hMissing : n.source = .depth ∨ n.source = .samplerPort ∧ d.FedByMissing stage e.id 2) :
    e.code = n.placeholder (outputVariable e.id 0) (outputVariable e.id 1) := by
  have hBody : n.body ⟨d.mode, stage, e.id, true⟩ (e.operands.map Operand.text)
    (resultNames e.id (StandardNode.texture n)) = .ok e.code := hEmits.body_eq hNode
  simp only [TextureNode.body, Except.bind_eq_ok_iff, Except.pure_eq_ok_iff, operand_eq_ok_iff] at hBody
  obtain ⟨uv, -, lod, -, handed, hHanded, color, hColor, alpha, hAlpha, hCode⟩ := hBody
  have hFirst : (resultNames e.id (StandardNode.texture n))[0]? = some (outputVariable e.id 0) := by
    refine resultNames_getElem? rfl ?_
    split <;> rfl
  have hSecond : (resultNames e.id (StandardNode.texture n))[1]? = some (outputVariable e.id 1) :=
    resultNames_getElem? rfl rfl
  cases hColor.symm.trans hFirst
  cases hAlpha.symm.trans hSecond
  rw [← hCode]
  refine TextureNode.statements_eq_placeholder ?_ ..
  rcases hMissing with hSource | ⟨hSource, hFed⟩
  · simp [TextureNode.sampler?, hSource]
  · have hNothing := hReachable.handed_of_fedByMissing hEmits hNode hFed
    rw [List.getD_eq_getElem?_getD, hHanded, Option.getD_some] at hNothing
    simp [TextureNode.sampler?, hSource, hNothing]

end

section

variable {word : String} (hWord : isCapital word.toList = true)

include hWord

/-- Where nothing feeds a quiet input its fallback is pasted. -/
theorem Emits.mentions_fallback {preview : Bool} {id : NodeId} (h : d.Emits preview stage id (some e))
    {n : StandardNode} (hNode : (d.graph stage).node? id = some n) {index : Nat} {port : Port}
    (hPort : NodeModel.port? n .input index = some port) (hQuiet : port.isQuiet = true) {fallback : String} :
    Mentions (operandOr ((e.operands.map Operand.text).getD index "") fallback) word ↔
      e.operands[index]? = some .absent ∧ Mentions fallback word := by
  obtain ⟨placed, operand, -, hGet, hText, hAt⟩ := h.exists_operand hNode hPort
  have hOperand := StageGraph.operandAt_quiet hQuiet hAt
  rw [hText, hGet, Option.some_inj, ← hOperand.text_eq_nil_iff, operandOr]
  split
  · rename_i hEmpty
    simp [String.isEmpty_iff.mp hEmpty]
  · rename_i hNe
    rw [String.isEmpty_iff] at hNe
    simp [hNe, hOperand.calm.not_mentions hWord]

variable (hEmits : d.Emits true stage e.id (some e))

include hEmits

theorem mentions_fresnel (hNode : (d.graph stage).node? e.id = some (.logic .fresnel)) :
    Mentions (renderAll e.code) word ↔ d.Leaks stage e word := by
  have hNormal : Mentions "NORMAL" word ↔ word = "NORMAL" := mentions_iff_of_capitals hWord (by decide)
  have hView : Mentions "VIEW" word ↔ word = "VIEW" := mentions_iff_of_capitals hWord (by decide)
  rw [hEmits.mentions_code hNode rfl hWord, StandardNode.pasted]
  simp only [List.exists_mem_cons_iff, List.not_mem_nil, false_and, exists_false, or_false]
  rw [hEmits.mentions_fallback hWord hNode rfl rfl, hEmits.mentions_fallback hWord hNode rfl rfl, hNormal,
    hView]
  constructor
  · rintro (⟨hAbsent, rfl⟩ | ⟨hAbsent, rfl⟩)
    · exact .normal hNode hAbsent
    · exact .view hNode hAbsent
  · rintro (⟨-, hAbsent⟩ | ⟨-, hAbsent⟩ | ⟨hInput⟩)
    · exact .inl ⟨hAbsent, rfl⟩
    · exact .inr ⟨hAbsent, rfl⟩
    · cases hNode.symm.trans hInput

variable (hReachable : d.Reachable)

include hReachable

theorem mentions_of_leaks (hLeaks : d.Leaks stage e word) : Mentions (renderAll e.code) word := by
  cases hLeaks with
  | normal hNode hOperand => exact (mentions_fresnel hWord hEmits hNode).mpr (.normal hNode hOperand)
  | view hNode hOperand => exact (mentions_fresnel hWord hEmits hNode).mpr (.view hNode hOperand)
  | position hNode hMode hStage hName =>
    obtain ⟨hSameMode, hSameStage⟩ := hReachable.bound_input hNode
    obtain ⟨hExpression, hValue⟩ := InputNode.expression_position (hSameMode.trans hMode) (hSameStage.trans hStage)
      hName (rfl : (EmitContext.mk d.mode stage e.id true).preview = true)
    rw [hEmits.mentions_code hNode rfl hWord, StandardNode.pasted, if_neg (by simp [hValue])]
    exact ⟨_, List.mem_singleton_self _, hExpression ▸ (mentions_position hWord).mpr rfl⟩

variable (hNone : ¬StageBuiltin.HasWord .canvas .fragment word)

include hNone

theorem leaks_of_mentions_input {n : InputNode} (hNode : (d.graph stage).node? e.id = some (.input n))
    (hMentions : Mentions (renderAll e.code) word) : d.Leaks stage e word := by
  rw [hEmits.mentions_code hNode rfl hWord, StandardNode.pasted] at hMentions
  obtain ⟨text, hText, hMentions⟩ := hMentions
  split_ifs at hText
  · cases hText
  · cases List.mem_singleton.mp hText
    rcases n.expression_cases ⟨d.mode, stage, e.id, true⟩ rfl with hCalm | ⟨row, hRow, hSame⟩ | ⟨hMode, hStage, hName⟩
    · exact absurd hMentions (hCalm.not_mentions hWord)
    · exact absurd ⟨row, hRow, hSame ▸ hMentions⟩ hNone
    · obtain ⟨hSameMode, hSameStage⟩ := hReachable.bound_input hNode
      rw [(InputNode.expression_position hMode hStage hName rfl).1, mentions_position hWord] at hMentions
      subst hMentions
      exact .position hNode (hSameMode ▸ hMode) (hSameStage ▸ hStage) hName

/-- A sampler that is handed on to a preview is a uniform, or a canvas fragment has it. -/
theorem fedByUniform_of_mentions {n : StandardNode} (hNode : (d.graph stage).node? e.id = some n) {index : Nat}
    {port : Port} (hPort : NodeModel.port? n .input index = some port) (hHint : port.hint? = none)
    (hMentions : Mentions ((e.operands.map Operand.text).getD index "") word) :
    d.FedByUniform stage e.id index word := by
  rcases hEmits.mentions_sampler hReachable hNode hPort hHint hWord hMentions with hFed | ⟨-, hShown⟩
  · exact hFed
  · exact absurd (StageBuiltin.hasSampler_iff_previewHas.mpr (hShown rfl)).hasWord hNone

theorem fedByUniform_of_mentions_texture {n : TextureNode} (hNode : (d.graph stage).node? e.id = some (.texture n))
    (hMentions : Mentions (renderAll e.code) word) : ∃ input, d.FedByUniform stage e.id input word := by
  have hUv : word ≠ "UV" := StageBuiltin.ne_of_mem_canvasWords hWord hNone (by decide)
  have hOther {name : String} (hListed : name ∈ StageBuiltin.samplers)
      (hHas : name ∈ StageBuiltin.canvasWords) : ¬Mentions name word := by
    rw [StageBuiltin.mentions_of_mem_samplers hListed, eq_comm]
    exact StageBuiltin.ne_of_mem_canvasWords hWord hNone hHas
  rw [hEmits.mentions_texture hNode hWord hUv] at hMentions
  obtain ⟨s, hSampler, hMentions⟩ := hMentions
  cases hSource : n.source with
  | texture =>
    rw [TextureNode.sampler?_of_texture hSource] at hSampler
    cases hSampler
    exact absurd hMentions ((EmitContext.calm_ownName _ (by decide)).not_mentions hWord)
  | samplerPort =>
    rw [TextureNode.sampler?_of_samplerPort hSource] at hSampler
    obtain ⟨-, hSame⟩ := Option.ite_none_left_eq_some.mp hSampler
    cases hSame
    exact ⟨2, fedByUniform_of_mentions hWord hEmits hReachable hNone hNode rfl rfl hMentions⟩
  | normalMap2D =>
    rw [TextureNode.sampler?_of_normalMap2D hSource] at hSampler
    obtain ⟨-, hSame⟩ := Option.ite_none_right_eq_some.mp hSampler
    cases hSame
    exact absurd hMentions (hOther (by decide) (by decide))
  | screen =>
    obtain ⟨-, hSame⟩ := Option.ite_none_left_eq_some.mp hSampler
    rw [hSource] at hSame
    cases hSame
    exact absurd hMentions (hOther (by decide) (by decide))
  | texture2D =>
    obtain ⟨-, hSame⟩ := Option.ite_none_left_eq_some.mp hSampler
    rw [hSource] at hSame
    cases hSame
    exact absurd hMentions (hOther (by decide) (by decide))
  | depth =>
    obtain ⟨-, hSame⟩ := Option.ite_none_left_eq_some.mp hSampler
    rw [hSource] at hSame
    cases hSame

theorem mentions_shown {n : StandardNode} (hNode : (d.graph stage).node? e.id = some n) (hPlain : n.isPlain = true)
    (hMentions : Mentions (renderAll e.code) word) :
    e.uniformName? = some word ∨ (∃ input, d.FedByUniform stage e.id input word) ∨ d.Leaks stage e word := by
  have hUv : word ≠ "UV" := StageBuiltin.ne_of_mem_canvasWords hWord hNone (by decide)
  have hValue {index : Nat} {port : Port} (hPort : NodeModel.port? n .input index = some port)
      (hType : port.type.isSampler = false) : ¬Mentions ((e.operands.map Operand.text).getD index "") word :=
    fun hMentions => hUv (hEmits.mentions_value hNode hPort hType hWord hMentions)
  have hPasted := (hEmits.mentions_code hNode hPlain hWord).mp hMentions
  cases n with
  | output n | expression n | globalExpression n => cases hPlain
  | constant n | operator n | function n | formula n => simp [StandardNode.pasted] at hPasted
  | input n => exact .inr (.inr (leaks_of_mentions_input hWord hEmits hReachable hNone hNode hMentions))
  | logic l =>
    cases l with
    | fresnel => exact .inr (.inr ((mentions_fresnel hWord hEmits hNode).mp hMentions))
    | order | vectorSwitch | scalarSwitch | floatTest _ | compare _ => simp [StandardNode.pasted] at hPasted
  | uniform u =>
    obtain ⟨m, hSame, hOf⟩ := StageGraph.exists_node_of_emitNode hEmits
    cases hNode.symm.trans hSame
    have hName (hMentions : Mentions u.name word) : e.uniformName? = some word := by
      rw [hOf.uniformName?, ← (mentions_of_isName (hReachable.isName hNode rfl)).mp hMentions]
      rfl
    cases u with
    | value u =>
      obtain ⟨_, hText, hMentions⟩ := hPasted
      cases List.mem_singleton.mp hText
      exact .inl (hName hMentions)
    | texture u =>
      have hFirst : ¬Mentions ((e.operands.map Operand.text).getD 0 "") word := by
        obtain ⟨triplanar, name, texture, unbound, resource⟩ := u
        cases triplanar <;> exact hValue rfl rfl
      simp only [StandardNode.pasted, List.exists_mem_cons_iff, hFirst, List.not_mem_nil, false_and, exists_false,
        or_false] at hPasted
      exact .inl (hName hPasted)
    | cubeMap u => simp [StandardNode.pasted] at hPasted
  | texture n => exact .inr (.inl (fedByUniform_of_mentions_texture hWord hEmits hReachable hNone hNode hMentions))
  | cubeMap n =>
    have hFirst : ¬Mentions ((e.operands.map Operand.text).getD 0 "") word := hValue rfl rfl
    cases hSource : n.source with
    | texture =>
      simp only [StandardNode.pasted, hSource, List.exists_mem_cons_iff, hFirst, List.not_mem_nil, false_and,
        exists_false, or_false] at hPasted
    | samplerPort =>
      simp only [StandardNode.pasted, hSource] at hPasted
      split at hPasted
      · simp at hPasted
      · simp only [List.exists_mem_cons_iff, hFirst, List.not_mem_nil, false_and, exists_false, or_false] at hPasted
        exact .inr (.inl ⟨2, fedByUniform_of_mentions hWord hEmits hReachable hNone hNode rfl rfl hPasted⟩)

end

/-- What is emitted for a preview comes from nodes whose ports are read. -/
theorem IsPlain.exists_node_of_mem (h : d.IsPlain) (hReachable : d.Reachable) {id : NodeId} {port : Nat}
    {type : PortType} (hType : (d.graph stage).outputType? id port = some type) {emissions : List Emission}
    (hEmit : d.emit true stage id = .ok emissions) (hMem : e ∈ emissions) :
    ∃ n, (d.graph stage).node? e.id = some n ∧ n.isPlain = true := by
  obtain ⟨order, hOrder, all, hAll, rfl⟩ := emit_eq_ok_iff.mp hEmit
  have hId : e.id ∈ order := (ids_sublist_order hAll).subset (List.mem_map_of_mem hMem)
  obtain ⟨port', type', hRead⟩ : ∃ port type, (d.graph stage).outputType? e.id port = some type := by
    rcases hReachable.eq_or_read_of_mem_order (isRoot_of_outputType? hType) hOrder hId with hSame | hRead
    · exact ⟨port, type, hSame ▸ hType⟩
    · exact hRead
  obtain ⟨n, hNode, p, hPort, -⟩ := StageGraph.outputType?_eq_some_iff.mp hRead
  refine ⟨n, hNode, ?_⟩
  have hCode := h stage e.id n hNode
  cases n with
  | output n => cases hPort
  | expression n | globalExpression n => cases hCode
  | _ => rfl

/-- Let a preview without code of the user's own be shown. A built-in that no canvas fragment has stands in it exactly
if a uniform has taken its name, a falloff lacks an operand, or the position of a canvas vertex is shown. An input node
shows a built-in of a canvas fragment, a value without built-ins or that position. A texture node that would read a
sampler no canvas fragment has gives its placeholder. -/
theorem preview_reads_canvas_builtins (hReachable : d.Reachable) (hPlain : d.IsPlain) {id : NodeId} {port : Nat}
    {shader : Shader} (hShown : d.preview? stage id port = some shader) {emissions : List Emission}
    (hEmit : d.emit true stage id = .ok emissions) :
    (∀ word, isCapital word.toList = true → ¬StageBuiltin.HasWord .canvas .fragment word →
      (Mentions shader.source word ↔ ∃ e ∈ emissions, e.uniformName? = some word ∨ d.Leaks stage e word)) ∧
    ∀ e ∈ emissions,
      (∀ n, (d.graph stage).node? e.id = some (.input n) → n.type.isSampler = false →
        ∃ value, e.code = [.assign 0 (outputVariable e.id 0) value] ∧
          (StageBuiltin.HasExpression .canvas .fragment value ∨ Calm value ∨ d.Leaks stage e "VERTEX")) ∧
      ∀ n, (d.graph stage).node? e.id = some (.texture n) →
        n.source = .depth ∨ n.source = .samplerPort ∧ d.FedByMissing stage e.id 2 →
        e.code = n.placeholder (outputVariable e.id 0) (outputVariable e.id 1) := by
  obtain ⟨type, hType, -⟩ := Option.bind_eq_some_iff.mp hShown
  refine ⟨fun word hWord hNone => ?_, fun e hMem => ?_⟩
  · have hColor : word ≠ "COLOR" := StageBuiltin.ne_of_mem_canvasWords hWord hNone (by decide)
    rw [hPlain.mentions_preview hReachable hShown hEmit hWord hColor]
    constructor
    · rintro ⟨e, hMem, hUniform | hMentions⟩
      · exact ⟨e, hMem, .inl hUniform⟩
      · obtain ⟨n, hNode, hNodePlain⟩ := hPlain.exists_node_of_mem hReachable hType hEmit hMem
        rcases mentions_shown hWord (emits_of_mem hEmit hMem) hReachable hNone hNode hNodePlain hMentions with
          hUniform | ⟨input, hFed⟩ | hLeaks
        · exact ⟨e, hMem, .inl hUniform⟩
        · obtain ⟨s, hEmitted, hUniform⟩ := hFed.exists_emission hEmit hMem
          exact ⟨s, hEmitted, .inl hUniform⟩
        · exact ⟨e, hMem, .inr hLeaks⟩
    · rintro ⟨e, hMem, hUniform | hLeaks⟩
      · exact ⟨e, hMem, .inl hUniform⟩
      · exact ⟨e, hMem, .inr (mentions_of_leaks hWord (emits_of_mem hEmit hMem) hReachable hLeaks)⟩
  · have hEmits := emits_of_mem hEmit hMem
    exact ⟨fun n hNode => hReachable.input_shown hEmits hNode, fun n hNode => hReachable.texture_shown hEmits hNode⟩

/-- A falloff whose power is the depth. -/
def facing : Design StandardNode :=
  (Design.empty .spatial).edited
    [.add .fragment 2 .origin (.texture { source := .depth }), .add .fragment 3 .origin (.logic .fresnel),
      .connect .fragment ⟨2, 0, 3, 3⟩]

theorem reachable_facing : facing.Reachable := .edited (.new .spatial) (by decide)

theorem preview_reads_canvas_builtins_facing :
    facing.Reachable ∧ facing.IsPlain ∧ ∃ shader first second, facing.preview? .fragment 3 0 = some shader ∧
      facing.emit true .fragment 3 = .ok [first, second] ∧
      ¬StageBuiltin.HasWord .canvas .fragment "NORMAL" ∧ Mentions shader.source "NORMAL" ∧
      ¬StageBuiltin.HasWord .canvas .fragment "DEPTH_TEXTURE" ∧ ¬Mentions shader.source "DEPTH_TEXTURE" ∧
      first.code = [.assign 0 "n2_0" "0.0", .assign 0 "n2_1" "1.0"] := by
  have hPlain : facing.IsPlain := by decide +kernel
  have hView : (facing.emit true .fragment 3).map (·.map fun e => (e.id, e.operands, e.uniformName?)) =
      .ok [(2, [.hint "vec3(UV, 0.0)", .absent, .absent], none),
        (3, [.absent, .absent, .literal "false", .wire ⟨2, 0, 3, 3⟩ false], none)] := by decide +kernel
  have hTexture : (facing.graph .fragment).node? 2 = some (.texture { source := .depth }) := by decide +kernel
  have hFalloff : (facing.graph .fragment).node? 3 = some (.logic .fresnel) := by decide +kernel
  have hNormal : ¬StageBuiltin.HasWord .canvas .fragment "NORMAL" :=
    (StageBuiltin.hasWord_canvas_iff (by decide)).not.mpr (by decide)
  have hDepth : ¬StageBuiltin.HasWord .canvas .fragment "DEPTH_TEXTURE" :=
    (StageBuiltin.hasWord_canvas_iff (by decide)).not.mpr (by decide)
  obtain ⟨shader, hShown⟩ : ∃ shader, facing.preview? .fragment 3 0 = some shader :=
    Option.isSome_iff_exists.mp (by decide +kernel)
  obtain ⟨emissions, hEmit, hMap⟩ := Except.map_eq_ok_iff.mp hView
  obtain ⟨first, _, rfl, hFirst, hMap⟩ := List.map_eq_cons_iff.mp hMap
  obtain ⟨second, _, rfl, hSecond, hMap⟩ := List.map_eq_cons_iff.mp hMap
  cases List.map_eq_nil_iff.mp hMap
  simp only [Prod.mk.injEq] at hFirst hSecond
  obtain ⟨hFirstId, -, hFirstName⟩ := hFirst
  obtain ⟨hSecondId, hOperands, hSecondName⟩ := hSecond
  obtain ⟨hWords, hCode⟩ := preview_reads_canvas_builtins reachable_facing hPlain hShown hEmit
  refine ⟨reachable_facing, hPlain, shader, first, second, hShown, hEmit, hNormal, ?_, hDepth, ?_, ?_⟩
  · refine (hWords "NORMAL" (by decide) hNormal).mpr ⟨second, by simp, .inr (.normal (hSecondId ▸ hFalloff) ?_)⟩
    rw [hOperands]
    rfl
  · rw [hWords "DEPTH_TEXTURE" (by decide) hDepth]
    rintro ⟨e, hMem, hName | hLeaks⟩
    · simp only [List.mem_cons, List.not_mem_nil, or_false] at hMem
      rcases hMem with rfl | rfl
      · cases hFirstName.symm.trans hName
      · cases hSecondName.symm.trans hName
    · exact absurd hLeaks.word_mem (by decide)
  · have hPlaceholder := (hCode first List.mem_cons_self).2 _ (hFirstId ▸ hTexture) (.inl rfl)
    rw [hPlaceholder, hFirstId]
    decide +kernel

/-- The position of the vertices of a canvas. -/
def outline : Design StandardNode :=
  (Design.empty .canvas).edited [.add .vertex 2 .origin (.input { name := "vertex" })]

/-- The previews of a falloff and of the position of a canvas vertex read what no canvas fragment has. -/
theorem preview_reads_missing_builtins :
    (facing.Reachable ∧ facing.IsPlain ∧ (facing.preview? .fragment 3 0).isSome = true ∧
      (facing.emit true .fragment 3).map (·.map (renderAll ·.code)) = .ok ["n2_0 = 0.0;\nn2_1 = 1.0;\n",
        "n3_0 = false ? pow(clamp(dot(NORMAL, VIEW), 0.0, 1.0), n2_0) : " ++
          "pow(1.0 - clamp(dot(NORMAL, VIEW), 0.0, 1.0), n2_0);\n"] ∧
      ¬StageBuiltin.HasWord .canvas .fragment "NORMAL" ∧ ¬StageBuiltin.HasWord .canvas .fragment "VIEW") ∧
    (outline.Reachable ∧ outline.IsPlain ∧ (outline.preview? .vertex 2 0).isSome = true ∧
      (outline.emit true .vertex 2).map (·.map (renderAll ·.code)) = .ok ["n2_0 = vec3(VERTEX, 0.0);\n"] ∧
      ¬StageBuiltin.HasWord .canvas .fragment "VERTEX") := by
  have hOutline : outline.Reachable := .edited (.new .canvas) (by decide)
  have hNone {word : String} (hWord : isCapital word.toList = true) (hOther : word ∉ StageBuiltin.canvasWords) :
    ¬StageBuiltin.HasWord .canvas .fragment word := (StageBuiltin.hasWord_canvas_iff hWord).not.mpr hOther
  exact ⟨⟨reachable_facing, by decide +kernel, by decide +kernel, by decide +kernel, hNone (by decide) (by decide),
      hNone (by decide) (by decide)⟩,
    hOutline, by decide +kernel, by decide +kernel, by decide +kernel, hNone (by decide) (by decide)⟩

end Design

end ShadeGraph
