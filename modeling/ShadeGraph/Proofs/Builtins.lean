import ShadeGraph.Proofs.Contributions
import ShadeGraph.Proofs.Mentions

/-!
# Built-ins in a compile

A hint stands for the coordinates of the vertex and fragment stages, whatever the mode; particles have none. A texture
node asks for the stage of every built-in sampler but that of normal maps.
-/

namespace ShadeGraph

open Text
open Statement (renderAll)

namespace StageBuiltin

/-- The samplers among the built-ins that a texture node may read. -/
def samplers : List String := ["SCREEN_TEXTURE", "TEXTURE", "NORMAL_TEXTURE", "DEPTH_TEXTURE"]

/-- A sampler of the name is among the built-ins of a mode and stage. -/
def HasSampler (mode : Mode) (stage : Stage) (name : String) : Prop :=
  ∃ row ∈ inputs mode stage, row.type.isSampler = true ∧ row.expression = name

instance (mode : Mode) (stage : Stage) (name : String) : Decidable (HasSampler mode stage name) :=
  inferInstanceAs (Decidable (∃ row ∈ _, _))

/-- What is written so is among the built-ins of a mode and stage. -/
def HasExpression (mode : Mode) (stage : Stage) (expression : String) : Prop :=
  ∃ row ∈ inputs mode stage, row.expression = expression

instance (mode : Mode) (stage : Stage) (expression : String) : Decidable (HasExpression mode stage expression) :=
  inferInstanceAs (Decidable (∃ row ∈ _, _))

theorem isCapital_of_mem_samplers {name : String} (h : name ∈ samplers) : isCapital name.toList = true := by
  have hAll : samplers.all (isCapital ·.toList) = true := by decide
  exact List.all_eq_true.mp hAll name h

theorem mentions_of_mem_samplers {name word : String} (h : name ∈ samplers) : Mentions name word ↔ name = word := by
  have hAll : samplers.all (fun name => identifiers name.toList = [name.toList]) = true := by decide
  have hName := of_decide_eq_true (List.all_eq_true.mp hAll name h)
  rw [Mentions, hName, List.mem_singleton, String.toList_inj, eq_comm]

theorem ne_uv_of_mem_samplers {name : String} (h : name ∈ samplers) : name ≠ "UV" := by
  rintro rfl
  exact absurd h (by decide)

theorem mentions_of_isSampler {mode : Mode} {stage : Stage} {row : StageBuiltin} (hMem : row ∈ inputs mode stage)
    (hSampler : row.type.isSampler = true) {word : String} : Mentions row.expression word ↔ row.expression = word := by
  have hAll : (inputs mode stage).all (fun row => !row.type.isSampler || samplers.contains row.expression) = true := by
    cases mode <;> cases stage <;> decide
  have hRow := List.all_eq_true.mp hAll row hMem
  rw [hSampler, Bool.not_true, Bool.false_or, List.contains_iff_mem] at hRow
  exact mentions_of_mem_samplers hRow

theorem hasExpression_coordinates (mode : Mode) {stage : Stage} (hStage : Hint.coordinates.appliesTo stage = true) :
    HasExpression mode stage Hint.coordinates.expression ↔ mode ≠ .particles := by
  cases mode <;> cases stage <;> first | decide | cases hStage

end StageBuiltin

theorem mentions_coordinates {word : String} (hWord : isCapital word.toList = true) :
    Mentions Hint.coordinates.expression word ↔ word = "UV" :=
  mentions_iff_of_capitals hWord (by decide)

/-- A port of a uniform that carries a sampler hands on the uniform's name. -/
theorem UniformNode.samplerName?_eq {u : UniformNode} {index : Nat} {port : Port}
    (hPort : u.outputs[index]? = some port) (hSampler : port.type.isSampler = true) :
    u.samplerName? index = some u.name := by
  cases u with
  | value u =>
    have hNone : u.outputs.all (!·.type.isSampler) = true := by
      obtain ⟨type, name⟩ := u
      cases type <;> rfl
    have hPlain := List.all_eq_true.mp hNone port (List.mem_of_getElem? hPort)
    simp [hSampler] at hPlain
  | texture u =>
    match index, hPort with
    | 0, hPort | 1, hPort =>
      cases hPort
      cases hSampler
    | 2, _ => rfl
  | cubeMap u =>
    match index, hPort with
    | 0, _ => rfl

/-- A texture node that asks for the stage reads what the stage has. -/
theorem TextureNode.hasSampler_of_sampler? {n : TextureNode} {ctx : EmitContext} {handed s : String}
    (h : n.sampler? ctx handed = some s) (hSource : n.source ∈ [TextureSource.screen, .texture2D, .depth]) :
    s ∈ StageBuiltin.samplers ∧ StageBuiltin.HasSampler ctx.mode ctx.stage s := by
  obtain ⟨mode, stage, id, preview⟩ := ctx
  rw [sampler?] at h
  split at h
  · cases h
  · rename_i hAvailable
    simp only [List.mem_cons, List.not_mem_nil, or_false] at hSource
    rcases hSource with hSource | hSource | hSource
    · simp only [isAvailable, hSource, Bool.not_eq_true', Bool.not_eq_false, Bool.and_eq_true, Bool.or_eq_true,
        decide_eq_true_eq] at hAvailable
      simp only [hSource, Option.some.injEq] at h
      obtain ⟨rfl | rfl, rfl⟩ := hAvailable
      · subst h
        dsimp only
        decide
      · subst h
        dsimp only
        decide
    · simp only [isAvailable, hSource, Bool.not_eq_true', Bool.not_eq_false, Bool.and_eq_true,
        decide_eq_true_eq] at hAvailable
      simp only [hSource, Option.some.injEq] at h
      obtain ⟨rfl, rfl⟩ := hAvailable
      subst h
      dsimp only
      decide
    · simp only [isAvailable, hSource, Bool.not_eq_true', Bool.not_eq_false, Bool.and_eq_true,
        decide_eq_true_eq] at hAvailable
      simp only [hSource, Option.ite_none_left_eq_some, Option.some.injEq] at h
      obtain ⟨rfl, rfl⟩ := hAvailable
      obtain ⟨-, rfl⟩ := h
      dsimp only
      decide

namespace Design

variable {d : Design StandardNode} {preview : Bool} {stage : Stage} {id : NodeId} {e : Emission}

/-- A uniform of the name feeds an input of a node. -/
def FedByUniform (d : Design StandardNode) (stage : Stage) (id : NodeId) (input : Nat) (name : String) : Prop :=
  ∃ c ∈ (d.graph stage).edges, c.target = id ∧ c.input = input ∧
    ∃ u, (d.graph stage).node? c.source = some (.uniform u) ∧ u.name = name

/-- A uniform that feeds what is emitted is emitted. -/
theorem FedByUniform.exists_emission {preview : Bool} {root : NodeId} {input : Nat} {name : String}
    (h : d.FedByUniform stage e.id input name) {emissions : List Emission}
    (hEmit : d.emit preview stage root = .ok emissions) (hMem : e ∈ emissions) :
    ∃ s ∈ emissions, s.uniformName? = some name := by
  obtain ⟨c, hEdge, hTarget, -, u, hSource, rfl⟩ := h
  obtain ⟨s, hEmitted, hEmits⟩ := exists_emission_of_edge hEmit hMem hEdge hTarget ⟨_, hSource, rfl⟩
  obtain ⟨n, hNode, hOf⟩ := StageGraph.exists_node_of_emitNode hEmits
  cases hSource.symm.trans hNode
  exact ⟨s, hEmitted, hOf.uniformName?⟩

theorem Emits.hint_of_mem (h : d.Emits preview stage id (some e)) {expression : String}
    (hMem : .hint expression ∈ e.operands) :
    expression = Hint.coordinates.expression ∧ Hint.coordinates.appliesTo stage = true := by
  obtain ⟨-, placed, hPlaced, hOperands, -⟩ := StageGraph.emitNode_eq_ok_some h
  obtain ⟨index, hIndex, hOperand⟩ := List.getElem_of_mem hMem
  have hPort : index < (NodeModel.inputs placed.node).length := StageGraph.length_operands hOperands ▸ hIndex
  have hGet : NodeModel.port? placed.node .input index = some (NodeModel.inputs placed.node)[index] :=
    List.getElem?_eq_getElem hPort
  obtain ⟨operand, hSame, hAt⟩ := StageGraph.operands_getElem? hOperands hGet
  rw [List.getElem?_eq_getElem hIndex, hOperand] at hSame
  cases hSame
  rcases StageGraph.operandAt_cases hAt with hQuiet | ⟨hint, hHint, hApplies, hSame⟩ | ⟨_, _, -, -, -, hSame⟩
  · cases hQuiet
  · cases hSame
    cases StandardNode.hint?_eq (List.getElem_mem hPort) hHint
    exact ⟨rfl, hApplies⟩
  · cases hSame

/-- What feeds an input that takes a value holds no built-in but the coordinates. -/
theorem Emits.mentions_value (h : d.Emits preview stage id (some e)) {n : StandardNode}
    (hNode : (d.graph stage).node? id = some n) {index : Nat} {port : Port}
    (hPort : NodeModel.port? n .input index = some port) (hValue : port.type.isSampler = false) {word : String}
    (hWord : isCapital word.toList = true) (hMentions : Mentions ((e.operands.map Operand.text).getD index "") word) :
    word = "UV" := by
  obtain ⟨placed, operand, -, -, hText, hAt⟩ := h.exists_operand hNode hPort
  rw [hText] at hMentions
  rcases StageGraph.operandAt_cases hAt with hQuiet | ⟨hint, hHint, -, rfl⟩ | ⟨_, _, -, -, hSampler, -⟩
  · exact absurd hMentions (hQuiet.calm.not_mentions hWord)
  · cases StandardNode.hint?_eq (List.mem_of_getElem? hPort) hHint
    exact (mentions_coordinates hWord).mp hMentions
  · rw [hValue] at hSampler
    cases hSampler

/-- What feeds a sampler input is a uniform or a built-in of the stage, which in a preview exists there too. -/
theorem Emits.mentions_sampler (h : d.Emits preview stage id (some e)) (hReachable : d.Reachable) {n : StandardNode}
    (hNode : (d.graph stage).node? id = some n) {index : Nat} {port : Port}
    (hPort : NodeModel.port? n .input index = some port) (hHint : port.hint? = none) {word : String}
    (hWord : isCapital word.toList = true) (hMentions : Mentions ((e.operands.map Operand.text).getD index "") word) :
    d.FedByUniform stage id index word ∨
      StageBuiltin.HasSampler d.mode stage word ∧ (preview = true → InputNode.previewHas word = true) := by
  obtain ⟨placed, operand, -, -, hText, hAt⟩ := h.exists_operand hNode hPort
  rw [hText] at hMentions
  rcases StageGraph.operandAt_cases hAt with hQuiet | ⟨hint, hSome, -⟩ | ⟨c, source, hReading, hSource, -, rfl⟩
  · exact absurd hMentions (hQuiet.calm.not_mentions hWord)
  · cases hHint.symm.trans hSome
  · obtain ⟨hEdge, hTarget, hInput⟩ := (hReachable.wired stage).reading?_eq_some_iff.mp hReading
    rw [Operand.text] at hMentions
    rcases source.samplerName?_getD_cases ⟨d.mode, stage, c.source, preview⟩ c.output with
      hName | ⟨u, rfl, hName⟩ | ⟨i, row, rfl, hRow, hSampler, hWithheld, hName⟩
    · rw [hName] at hMentions
      exact absurd hMentions ((by decide : Calm "").not_mentions hWord)
    · rw [hName, mentions_of_isName (hReachable.isName hSource rfl)] at hMentions
      exact .inl ⟨c, hEdge, hTarget, hInput, u, hSource, hMentions⟩
    · have hBound := (hReachable.intact.anchored stage).bound c.source _ hSource
      obtain ⟨name, mode, stage'⟩ := i
      obtain ⟨-, rfl, rfl⟩ := InputNode.mk.inj (StandardNode.input.inj hBound)
      have hMem := List.mem_of_find?_eq_some hRow
      rw [hName, StageBuiltin.mentions_of_isSampler hMem hSampler] at hMentions
      refine .inr ⟨⟨row, hMem, hSampler, hMentions⟩, ?_⟩
      rintro rfl
      simpa [InputNode.isWithheld, hSampler, hMentions] using hWithheld

/-- A sampler input that an edge feeds holds the sampler at the source of the edge. -/
theorem Emits.getD_of_edge (h : d.Emits preview stage id (some e)) (hReachable : d.Reachable) {n : StandardNode}
    (hNode : (d.graph stage).node? id = some n) {c : Edge} (hEdge : c ∈ (d.graph stage).edges) (hTarget : c.target = id)
    {port : Port} (hPort : NodeModel.port? n .input c.input = some port) (hSampler : port.type.isSampler = true)
    {source : StandardNode} (hSource : (d.graph stage).node? c.source = some source) :
    ∃ p, NodeModel.port? source .output c.output = some p ∧ p.type.isSampler = true ∧
      (e.operands.map Operand.text).getD c.input "" =
        (NodeModel.samplerName? source ⟨d.mode, stage, c.source, preview⟩ c.output).getD "" := by
  subst hTarget
  obtain ⟨placed, operand, -, -, hText, hAt⟩ := h.exists_operand hNode hPort
  rw [hText]
  have hWired := hReachable.wired stage
  obtain ⟨⟨type, hType⟩, -⟩ := StageGraph.inRange_iff.mp (hWired.inRange c hEdge)
  rw [StageGraph.operandAt, hWired.reading?_eq hEdge] at hAt
  simp only [StageGraph.wired, hSource, hType] at hAt
  split_ifs at hAt with hAccepts hValue
  · cases hAt
    obtain ⟨_, hSame, p, hOutput, rfl⟩ := StageGraph.outputType?_eq_some_iff.mp hType
    cases hSource.symm.trans hSame
    exact ⟨p, hOutput, hValue, rfl⟩
  · have hInput := n.isInput_of_mem_inputs port (List.mem_of_getElem? hPort)
    have hFeeds := hInput.feeds_of_accepts (by simpa using hAccepts)
    cases hKind : port.type <;> cases type <;> simp_all [PortType.feeds, PortType.isSampler]

theorem Emits.getD_of_fedByUniform (h : d.Emits preview stage id (some e)) (hReachable : d.Reachable) {n : StandardNode}
    (hNode : (d.graph stage).node? id = some n) {index : Nat} {port : Port}
    (hPort : NodeModel.port? n .input index = some port) (hSampler : port.type.isSampler = true) {name : String}
    (hFed : d.FedByUniform stage id index name) : (e.operands.map Operand.text).getD index "" = name := by
  obtain ⟨c, hEdge, hTarget, rfl, u, hSource, rfl⟩ := hFed
  obtain ⟨p, hOutput, hValue, hText⟩ := h.getD_of_edge hReachable hNode hEdge hTarget hPort hSampler hSource
  have hName : NodeModel.samplerName? (StandardNode.uniform u) ⟨d.mode, stage, c.source, preview⟩ c.output =
    some u.name := UniformNode.samplerName?_eq hOutput hValue
  rw [hText, hName]
  rfl

theorem Emits.mentions_texture (h : d.Emits preview stage id (some e)) {n : TextureNode}
    (hNode : (d.graph stage).node? id = some (.texture n)) {word : String} (hWord : isCapital word.toList = true)
    (hUv : word ≠ "UV") : Mentions (renderAll e.code) word ↔
      ∃ s, n.sampler? ⟨d.mode, stage, id, preview⟩ ((e.operands.map Operand.text).getD 2 "") = some s ∧
        Mentions s word := by
  have hCoordinate : ¬Mentions ((e.operands.map Operand.text).getD 0 "") word := fun hMentions =>
    hUv (h.mentions_value hNode rfl rfl hWord hMentions)
  rw [h.mentions_code hNode rfl hWord, StandardNode.pasted]
  cases n.sampler? ⟨d.mode, stage, id, preview⟩ ((e.operands.map Operand.text).getD 2 "") with
  | none => simp
  | some s =>
    simp only [Option.map_some, Option.getD_some, List.exists_mem_cons_iff, hCoordinate, List.not_mem_nil, false_and,
      exists_false, or_false, Option.some.injEq, exists_eq_left']

section

variable {n : TextureNode} {name : String} (hName : name ∈ StageBuiltin.samplers)

include hName

/-- What is handed to a texture node and read there is a uniform of the name, if the stage has no such sampler. -/
theorem Emits.mentions_handed (h : d.Emits preview stage id (some e)) (hReachable : d.Reachable)
    (hNode : (d.graph stage).node? id = some (.texture n)) (hSource : n.source = .samplerPort)
    (hNone : ¬StageBuiltin.HasSampler d.mode stage name) :
    Mentions (renderAll e.code) name ↔ d.FedByUniform stage id 2 name := by
  have hWord := StageBuiltin.isCapital_of_mem_samplers hName
  simp only [h.mentions_texture hNode hWord (StageBuiltin.ne_uv_of_mem_samplers hName),
    TextureNode.sampler?_of_samplerPort hSource, Option.ite_none_left_eq_some, Option.some.injEq]
  constructor
  · rintro ⟨_, ⟨-, rfl⟩, hMentions⟩
    exact (h.mentions_sampler hReachable hNode rfl rfl hWord hMentions).resolve_right fun hHas => hNone hHas.1
  · intro hFed
    rw [h.getD_of_fedByUniform hReachable hNode rfl rfl hFed]
    refine ⟨name, ⟨?_, rfl⟩, (StageBuiltin.mentions_of_mem_samplers hName).mpr rfl⟩
    rw [String.isEmpty_iff]
    rintro rfl
    cases hWord

/-- The normal map is read in every stage of a canvas. -/
theorem Emits.mentions_normalMap (h : d.Emits preview stage id (some e))
    (hNode : (d.graph stage).node? id = some (.texture n)) (hSource : n.source = .normalMap2D) :
    Mentions (renderAll e.code) name ↔ d.mode = .canvas ∧ name = "NORMAL_TEXTURE" := by
  have hNormal : "NORMAL_TEXTURE" ∈ StageBuiltin.samplers := by decide
  simp only [h.mentions_texture hNode (StageBuiltin.isCapital_of_mem_samplers hName)
      (StageBuiltin.ne_uv_of_mem_samplers hName), TextureNode.sampler?_of_normalMap2D hSource,
    Option.ite_none_right_eq_some, Option.some.injEq]
  constructor
  · rintro ⟨_, ⟨hMode, rfl⟩, hMentions⟩
    exact ⟨hMode, ((StageBuiltin.mentions_of_mem_samplers hNormal).mp hMentions).symm⟩
  · rintro ⟨hMode, rfl⟩
    exact ⟨_, ⟨hMode, rfl⟩, (StageBuiltin.mentions_of_mem_samplers hNormal).mpr rfl⟩

end

/-- Let a stage be compiled. A hint that stands in for an operand is among the built-ins of the stage exactly if the
mode is not that of particles. A texture node reads a built-in sampler that the stage lacks exactly if it reads the
normal map of a canvas, or if a uniform that has taken the sampler's name feeds it. -/
theorem compile_reads_existing_builtins (hReachable : d.Reachable) {emissions : List Emission}
    (hEmit : d.emit false stage .output = .ok emissions) (hMem : e ∈ emissions) :
    (∀ expression, .hint expression ∈ e.operands →
      (StageBuiltin.HasExpression d.mode stage expression ↔ d.mode ≠ .particles)) ∧
    ∀ n, (d.graph stage).node? e.id = some (.texture n) → ∀ name ∈ StageBuiltin.samplers,
      ¬StageBuiltin.HasSampler d.mode stage name →
        (Mentions (renderAll e.code) name ↔
          d.mode = .canvas ∧ n.source = .normalMap2D ∧ name = "NORMAL_TEXTURE" ∨
          n.source = .samplerPort ∧ d.FedByUniform stage e.id 2 name) := by
  have hEmits := emits_of_mem hEmit hMem
  refine ⟨fun expression hHint => ?_, fun n hNode name hName hNone => ?_⟩
  · obtain ⟨rfl, hApplies⟩ := hEmits.hint_of_mem hHint
    exact StageBuiltin.hasExpression_coordinates d.mode hApplies
  · have hWord := StageBuiltin.isCapital_of_mem_samplers hName
    have hUv := StageBuiltin.ne_uv_of_mem_samplers hName
    cases hSource : n.source with
    | samplerPort =>
      rw [hEmits.mentions_handed hName hReachable hNode hSource hNone]
      simp
    | normalMap2D =>
      rw [hEmits.mentions_normalMap hName hNode hSource]
      simp
    | texture =>
      have hOwn : Calm (TextureNode.ownSampler ⟨d.mode, stage, e.id, false⟩) := EmitContext.calm_ownName _ (by decide)
      rw [hEmits.mentions_texture hNode hWord hUv]
      simp [TextureNode.sampler?_of_texture hSource, hOwn.not_mentions hWord]
    | screen | texture2D | depth =>
      rw [hEmits.mentions_texture hNode hWord hUv]
      simp only [reduceCtorEq, false_and, and_false, or_false, iff_false]
      rintro ⟨s, hSampler, hMentions⟩
      obtain ⟨hListed, hHas⟩ := TextureNode.hasSampler_of_sampler? hSampler (by simp [hSource])
      cases (StageBuiltin.mentions_of_mem_samplers hListed).mp hMentions
      exact hNone hHas

/-- The vertices of a canvas take their colour from the normal map. -/
def relief : Design StandardNode :=
  (Design.empty .canvas).edited
    [.add .vertex 2 .origin (.texture { source := .normalMap2D }), .connect .vertex ⟨2, 0, 0, 2⟩]

theorem reachable_relief : relief.Reachable := .edited (.new .canvas) (by decide)

theorem compile_reads_existing_builtins_relief :
    relief.Reachable ∧ ∃ e rest, relief.emit false .vertex .output = .ok (e :: rest) ∧
      e.operands = [.hint "vec3(UV, 0.0)", .absent, .absent] ∧
      StageBuiltin.HasExpression .canvas .vertex "vec3(UV, 0.0)" ∧
      ¬StageBuiltin.HasSampler .canvas .vertex "NORMAL_TEXTURE" ∧ Mentions (renderAll e.code) "NORMAL_TEXTURE" := by
  have hView : (relief.emit false .vertex .output).map (·.map fun e => (e.id, e.operands)) =
      .ok [(2, [.hint "vec3(UV, 0.0)", .absent, .absent]),
        (0, [.absent, .absent, .wire ⟨2, 0, 0, 2⟩ false, .absent])] := by decide +kernel
  have hNode : (relief.graph .vertex).node? 2 = some (.texture { source := .normalMap2D }) := by decide +kernel
  have hNone : ¬StageBuiltin.HasSampler .canvas .vertex "NORMAL_TEXTURE" := by decide +kernel
  obtain ⟨emissions, hEmit, hMap⟩ := Except.map_eq_ok_iff.mp hView
  obtain ⟨e, rest, rfl, hFirst, -⟩ := List.map_eq_cons_iff.mp hMap
  obtain ⟨hId, hOperands⟩ := Prod.mk.inj hFirst
  obtain ⟨hHints, hTextures⟩ := compile_reads_existing_builtins reachable_relief hEmit List.mem_cons_self
  have hExpression := (hHints "vec3(UV, 0.0)" (by rw [hOperands]; exact List.mem_cons_self)).mpr (by decide)
  have hMentions := (hTextures _ (hId ▸ hNode) "NORMAL_TEXTURE" (by decide) hNone).mpr (.inl ⟨rfl, rfl, rfl⟩)
  exact ⟨reachable_relief, e, rest, hEmit, hOperands, hExpression, hNone, hMentions⟩

/-- Particles take their colour from a texture. -/
def smoke : Design StandardNode :=
  (Design.empty .particles).edited
    [.add .vertex 2 .origin (.uniform (.texture { triplanar := false, name := "smoke" })),
      .connect .vertex ⟨2, 0, 0, 0⟩]

/-- A compile without diagnostics reads coordinates that particles do not have, and another the normal map where there
is none. -/
theorem compile_reads_missing_builtins :
    (smoke.Reachable ∧ smoke.compile.diagnostics = [] ∧
      (smoke.emit false .vertex .output).map (·.map (·.operands)) =
        .ok [[.hint "vec3(UV, 0.0)", .absent],
          [.wire ⟨2, 0, 0, 0⟩ false, .absent, .absent, .absent, .absent, .absent]] ∧
      ¬StageBuiltin.HasExpression .particles .vertex "vec3(UV, 0.0)") ∧
    (relief.Reachable ∧ relief.compile.diagnostics = [] ∧
      (relief.emit false .vertex .output).map (·.map (renderAll ·.code)) =
        .ok ["vec4 _tex_read = texture(NORMAL_TEXTURE, vec3(UV, 0.0).xy);\n" ++
            "n2_0 = _tex_read.rgb;\nn2_1 = _tex_read.a;\n",
          "COLOR.rgb = n2_0;\n"] ∧
      ¬StageBuiltin.HasSampler .canvas .vertex "NORMAL_TEXTURE") := by
  have hSmoke : smoke.Reachable := .edited (.new .particles) (by decide)
  exact ⟨⟨hSmoke, by decide +kernel, by decide +kernel, by decide +kernel⟩,
    reachable_relief, by decide +kernel, by decide +kernel, by decide +kernel⟩

end Design

end ShadeGraph
