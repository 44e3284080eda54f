import ShadeGraph.Proofs.StatementBrackets
import ShadeGraph.Proofs.Description
import ShadeGraph.Proofs.Settings

/-!
# The brackets of a shader

Where no node holds code of the user's own, every node is handed closed operands and adds a closed block. The header,
what stands at file scope and the functions are closed too, so in the text of a shader or a preview every bracket has
its partner.
-/

namespace ShadeGraph

open Text
open Statement (renderAll)

/-! ## Blocks -/

theorem nests_resultNames (id : NodeId) (n : StandardNode) : ∀ text ∈ resultNames id n, Nests text 1 := by
  intro text hMem
  obtain ⟨v, hv, rfl⟩ := List.mem_map.mp hMem
  obtain ⟨⟨port, index⟩, -, rfl⟩ := List.mem_map.mp hv
  dsimp only
  split
  · exact nests_empty
  · exact nests_outputVariable id index

theorem Operand.IsQuiet.nests {operand : Operand} (h : operand.IsQuiet) : Nests operand.text 1 := by
  cases h with
  | wire e widened =>
    have hSource := nests_outputVariable e.source e.output
    rw [Operand.text]
    split
    · exact .enclose (.lit rfl) (.lit rfl) rfl hSource
    · exact hSource
  | literal h => exact PortValue.nests_literal h
  | absent => exact nests_empty

theorem LocalVariable.nests_declaration {v : LocalVariable} (h : Nests v.name 1) : Nests v.declaration 1 :=
  (((((Nests.lit rfl).append v.type.nests_keyword).append (.lit rfl)).append h).append (.lit rfl)).of_eq rfl

namespace Emission

theorem nests_scopedLine (line : List Char) : Nests (scopedLine line) (.ofChars line) := by
  rw [scopedLine]
  split
  · rename_i hEmpty
    rw [List.isEmpty_iff.mp hEmpty]
    exact .lit rfl
  · have hIndent : Nests "\t\t" 1 := .lit rfl
    have hLine : Nests (String.ofList line) (.ofChars line) := .ofList line
    have hBreak : Nests "\n" 1 := .lit rfl
    refine ((hIndent.append hLine).append hBreak).of_eq ?_
    rw [one_mul, mul_one]

theorem nests_scope {code : String} (h : Nests code 1) : Nests (scope code) 1 := by
  rw [scope]
  split
  · exact nests_empty
  · have hLines := (nests_lines nests_scopedLine code.toList).of_eq h
    exact .enclose (.lit rfl) (.lit rfl) rfl hLines

theorem nests_block {e : Emission} (hCaption : Nests e.caption 1) (hLocals : ∀ v ∈ e.locals, Nests v.name 1)
    (hCode : Nests (renderAll e.code) 1) : Nests e.block 1 := by
  have hDeclarations : Nests (concat (e.locals.map LocalVariable.declaration)) 1 := by
    refine .concat fun text hMem => ?_
    obtain ⟨v, hv, rfl⟩ := List.mem_map.mp hMem
    exact LocalVariable.nests_declaration (hLocals v hv)
  have hHead : Nests ("\t// " ++ e.caption ++ ":" ++ e.id.text ++ "\n") 1 :=
    (((((Nests.lit rfl).append hCaption).append (.lit rfl)).append (nests_repr _)).append (.lit rfl)).of_eq
      rfl
  rw [block]
  split
  · exact nests_empty
  · exact ((hHead.append hDeclarations).append (nests_scope hCode)).of_eq rfl

end Emission

/-! ## File scope -/

namespace StandardNode

theorem nests_caption (n : StandardNode) : Nests (NodeModel.caption n) 1 := .of_plain n.isPlain_caption.isPlainChar

theorem nests_declaration {type name hint : String} (hType : Nests type 1) (hName : Nests name 1)
    (hHint : Nests hint 1) : Nests ("uniform " ++ type ++ " " ++ name ++ hint ++ ";\n") 1 :=
  ((((((Nests.lit rfl).append hType).append (.lit rfl)).append hName).append hHint).append
    (.lit rfl)).of_eq rfl

theorem nests_samplingDeclaration (type : PortType) {name : String} (hName : Nests name 1) (texture : TextureType)
    (unbound : ColorDefault) : Nests (Sampling.declaration type name texture unbound) 1 := by
  refine nests_declaration type.nests_keyword hName ?_
  cases texture <;> cases unbound <;> exact .lit rfl

theorem nests_declarations {n : StandardNode} (hPlain : n.isExpression = false)
    (hName : ∀ name, NodeModel.uniformName? n = some name → UniformName.IsName name) (ctx : EmitContext) :
    Nests (NodeModel.declarations n ctx) 1 := by
  cases n with
  | uniform u =>
    have hClosed : Nests u.name 1 := nests_of_isName (hName u.name rfl)
    cases u with
    | value u =>
      refine nests_declaration ?_ hClosed ?_
      · cases u.type <;> exact .lit rfl
      · cases u.type <;> exact .lit rfl
    | texture u => exact nests_samplingDeclaration _ hClosed _ _
    | cubeMap u => exact nests_samplingDeclaration _ hClosed _ _
  | texture n =>
    change Nests (n.declarations ctx) 1
    rw [TextureNode.declarations]
    split
    · exact nests_samplingDeclaration _ (ctx.nests_ownName (.lit rfl)) _ _
    · exact nests_empty
  | cubeMap n =>
    change Nests (n.declarations ctx) 1
    rw [CubeMapNode.declarations]
    split
    · exact nests_samplingDeclaration _ (ctx.nests_ownName (.lit rfl)) _ _
    · exact nests_empty
  | globalExpression n => cases hPlain
  | _ => exact nests_empty

theorem nests_triplanarHelpers : Nests TextureUniform.triplanarHelpers 1 := by
  -- Every line is closed but those around the body of the function.
  let opens : Nesting := ⟨⟨0, 1⟩, 1, 1⟩
  let closes : Nesting := ⟨⟨1, 0⟩, 1, 1⟩
  have hClosed : [1, opens, 1, 1, 1, 1, 1, closes, 1, 1, 1, 1, 1, 1, 1, 1].prod = 1 := by
    simp only [List.prod_cons, List.prod_nil, one_mul, mul_one]
    rfl
  refine Nests.of_eq (Nests.concat_prod ?_) hClosed
  simp only [List.forall₂_cons, List.forall₂_nil_left_iff, and_true]
  and_intros <;> exact .lit rfl

theorem nests_triplanarPrologue : Nests TextureUniform.triplanarPrologue 1 := by
  refine .concat ?_
  simp only [List.forall_mem_cons, List.not_mem_nil, false_imp_iff, implies_true, and_true]
  and_intros <;> exact .lit rfl

theorem nests_helpers (n : StandardNode) (ctx : EmitContext) : Nests (NodeModel.helpers n ctx) 1 := by
  rcases n.helpers_cases ctx with hNone | ⟨-, hHelpers⟩
  · rw [hNone]
    exact nests_empty
  · rw [hHelpers]
    exact nests_triplanarHelpers

theorem nests_kindPrologue (function : Stage) (kind : String) : Nests (kindPrologue function kind) 1 := by
  rw [kindPrologue]
  cases prototypes.find? fun n => n.kind = kind with
  | none => exact nests_empty
  | some n =>
    rw [Option.map_some, Option.getD_some]
    rcases n.prologue_cases function with hNone | ⟨-, -, hPrologue⟩
    · rw [hNone]
      exact nests_empty
    · rw [hPrologue]
      exact nests_triplanarPrologue

end StandardNode

theorem RenderSettings.nests_header (r : RenderSettings) (m : Mode) : Nests (r.header m) 1 := by
  have hType : Nests m.shaderType 1 := by cases m <;> exact .lit rfl
  have hWords : Nests (joinWith ", " (r.keywords m)) 1 := by
    refine .joinWith (.lit rfl) fun word hMem => .of_plain ?_
    exact (Mode.isPlain_of_mem_renderWords ((r.keywords_sublist m).subset hMem)).isPlainChar
  have hLine : Nests (line (r.keywords m)) 1 := by
    rw [line]
    split
    · exact nests_empty
    · exact .enclose (.lit rfl) (.lit rfl) rfl hWords
  rw [header_eq]
  exact (((((Nests.lit rfl).append hType).append (.lit rfl)).append hLine).append (.lit rfl)).of_eq rfl

/-! ## Shaders -/

theorem nests_of_shownColor? {type : PortType} {name color : String} (hName : Nests name 1)
    (h : shownColor? type name = some color) : Nests color 1 := by
  cases type with
  | scalar | boolean =>
    cases h
    exact .enclose (.lit rfl) (.lit rfl) rfl hName
  | vector3 =>
    cases h
    exact hName
  | transform | sampler2D | samplerCube => cases h

namespace Design

variable {d : Design StandardNode} {preview : Bool} {stage : Stage} {id : NodeId}

/-- The function of a stage stands in a text, and its braces are each other's partners. -/
def HoldsFunction (text : String) (stage : Stage) : Prop :=
  ∃ before body after : String, text = before ++ ("\nvoid " ++ stage.name ++ "() \x7b\n" ++ body ++ "\x7d\n") ++ after ∧
    ∀ b : Bracket, b.Balanced before.toList ∧ b.Balanced body.toList ∧ b.Balanced after.toList

theorem functionText_eq (name prologue body : String) :
    functionText name prologue body = "\nvoid " ++ name ++ "() \x7b\n" ++ (prologue ++ body) ++ "\x7d\n" := by
  simp only [functionText, String.append_assoc]

theorem nests_function (stage : Stage) {body : String} (hBody : Nests body 1) :
    Nests ("\nvoid " ++ stage.name ++ "() \x7b\n" ++ body ++ "\x7d\n") 1 := by
  have hName : Nests stage.name 1 := by cases stage <;> exact .lit rfl
  exact (((((Nests.lit rfl).append hName).append (.lit rfl)).append hBody).append (.lit rfl)).of_eq rfl

theorem holdsFunction_of_nests {before body after : String} (hBefore : Nests before 1) (hBody : Nests body 1)
    (hAfter : Nests after 1) (stage : Stage) :
    HoldsFunction (before ++ ("\nvoid " ++ stage.name ++ "() \x7b\n" ++ body ++ "\x7d\n") ++ after) stage :=
  ⟨before, body, after, rfl, fun b => ⟨nests_one_iff.mp hBefore b, nests_one_iff.mp hBody b, nests_one_iff.mp hAfter b⟩⟩

theorem HoldsFunction.balanced {text : String} (h : HoldsFunction text stage) (b : Bracket) :
    b.Balanced text.toList := by
  obtain ⟨before, body, after, rfl, hParts⟩ := h
  have hBefore := nests_one_iff.mpr fun b => (hParts b).1
  have hBody := nests_one_iff.mpr fun b => (hParts b).2.1
  have hAfter := nests_one_iff.mpr fun b => (hParts b).2.2
  exact nests_one_iff.mp (((hBefore.append (nests_function stage hBody)).append hAfter).of_eq rfl) b

theorem IsPlain.nests_fileScope (h : d.IsPlain) {a : Assembly} (hDeclarations : ∀ text ∈ a.declarations, Nests text 1)
    (hHelpers : ∀ text ∈ a.helpers, Nests text 1) : Nests (d.fileScope preview a) 1 := by
  rw [h.fileScope_eq]
  exact ((Nests.concat hDeclarations).append (.concat hHelpers)).of_eq rfl

/-- Whatever a node reads is closed. -/
theorem Emits.nests_operand {e : Emission} (h : d.Emits preview stage id (some e)) (hReachable : d.Reachable)
    {operand : Operand} (hMem : operand ∈ e.operands) : Nests operand.text 1 := by
  obtain ⟨index, hIndex, hGet⟩ := List.getElem_of_mem hMem
  obtain ⟨-, placed, -, hOperands, -⟩ := StageGraph.emitNode_eq_ok_some h
  have hPort : index < (NodeModel.inputs placed.node).length := StageGraph.length_operands hOperands ▸ hIndex
  obtain ⟨operand', hGet', hAt⟩ := StageGraph.operands_getElem? hOperands (List.getElem?_eq_getElem hPort)
  rw [List.getElem?_eq_getElem hIndex, hGet] at hGet'
  cases hGet'
  rcases StageGraph.operandAt_cases hAt with hQuiet | ⟨hint, -, -, rfl⟩ | ⟨c, n, -, hNode, -, rfl⟩
  · exact hQuiet.nests
  · rw [(h.hint_of_mem hMem).1]
    exact .lit rfl
  · rw [Operand.text]
    rcases n.samplerName?_getD_cases { (⟨d.mode, stage, id, preview⟩ : EmitContext) with id := c.source } c.output with
      hNone | ⟨u, rfl, hName⟩ | ⟨i, row, -, hRow, -, -, hName⟩
    · rw [hNone]
      exact nests_empty
    · rw [hName]
      exact nests_of_isName (hReachable.isName hNode rfl)
    · rw [hName]
      exact InputNode.nests_of_builtin? hRow

theorem Emits.nests_block {e : Emission} (h : d.Emits preview stage id (some e)) (hReachable : d.Reachable)
    (hPlain : d.IsPlain) : Nests e.block 1 := by
  obtain ⟨n, hNode, -⟩ := StageGraph.exists_node_of_emitNode h
  refine Emission.nests_block ?_ ?_ ?_
  · rw [StageGraph.caption_eq h hNode]
    exact n.nests_caption
  · intro v hv
    obtain ⟨_, index, -, -, rfl⟩ := (h.mem_locals_iff hNode).mp hv
    exact nests_outputVariable _ index
  · refine StandardNode.nests_body (hPlain stage id n hNode) (fun _ => hReachable.isName hNode) ?_
      (nests_resultNames id n) (h.body_eq hNode)
    intro text hMem
    obtain ⟨operand, hOperand, rfl⟩ := List.mem_map.mp hMem
    exact h.nests_operand hReachable hOperand

section

variable (hReachable : d.Reachable) (hPlain : d.IsPlain)

include hReachable hPlain

theorem nests_blocks {root : NodeId} {emissions : List Emission} (hEmit : d.emit preview stage root = .ok emissions) :
    Nests (concat (emissions.map Emission.block)) 1 := by
  refine .concat fun text hText => ?_
  obtain ⟨e, hMem, rfl⟩ := List.mem_map.mp hText
  exact (emits_of_mem hEmit hMem).nests_block hReachable hPlain

/-- A stage that failed has no code, which is closed too. -/
theorem nests_functionBody (stage : Stage) :
    Nests (concat (d.assembly.prologues.get stage) ++ bodyText (d.emit false stage .output)) 1 := by
  have hPrologue : Nests (concat (d.assembly.prologues.get stage)) 1 := by
    rw [hReachable.prologues_assembly]
    refine .concat fun text hText => ?_
    obtain ⟨kind, -, rfl⟩ := List.mem_map.mp hText
    exact StandardNode.nests_kindPrologue stage kind
  have hBody : Nests (bodyText (d.emit false stage .output)) 1 := by
    cases hEmit : d.emit false stage .output with
    | ok emissions => exact nests_blocks hReachable hPlain hEmit
    | error failure => exact nests_empty
  exact (hPrologue.append hBody).of_eq rfl

theorem nests_functions (stages : List Stage) : Nests (concat (stages.map d.function)) 1 := by
  refine .concat fun text hText => ?_
  obtain ⟨stage, -, rfl⟩ := List.mem_map.mp hText
  rw [function, functionText_eq]
  exact nests_function stage (nests_functionBody hReachable hPlain stage)

theorem holdsFunction_compile (stage : Stage) : HoldsFunction d.compile.source stage := by
  have hScope : Nests (d.fileScope false d.assembly) 1 := by
    refine hPlain.nests_fileScope (fun text hText => ?_) fun text hText => ?_
    · rw [hReachable.declarations_assembly, declarationTexts, mem_distinctTexts_iff] at hText
      obtain ⟨x, hMem, rfl⟩ := List.mem_map.mp hText.1
      have hNode := node?_of_mem_contributors hMem
      exact StandardNode.nests_declarations (hPlain _ _ _ hNode) (fun _ => hReachable.isName hNode) _
    · rw [(mem_helpers_iff.mp hText).1]
      exact StandardNode.nests_triplanarHelpers
  obtain ⟨earlier, later, hSplit⟩ := List.append_of_mem (Stage.mem_all stage)
  have hEarlier := nests_functions hReachable hPlain earlier
  have hBefore := (((d.settings.nests_header d.mode).append hScope).append hEarlier).of_eq rfl
  have hHolds := holdsFunction_of_nests hBefore (nests_functionBody hReachable hPlain stage)
    (nests_functions hReachable hPlain later) stage
  rw [← functionText_eq] at hHolds
  rw [compile_eq, hSplit, List.map_append, List.map_cons, concat_append, concat_cons, ← String.append_assoc,
    ← String.append_assoc]
  exact hHolds

theorem holdsFunction_preview? {port : Nat} {shader : Shader} (h : d.preview? stage id port = some shader) :
    HoldsFunction shader.source .fragment := by
  obtain ⟨type, -, hRest⟩ := Option.bind_eq_some_iff.mp h
  obtain ⟨color, hColor, hShader⟩ := Option.bind_eq_some_iff.mp hRest
  have hScope : Nests (d.fileScope true (Assembly.add {} stage (d.emit true stage id))) 1 := by
    cases hEmit : d.emit true stage id with
    | error failure => exact hPlain.nests_fileScope (List.forall_mem_nil _) (List.forall_mem_nil _)
    | ok emissions =>
      refine hPlain.nests_fileScope (fun text hText => ?_) fun text hText => ?_
      · obtain ⟨e, hMem, rfl, -⟩ := Assembly.mem_declarations_add.mp hText
        obtain ⟨n, hNode, hOf⟩ := StageGraph.exists_node_of_emitNode (emits_of_mem hEmit hMem)
        rw [hOf.declarations]
        exact StandardNode.nests_declarations (hPlain _ _ _ hNode) (fun _ => hReachable.isName hNode) _
      · obtain ⟨e, hMem, rfl, -⟩ := Assembly.mem_helpers_add.mp hText
        obtain ⟨n, -, hOf⟩ := StageGraph.exists_node_of_emitNode (emits_of_mem hEmit hMem)
        rw [hOf.helpers]
        exact n.nests_helpers _
  have hBody : Nests (previewBody color (d.emit true stage id)) 1 := by
    cases hEmit : d.emit true stage id with
    | error failure => exact nests_empty
    | ok emissions =>
      have hBlocks := nests_blocks hReachable hPlain hEmit
      have hValue := nests_of_shownColor? (nests_outputVariable id port) hColor
      exact (((hBlocks.append (.lit rfl)).append hValue).append (.lit rfl)).of_eq rfl
  have hBefore := ((RenderSettings.empty.nests_header .canvas).append hScope).of_eq rfl
  have hHolds := holdsFunction_of_nests hBefore hBody nests_empty .fragment
  rw [String.append_empty, ← String.empty_append (s := previewBody color _), ← functionText_eq] at hHolds
  cases hShader
  exact hHolds

end

/-- In every text that is made of a design without code of the user's own, brackets of each kind pair up. The functions
are in it, also those of stages that failed. -/
theorem brackets_balanced (hReachable : d.Reachable) (hPlain : d.IsPlain) :
    (∀ b : Bracket, b.Balanced d.compile.source.toList) ∧ (∀ stage, HoldsFunction d.compile.source stage) ∧
    ∀ stage id port shader, d.preview? stage id port = some shader →
      (∀ b : Bracket, b.Balanced shader.source.toList) ∧ HoldsFunction shader.source .fragment := by
  have hFunctions := holdsFunction_compile hReachable hPlain
  refine ⟨(hFunctions .vertex).balanced, hFunctions, fun stage id port shader hShown => ?_⟩
  have hFunction := holdsFunction_preview? hReachable hPlain hShown
  exact ⟨hFunction.balanced, hFunction⟩

/-- A projection that is given odd texts in the fragment stage; the vertex stage fails. -/
def walled : Design StandardNode :=
  (empty .spatial).edited
    [.add .vertex 2 .origin (.constant (.scalar (.infinity false))), .connect .vertex ⟨2, 0, 0, 0⟩,
      .add .fragment 2 .origin (.uniform (.texture { triplanar := true })),
      .setParam .fragment 2 uniformNameParam (.text "(br]ick"),
      .setParam .fragment 2 "texture" (.resource (some "wall).png")), .connect .fragment ⟨2, 0, 0, 0⟩]

theorem brackets_balanced_walled :
    walled.Reachable ∧ walled.IsPlain ∧ (∃ failure, walled.emit false .vertex .output = .error failure) ∧
      walled.node? .fragment 2 =
        some (.uniform (.texture { triplanar := true, name := "brick", resource := some "wall).png" })) ∧
      (∀ b : Bracket, b.Balanced walled.compile.source.toList) ∧ HoldsFunction walled.compile.source .vertex ∧
      ∃ shader, walled.preview? .fragment 2 0 = some shader ∧ ∀ b : Bracket, b.Balanced shader.source.toList := by
  have hReachable : walled.Reachable := .edited (.new .spatial) (by decide)
  have hPlain : walled.IsPlain := by decide
  have hFails : ∃ failure, walled.emit false .vertex .output = .error failure :=
    ⟨.body 2 "Scalar" (.literal ⟨.infinity false⟩), by rfl⟩
  obtain ⟨shader, hShown⟩ := Option.isSome_iff_exists.mp (rfl : (walled.preview? .fragment 2 0).isSome = true)
  obtain ⟨hSource, hFunctions, hPreviews⟩ := brackets_balanced hReachable hPlain
  exact ⟨hReachable, hPlain, hFails, rfl, hSource, hFunctions .vertex, shader, hShown,
    (hPreviews .fragment 2 0 shader hShown).1⟩

end Design

end ShadeGraph
