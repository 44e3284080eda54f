import ShadeGraph.Compile.Preview
import ShadeGraph.Proofs.Builtins
import ShadeGraph.Proofs.Closure
import ShadeGraph.Proofs.Contributions

/-!
# The words of a preview

Around the code of its nodes the text of a preview is calm but for the names of uniforms, if no node holds code of the
user's own. So its words in capitals are those of uniforms and those in the code of nodes.
-/

namespace ShadeGraph

open Text
open Statement (renderAll)

/-! ## Blocks -/

section

variable {word : String} (hWord : isCapital word.toList = true)

include hWord

theorem Emission.mentions_scope (code : String) : Mentions (scope code) word ↔ Mentions code word := by
  rw [scope]
  split
  · rename_i hEmpty
    rw [String.isEmpty_iff.mp hEmpty]
  · have hLine (line : List Char) : endsApart (scopedLine line) = true := by
      rw [scopedLine]
      split
      · decide
      · exact (endsApart_append (by decide)).trans (by decide)
    have hMentions (line : List Char) : Mentions (scopedLine line) word ↔ word.toList ∈ identifiers line := by
      rw [scopedLine]
      split
      · rename_i hEmpty
        rw [List.isEmpty_iff.mp hEmpty]
        exact iff_of_false ((by decide : Calm "\n").not_mentions hWord) (by simp [identifiers, split])
      · rw [mentions_append_calm (by decide) (by decide) hWord, mentions_calm_append (by decide) (by decide) hWord,
          Mentions, String.toList_ofList]
    rw [mentions_append_calm (by decide) (by decide) hWord, mentions_calm_append (by decide) (by decide) hWord,
      mentions_concat (by simp [hLine]), Mentions, mem_identifiers_iff_lines]
    simp [hMentions]

end

theorem LocalVariable.calm_declaration {v : LocalVariable} (h : Calm v.name) : Calm v.declaration := by
  have hType : Calm ("\t" ++ v.type.keyword ++ " ") := by cases v.type <;> decide
  exact (hType.append h).append (by decide)

namespace Emission

theorem endsApart_locals (e : Emission) : endsApart (concat (e.locals.map LocalVariable.declaration)) = true := by
  refine endsApart_concat ?_
  rintro _ hMem
  obtain ⟨v, -, rfl⟩ := List.mem_map.mp hMem
  exact (endsApart_append (by decide)).trans (by decide)

theorem endsApart_head (e : Emission) : endsApart ("\t// " ++ e.caption ++ ":" ++ e.id.text ++ "\n") = true :=
  (endsApart_append (by decide)).trans (by decide)

theorem endsApart_block (e : Emission) : endsApart e.block = true := by
  rw [block]
  split
  · rfl
  · refine endsApart_append_of (endsApart_append_of e.endsApart_head e.endsApart_locals) ?_
    rw [scope]
    split
    · rfl
    · exact (endsApart_append (by decide)).trans (by decide)

theorem mentions_block {word : String} (hWord : isCapital word.toList = true) {e : Emission} (hCaption : Calm e.caption)
    (hLocals : ∀ v ∈ e.locals, Calm v.name) : Mentions e.block word ↔ Mentions (renderAll e.code) word := by
  rw [block]
  split
  · rename_i hEmpty
    simp only [Bool.and_eq_true, String.isEmpty_iff] at hEmpty
    rw [hEmpty.2]
  · have hHead : Calm ("\t// " ++ e.caption ++ ":" ++ e.id.text ++ "\n") :=
      ((((by decide : Calm "\t// ").append hCaption).append (by decide)).append (calm_repr _)).append (by decide)
    have hDeclarations : Calm (concat (e.locals.map LocalVariable.declaration)) := by
      refine calm_concat ?_
      rintro _ hMem
      obtain ⟨v, hv, rfl⟩ := List.mem_map.mp hMem
      exact LocalVariable.calm_declaration (hLocals v hv)
    have hEnds := endsApart_append_of e.endsApart_head e.endsApart_locals
    rw [mentions_calm_append (hHead.append hDeclarations) hEnds hWord, mentions_scope hWord]

end Emission

/-! ## File scope -/

namespace StandardNode

theorem calm_caption (n : StandardNode) : Calm (NodeModel.caption n) := by
  cases n with
  | constant n | operator n | function n | formula n => cases n <;> exact .ofChars rfl
  | logic n => cases n <;> exact .ofChars rfl
  | uniform n =>
    cases n with
    | value u =>
      obtain ⟨type, name⟩ := u
      cases type <;> exact .ofChars rfl
    | texture u =>
      obtain ⟨triplanar, name, texture, unbound, resource⟩ := u
      cases triplanar <;> exact .ofChars rfl
    | cubeMap u => exact .ofChars rfl
  | _ => exact .ofChars rfl

theorem isPlain_caption (n : StandardNode) : Text.IsPlain (NodeModel.caption n).toList := by
  cases n with
  | constant n | operator n | function n | formula n => cases n <;> exact .ofChars rfl
  | logic n => cases n <;> exact .ofChars rfl
  | uniform n =>
    cases n with
    | value u =>
      obtain ⟨type, name⟩ := u
      cases type <;> exact .ofChars rfl
    | texture u =>
      obtain ⟨triplanar, name, texture, unbound, resource⟩ := u
      cases triplanar <;> exact .ofChars rfl
    | cubeMap u => exact .ofChars rfl
  | _ => exact .ofChars rfl

theorem mentions_declaration {word : String} (hWord : isCapital word.toList = true) {type name hint : String}
    (hType : Calm ("uniform " ++ type ++ " ")) (hHint : Calm hint) (hApart : startsApart hint = true) :
    Mentions ("uniform " ++ type ++ " " ++ name ++ hint ++ ";\n") word ↔ Mentions name word := by
  rw [mentions_append_calm (by decide) (by decide) hWord, mentions_append_calm hHint hApart hWord,
    mentions_calm_append hType ((endsApart_append (by decide)).trans (by decide)) hWord]

theorem mentions_samplingDeclaration {word : String} (hWord : isCapital word.toList = true) (type : PortType)
    (name : String) (texture : TextureType) (unbound : ColorDefault) :
    Mentions (Sampling.declaration type name texture unbound) word ↔ Mentions name word := by
  refine mentions_declaration hWord ?_ ?_ ?_
  · cases type <;> decide
  · cases texture <;> cases unbound <;> exact .ofChars rfl
  · cases texture <;> cases unbound <;> decide

theorem mentions_declarations {word : String} (hWord : isCapital word.toList = true) {n : StandardNode}
    (hGlobal : NodeModel.isGlobal n = false)
    (hName : ∀ name, NodeModel.uniformName? n = some name → UniformName.IsName name) (ctx : EmitContext) :
    Mentions (NodeModel.declarations n ctx) word ↔ NodeModel.uniformName? n = some word := by
  have hNone : ¬Mentions "" word := (by decide : Calm "").not_mentions hWord
  cases n with
  | uniform u =>
    have hSame : Mentions u.name word ↔ NodeModel.uniformName? (StandardNode.uniform u) = some word :=
      (mentions_of_isName (hName _ rfl)).trans Option.some_inj.symm
    rw [← hSame]
    cases u with
    | value u =>
      refine mentions_declaration hWord ?_ ?_ ?_
      · cases u.type <;> decide
      · cases u.type <;> exact .ofChars rfl
      · cases u.type <;> decide
    | texture u => exact mentions_samplingDeclaration hWord ..
    | cubeMap u => exact mentions_samplingDeclaration hWord ..
  | texture n =>
    have hOwn : ¬Mentions (TextureNode.ownSampler ctx) word := (ctx.calm_ownName (by decide)).not_mentions hWord
    change Mentions (n.declarations ctx) word ↔ none = some word
    rw [TextureNode.declarations]
    split <;> simp [mentions_samplingDeclaration hWord, hOwn, hNone]
  | cubeMap n =>
    have hOwn : ¬Mentions (CubeMapNode.ownSampler ctx) word := (ctx.calm_ownName (by decide)).not_mentions hWord
    change Mentions (n.declarations ctx) word ↔ none = some word
    rw [CubeMapNode.declarations]
    split <;> simp [mentions_samplingDeclaration hWord, hOwn, hNone]
  | globalExpression n => cases hGlobal
  | _ => exact iff_of_false hNone (by rintro ⟨⟩)

theorem endsApart_declarations {n : StandardNode} (hGlobal : NodeModel.isGlobal n = false) (ctx : EmitContext) :
    endsApart (NodeModel.declarations n ctx) = true := by
  have hLine (text : String) : endsApart (text ++ ";\n") = true := (endsApart_append (by decide)).trans (by decide)
  cases n with
  | uniform u => cases u <;> exact hLine _
  | texture n =>
    change endsApart (n.declarations ctx) = true
    rw [TextureNode.declarations]
    split
    · exact hLine _
    · rfl
  | cubeMap n =>
    change endsApart (n.declarations ctx) = true
    rw [CubeMapNode.declarations]
    split
    · exact hLine _
    · rfl
  | globalExpression n => cases hGlobal
  | _ => rfl

theorem calm_triplanarHelpers :
    Calm TextureUniform.triplanarHelpers ∧ endsApart TextureUniform.triplanarHelpers = true := by
  constructor
  · refine calm_concat ?_
    simp only [List.forall_mem_cons, List.not_mem_nil, false_imp_iff, implies_true, and_true]
    and_intros <;> exact .ofChars rfl
  · refine endsApart_concat ?_
    simp only [List.forall_mem_cons, List.not_mem_nil, false_imp_iff, implies_true, and_true]
    and_intros <;> exact endsApart_ofChars rfl

theorem calm_helpers (n : StandardNode) (ctx : EmitContext) :
    Calm (NodeModel.helpers n ctx) ∧ endsApart (NodeModel.helpers n ctx) = true := by
  rcases n.helpers_cases ctx with hNone | ⟨-, hHelpers⟩
  · rw [hNone]
    decide
  · rw [hHelpers]
    exact calm_triplanarHelpers

/-- Code of the user's own. -/
def isExpression : StandardNode → Bool
  | .expression _ | .globalExpression _ => true
  | _ => false

end StandardNode

theorem StageGraph.caption_eq {g : StageGraph StandardNode} {ctx : EmitContext} {e : Emission}
    (h : g.emitNode ctx = .ok (some e)) {n : StandardNode} (hNode : g.node? ctx.id = some n) :
    e.caption = NodeModel.caption n := by
  obtain ⟨placed, hPlaced, rfl⟩ := node?_eq_some_iff.mp hNode
  simp only [emitNode, hPlaced, Except.throw_bind, Except.ite_throw_eq_ok_iff] at h
  obtain ⟨-, h⟩ := h
  split at h
  · cases h
  · simp only [Except.bind_eq_ok_iff, Except.pure_eq_ok_iff] at h
    obtain ⟨operands, -, code, -, hEmission⟩ := h
    cases hEmission
    rfl

namespace Assembly

variable {stage : Stage} {emissions : List Emission} {text : String}

/-- What a stage adds to the texts of one kind at file scope. -/
theorem mem_texts_add {texts : Assembly → List String} {contribution : Emission → String}
    (hView : ∀ a b, fileScope a = fileScope b → texts a = texts b) (hStart : texts {} = [])
    (hStep : ∀ a e, texts (addFileScope a e) = addText (texts a) (contribution e)) :
    text ∈ texts (Assembly.add {} stage (.ok emissions)) ↔ ∃ e ∈ emissions, contribution e = text ∧ text ≠ "" := by
  have hFold := fileScope_add texts (fun texts e => addText texts (contribution e)) hView hStep {} stage (.ok emissions)
  rw [hFold, hStart, placedEmissions, List.foldl_map, mem_foldl_addText_iff]
  simp

theorem mem_declarations_add : text ∈ (Assembly.add {} stage (.ok emissions)).declarations ↔
    ∃ e ∈ emissions, e.declarations = text ∧ text ≠ "" :=
  mem_texts_add (fun _ _ hSame => congrArg (·.1) hSame) rfl declarations_addFileScope

theorem mem_helpers_add : text ∈ (Assembly.add {} stage (.ok emissions)).helpers ↔
    ∃ e ∈ emissions, e.helpers = text ∧ text ≠ "" :=
  mem_texts_add (fun _ _ hSame => congrArg (·.2.1) hSame) rfl helpers_addFileScope

end Assembly

namespace Design

variable {d : Design StandardNode} {stage : Stage} {id : NodeId} {port : Nat} {shader : Shader}
  {emissions : List Emission}

theorem preview?_source (hShown : d.preview? stage id port = some shader)
    (hEmit : d.emit true stage id = .ok emissions) :
    ∃ color, Calm color ∧
      shader.source = RenderSettings.empty.header .canvas ++ d.fileScope true (Assembly.add {} stage (.ok emissions)) ++
        functionText Stage.fragment.name ""
          (concat (emissions.map Emission.block) ++ "\tCOLOR.rgb = " ++ color ++ ";\n") := by
  obtain ⟨type, -, hRest⟩ := Option.bind_eq_some_iff.mp hShown
  obtain ⟨color, hColor, hShader⟩ := Option.bind_eq_some_iff.mp hRest
  rw [hEmit] at hShader
  cases hShader
  refine ⟨color, ?_, rfl⟩
  have hVariable := calm_outputVariable id port
  cases type with
  | scalar =>
    cases hColor
    exact ((by decide : Calm "vec3(").append hVariable).append (by decide)
  | boolean =>
    cases hColor
    exact ((by decide : Calm "vec3(").append hVariable).append (by decide)
  | vector3 =>
    cases hColor
    exact hVariable
  | transform | sampler2D | samplerCube => cases hColor

/-- No node holds code of the user's own. -/
def IsPlain (d : Design StandardNode) : Prop :=
  ∀ stage id n, (d.graph stage).node? id = some n → n.isExpression = false

theorem isPlain_iff : d.IsPlain ↔
    ∀ stage ∈ Stage.all, ∀ entry ∈ (d.graph stage).nodes.entries, entry.2.node.isExpression = false := by
  constructor
  · rintro h stage - ⟨id, placed⟩ hEntry
    exact h stage id _ (StageGraph.node?_eq_some_iff.mpr ⟨placed, Table.get?_eq_some_iff.mpr hEntry, rfl⟩)
  · intro h stage id n hNode
    obtain ⟨placed, hPlaced, rfl⟩ := StageGraph.node?_eq_some_iff.mp hNode
    exact h stage (Stage.mem_all stage) (id, placed) (Table.get?_eq_some_iff.mp hPlaced)

instance : Decidable d.IsPlain := decidable_of_iff _ isPlain_iff.symm

theorem IsPlain.globalNodes_eq_nil (h : d.IsPlain) (stage : Stage) : d.globalNodes stage = [] := by
  rw [List.eq_nil_iff_forall_not_mem]
  rintro ⟨id, n⟩ hMem
  obtain ⟨hNode, hGlobal⟩ := mem_globalNodes_iff.mp hMem
  have hPlain := h stage id n hNode
  cases n with
  | globalExpression n => cases hPlain
  | _ => cases hGlobal

theorem IsPlain.fileScope_eq (h : d.IsPlain) (preview : Bool) (a : Assembly) :
    d.fileScope preview a = concat a.declarations ++ concat a.helpers := by
  have hNone : (Stage.all.flatMap fun stage => (d.globalNodes stage).map (d.globalText preview stage)) = [] := by
    simp [List.flatMap_eq_nil_iff, h.globalNodes_eq_nil]
  rw [fileScope, hNone]
  exact String.append_empty

section

variable {preview : Bool} (hEmit : d.emit preview stage id = .ok emissions)

include hEmit

theorem endsApart_emitted : ∀ text ∈ (Assembly.add {} stage (.ok emissions)).declarations, endsApart text = true := by
  intro text hText
  obtain ⟨e, hMem, rfl, -⟩ := Assembly.mem_declarations_add.mp hText
  obtain ⟨n, -, hOf⟩ := StageGraph.exists_node_of_emitNode (emits_of_mem hEmit hMem)
  rw [hOf.declarations]
  exact StandardNode.endsApart_declarations hOf.isGlobal _

theorem calm_emitted : ∀ text ∈ (Assembly.add {} stage (.ok emissions)).helpers, Calm text ∧ endsApart text = true := by
  intro text hText
  obtain ⟨e, hMem, rfl, -⟩ := Assembly.mem_helpers_add.mp hText
  obtain ⟨n, -, hOf⟩ := StageGraph.exists_node_of_emitNode (emits_of_mem hEmit hMem)
  rw [hOf.helpers]
  exact n.calm_helpers _

theorem IsPlain.endsApart_fileScope (h : d.IsPlain) :
    endsApart (d.fileScope preview (Assembly.add {} stage (.ok emissions))) = true := by
  rw [h.fileScope_eq]
  exact endsApart_append_of (endsApart_concat (endsApart_emitted hEmit))
    (endsApart_concat fun text hText => (calm_emitted hEmit text hText).2)

variable {word : String} (hWord : isCapital word.toList = true)

include hWord

theorem IsPlain.mentions_fileScope (h : d.IsPlain) (hReachable : d.Reachable) :
    Mentions (d.fileScope preview (Assembly.add {} stage (.ok emissions))) word ↔
      ∃ e ∈ emissions, e.uniformName? = some word := by
  have hDeclarations := endsApart_emitted hEmit
  have hHelpers := (calm_concat fun text hText => (calm_emitted hEmit text hText).1).not_mentions hWord
  have hOne {e : Emission} (hMem : e ∈ emissions) : Mentions e.declarations word ↔ e.uniformName? = some word := by
    obtain ⟨n, hNode, hOf⟩ := StageGraph.exists_node_of_emitNode (emits_of_mem hEmit hMem)
    rw [hOf.declarations, hOf.uniformName?]
    exact StandardNode.mentions_declarations hWord hOf.isGlobal (fun name => hReachable.isName hNode) _
  rw [h.fileScope_eq, mentions_append_of_endsApart (endsApart_concat hDeclarations), mentions_concat hDeclarations,
    or_iff_left hHelpers]
  constructor
  · rintro ⟨_, hText, hMentions⟩
    obtain ⟨e, hMem, rfl, -⟩ := Assembly.mem_declarations_add.mp hText
    exact ⟨e, hMem, (hOne hMem).mp hMentions⟩
  · rintro ⟨e, hMem, hName⟩
    have hMentions := (hOne hMem).mpr hName
    refine ⟨e.declarations, Assembly.mem_declarations_add.mpr ⟨e, hMem, rfl, ?_⟩, hMentions⟩
    intro hEmpty
    rw [hEmpty] at hMentions
    exact (by decide : Calm "").not_mentions hWord hMentions

theorem mentions_blocks : Mentions (concat (emissions.map Emission.block)) word ↔
    ∃ e ∈ emissions, Mentions (renderAll e.code) word := by
  rw [mentions_concat (by simp [Emission.endsApart_block])]
  simp only [List.mem_map, exists_exists_and_eq_and]
  refine exists_congr fun e => and_congr_right fun hMem => ?_
  have hEmits := emits_of_mem hEmit hMem
  obtain ⟨n, hNode, -⟩ := StageGraph.exists_node_of_emitNode hEmits
  refine Emission.mentions_block hWord ?_ ?_
  · rw [StageGraph.caption_eq hEmits hNode]
    exact n.calm_caption
  · intro v hv
    obtain ⟨_, index, -, -, rfl⟩ := (hEmits.mem_locals_iff hNode).mp hv
    exact calm_outputVariable _ index

end

/-- A preview writes the colour. All other words in capitals are uniforms or stand in the code of nodes. -/
theorem IsPlain.mentions_preview (h : d.IsPlain) (hReachable : d.Reachable)
    (hShown : d.preview? stage id port = some shader) (hEmit : d.emit true stage id = .ok emissions) {word : String}
    (hWord : isCapital word.toList = true) (hColor : word ≠ "COLOR") :
    Mentions shader.source word ↔ ∃ e ∈ emissions, e.uniformName? = some word ∨ Mentions (renderAll e.code) word := by
  obtain ⟨color, hCalm, hSource⟩ := preview?_source hShown hEmit
  have hBody : Mentions (concat (emissions.map Emission.block) ++ "\tCOLOR.rgb = " ++ color ++ ";\n") word ↔
      ∃ e ∈ emissions, Mentions (renderAll e.code) word := by
    have hEnds : endsApart (concat (emissions.map Emission.block)) = true :=
      endsApart_concat (by simp [Emission.endsApart_block])
    rw [mentions_append_calm (by decide) (by decide) hWord,
      mentions_append_of_endsApart ((endsApart_append (by decide)).trans (by decide)),
      or_iff_left (hCalm.not_mentions hWord), mentions_append_of_endsApart hEnds,
      or_iff_left ((mentions_iff_of_capitals hWord (by decide)).not.mpr hColor), mentions_blocks hEmit hWord]
  rw [hSource, functionText,
    mentions_append_of_endsApart (endsApart_append_of (by decide) (h.endsApart_fileScope hEmit)),
    mentions_calm_append (by decide) (by decide) hWord, h.mentions_fileScope hEmit hWord hReachable,
    mentions_append_calm (by decide) (by decide) hWord,
    mentions_calm_append (by decide) (by decide) hWord, hBody, ← exists_or]
  simp only [and_or_left]

end Design

end ShadeGraph
