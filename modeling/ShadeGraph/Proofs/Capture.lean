import ShadeGraph.Proofs.BlockNames
import ShadeGraph.Proofs.Builtins

/-!
# What names denote in generated code

A block names variables of its function, uniforms at file scope and what it defines itself. The user names uniforms and
the ports of expressions, and may name them like the variables of nodes. A uniform is then hidden by a variable, and a
variable by a port.
-/

namespace ShadeGraph

open Statement (definedNames)

/-- Where a name is declared. -/
inductive NameScope
  | file
  | function
  | block
  deriving DecidableEq, Repr

/-- A sampler at the input is read. -/
def StandardNode.readsHanded : StandardNode → Bool
  | .texture n => n.source = .samplerPort
  | .cubeMap n => n.source = .samplerPort
  | _ => false

namespace Design

variable {d : Design StandardNode} {stage : Stage} {e : Emission} {name : String}

/-- What a name in a block denotes, given the emissions before it: the innermost of its declarations. -/
def resolve? (d : Design StandardNode) (before : List Emission) (e : Emission) (name : String) : Option NameScope :=
  if name ∈ definedNames e.code then some .block
  else if name ∈ (before ++ [e]).flatMap (·.locals.map LocalVariable.name) then some .function
  else if name ∈ d.uniforms then some .file
  else none

/-- A uniform and a variable that a compile declares have the name. -/
def SharesName (d : Design StandardNode) (name : String) : Prop :=
  ∃ site u, d.Emitted site (.uniform u) ∧ u.name = name ∧ ∃ site' n index port, d.Emitted site' n ∧
    NodeModel.port? n .output index = some port ∧ port.type.isSampler = false ∧ name = outputVariable site'.id index

/-- A port of an expression has the name. -/
def HasPort (d : Design StandardNode) (site : Site) (name : String) : Prop :=
  ∃ n, (d.graph site.stage).node? site.id = some (.expression n) ∧ ∃ p ∈ n.inputs ++ n.outputs, p.name = name

/-- The uniforms that a block reads: the one that the node declares, or the one that is handed to it. -/
def ReadsUniform (d : Design StandardNode) (stage : Stage) (e : Emission) (name : String) : Prop :=
  name ∈ uniformsIn e.declarations ∨
  ∃ n, (d.graph stage).node? e.id = some n ∧ n.readsHanded = true ∧ d.FedByUniform stage e.id 2 name

/-- A texture uniform has the name of what its own block defines. -/
def HidesItself (d : Design StandardNode) (site : Site) : Prop :=
  ∃ u, (d.graph site.stage).node? site.id = some (.uniform (.texture u)) ∧ u.name = "n_tex_read"

theorem Emits.length_operands {preview : Bool} {id : NodeId} (h : d.Emits preview stage id (some e))
    {n : ExpressionNode} (hNode : (d.graph stage).node? id = some (.expression n)) :
    (e.operands.map Operand.text).length = n.inputs.length := by
  obtain ⟨-, placed, hPlaced, hOperands, -, -⟩ := StageGraph.emitNode_eq_ok_some h
  obtain ⟨placed', hSame, hExpression⟩ := StageGraph.node?_eq_some_iff.mp hNode
  cases hPlaced.symm.trans hSame
  rw [List.length_map, StageGraph.length_operands hOperands, hExpression]
  exact List.length_map _

/-- A block defines a name like that of a variable exactly if it is that of a port. -/
theorem Emits.mem_definedNames_iff {preview : Bool} {id : NodeId} (h : d.Emits preview stage id (some e))
    (hName : isNumbered name = true) : name ∈ definedNames e.code ↔ d.HasPort ⟨stage, id⟩ name := by
  obtain ⟨node, hNode, -⟩ := StageGraph.exists_node_of_emitNode h
  have hBody := h.body_eq hNode
  by_cases hExpression : ∃ n, node = .expression n
  · obtain ⟨n, rfl⟩ := hExpression
    have hCode : e.code = n.body (e.operands.map Operand.text) (resultNames id (StandardNode.expression n)) :=
      (Except.ok.inj hBody).symm
    rw [hCode, n.definedNames_body (h.length_operands hNode), List.mem_map]
    constructor
    · exact fun hPort => ⟨n, hNode, hPort⟩
    · rintro ⟨m, hOther, hPort⟩
      cases hNode.symm.trans hOther
      exact hPort
  · rw [not_exists] at hExpression
    refine iff_of_false (fun hMem => ?_) ?_
    · rw [StandardNode.not_isNumbered_of_mem_definedNames hExpression hBody hMem] at hName
      cases hName
    · rintro ⟨n, hSame, -⟩
      exact hExpression n (Option.some.inj (hNode.symm.trans hSame))

theorem emits_of_mem_emitted {site : Site} (h : (site, e) ∈ d.emitted) :
    d.Emits false site.stage site.id (some e) := by
  obtain ⟨stage, -, hStage⟩ := List.mem_flatMap.mp h
  obtain ⟨emissions, hEmit, hMem, rfl⟩ := exists_of_mem_placedEmissions hStage
  exact emits_of_mem hEmit hMem

theorem mem_emitted {emissions : List Emission} (hEmit : d.emit false stage .output = .ok emissions)
    (hMem : e ∈ emissions) : (⟨stage, e.id⟩, e) ∈ d.emitted := by
  refine List.mem_flatMap.mpr ⟨stage, stage.mem_all, ?_⟩
  rw [hEmit]
  exact List.mem_map_of_mem hMem

/-- Of the names that a shader declares as uniforms only those of uniform nodes can be like the variables of nodes. -/
theorem Reachable.mem_uniforms_iff (h : d.Reachable) (hName : isNumbered name = true) :
    name ∈ d.uniforms ↔ ∃ site u, d.Emitted site (.uniform u) ∧ u.name = name := by
  rw [uniforms, List.mem_append]
  constructor
  · rintro (hMem | hMem)
    · obtain ⟨⟨site, e⟩, hEmission, hDeclared⟩ := List.mem_flatMap.mp hMem
      obtain ⟨n, hEmitted, hOf⟩ := exists_emitted_of_mem hEmission
      rw [h.uniformsIn_eq hEmitted hOf, Option.mem_toList] at hDeclared
      rcases StandardNode.declaredName?_cases hDeclared with ⟨u, rfl, hSame⟩ | hOwn
      · exact ⟨site, u, hEmitted, hSame⟩
      · rcases (StandardNode.ownSampler?_eq_some hOwn).1 with rfl | rfl <;>
          simp [isNumbered, EmitContext.ownName, String.toList_append] at hName
    · obtain ⟨text, hHelper, hDeclared⟩ := List.mem_flatMap.mp hMem
      obtain ⟨rfl, -⟩ := mem_helpers_iff.mp hHelper
      rw [uniformsIn_triplanarHelpers] at hDeclared
      have hOther : ∀ name ∈ ["triplanar_scale", "triplanar_offset", "triplanar_sharpness"],
        isNumbered name = false := by decide
      rw [hOther name hDeclared] at hName
      cases hName
  · rintro ⟨site, u, hEmitted, rfl⟩
    obtain ⟨e, hMem, hOf⟩ := hEmitted.exists_mem
    refine .inl (List.mem_flatMap.mpr ⟨(site, e), hMem, ?_⟩)
    rw [h.uniformsIn_eq hEmitted hOf]
    exact List.mem_singleton_self _

/-- A name is declared as a uniform and as a variable exactly if a uniform node has the name of a variable. -/
theorem Reachable.sharesName_iff (h : d.Reachable) :
    (name ∈ d.uniforms ∧ ∃ x ∈ d.emitted, ∃ v ∈ x.2.locals, v.name = name) ↔ d.SharesName name := by
  constructor
  · rintro ⟨hUniform, ⟨site', e⟩, hMem, v, hv, rfl⟩
    obtain ⟨n, hEmitted, -⟩ := exists_emitted_of_mem hMem
    obtain ⟨port, index, hPort, hValue, rfl⟩ := ((emits_of_mem_emitted hMem).mem_locals_iff hEmitted.node).mp hv
    obtain ⟨site, u, hSite, hName⟩ := (h.mem_uniforms_iff (isNumbered_outputVariable _ _)).mp hUniform
    exact ⟨site, u, hSite, hName, site', n, index, port, hEmitted, hPort, hValue, rfl⟩
  · rintro ⟨site, u, hSite, hName, site', n, index, port, hEmitted, hPort, hValue, rfl⟩
    obtain ⟨e, hMem, -⟩ := hEmitted.exists_mem
    have hLocal := ((emits_of_mem_emitted hMem).mem_locals_iff hEmitted.node).mpr ⟨port, index, hPort, hValue, rfl⟩
    exact ⟨(h.mem_uniforms_iff (isNumbered_outputVariable _ _)).mpr ⟨site, u, hSite, hName⟩,
      (site', e), hMem, _, hLocal, rfl⟩

/-- A variable of the function denotes itself in a block unless a port of an expression hides it. -/
theorem resolve?_eq_function_iff {preview : Bool} {root : NodeId} {before after : List Emission}
    (hEmit : d.emit preview stage root = .ok (before ++ e :: after)) {id : NodeId} {port : Nat}
    (hDeclared : ∃ s ∈ before ++ [e], ∃ v ∈ s.locals, v.name = outputVariable id port) :
    d.resolve? before e (outputVariable id port) = some .function ↔
      ¬d.HasPort ⟨stage, e.id⟩ (outputVariable id port) := by
  have hEmits : d.Emits preview stage e.id (some e) := emits_of_mem hEmit (by simp)
  have hFunction : outputVariable id port ∈ (before ++ [e]).flatMap (·.locals.map LocalVariable.name) := by
    obtain ⟨s, hMem, v, hv, hName⟩ := hDeclared
    exact List.mem_flatMap.mpr ⟨s, hMem, List.mem_map.mpr ⟨v, hv, hName⟩⟩
  rw [← hEmits.mem_definedNames_iff (isNumbered_outputVariable id port), resolve?, if_pos hFunction]
  split
  · rename_i hPort
    simp [hPort]
  · rename_i hOther
    exact iff_of_true rfl hOther

/-- A block defines the name of a uniform that it reads exactly if that is the name of what it reads from a texture. -/
theorem Reachable.mem_definedNames_iff (h : d.Reachable) {preview : Bool} (hEmits : d.Emits preview stage e.id (some e))
    (hReads : d.ReadsUniform stage e name) : name ∈ definedNames e.code ↔ d.HidesItself ⟨stage, e.id⟩ := by
  rcases hReads with hDeclared | ⟨n, hNode, hHanded, c, -, -, -, u, hSource, rfl⟩
  · obtain ⟨n, hNode, hOf⟩ := StageGraph.exists_node_of_emitNode hEmits
    have hBody := hEmits.body_eq hNode
    rw [hOf.declarations, StandardNode.uniformsIn_declarations hOf.isGlobal fun name => h.isName hNode,
      Option.mem_toList] at hDeclared
    rcases StandardNode.declaredName?_cases hDeclared with ⟨u, rfl, rfl⟩ | hOwn
    · rw [UniformNode.mem_definedNames_iff hBody]
      constructor
      · rintro ⟨hName, t, rfl⟩
        exact ⟨t, hNode, hName⟩
      · rintro ⟨t, hSame, hName⟩
        cases hNode.symm.trans hSame
        exact ⟨hName, t, rfl⟩
    · have hOther : ¬d.HidesItself ⟨stage, e.id⟩ := by
        rintro ⟨t, hSame, -⟩
        cases hNode.symm.trans hSame
        cases hOwn
      refine iff_of_false (fun hMem => ?_) hOther
      cases n with
      | texture n =>
        obtain ⟨-, hSame⟩ := Option.ite_none_right_eq_some.mp hOwn
        cases hSame
        exact TextureNode.ownSampler_not_mem_definedNames hBody hMem
      | cubeMap n =>
        obtain ⟨-, hSame⟩ := Option.ite_none_right_eq_some.mp hOwn
        cases hSame
        rw [CubeMapNode.definedNames_body hBody, List.mem_singleton] at hMem
        simpa [CubeMapNode.ownSampler, EmitContext.ownName, String.toList_append] using congrArg (·.toList.head?) hMem
      | _ => cases hOwn
  · have hOther : ¬d.HidesItself ⟨stage, e.id⟩ := by
      rintro ⟨t, hSame, -⟩
      cases hNode.symm.trans hSame
      cases hHanded
    refine iff_of_false (fun hMem => ?_) hOther
    obtain ⟨first, rest, hText, hLetter, -⟩ := h.isName hSource rfl
    have hBody := hEmits.body_eq hNode
    -- a uniform begins with a letter and what sampling nodes define with an underscore
    have hBlank : u.name.toList.head? ≠ some '_' := by
      rw [hText]
      rintro ⟨⟩
      cases hLetter
    cases n with
    | texture n =>
      have hPort : n.source = .samplerPort := of_decide_eq_true hHanded
      rcases TextureNode.definedNames_body hBody _ hMem with hSame | hSame | ⟨-, hOther⟩
      · exact hBlank (congrArg (·.toList.head?) hSame)
      · exact hBlank (congrArg (·.toList.head?) hSame)
      · cases hPort.symm.trans hOther
    | cubeMap n =>
      rw [CubeMapNode.definedNames_body hBody, List.mem_singleton] at hMem
      exact hBlank (congrArg (·.toList.head?) hMem)
    | _ => cases hHanded

theorem Reachable.mem_uniforms_of_readsUniform (h : d.Reachable) {emissions : List Emission}
    (hEmit : d.emit false stage .output = .ok emissions) (hMem : e ∈ emissions) (hReads : d.ReadsUniform stage e name) :
    name ∈ d.uniforms := by
  refine List.mem_append_left _ (List.mem_flatMap.mpr ?_)
  rcases hReads with hDeclared | ⟨-, -, -, hFed⟩
  · exact ⟨_, mem_emitted hEmit hMem, hDeclared⟩
  · obtain ⟨s, hSource, hUniform⟩ := hFed.exists_emission hEmit hMem
    obtain ⟨n, hEmitted, hOf⟩ := exists_emitted_of_mem (mem_emitted hEmit hSource)
    refine ⟨_, mem_emitted hEmit hSource, ?_⟩
    have hName : n.uniformName? = some name := hOf.uniformName?.symm.trans hUniform
    rw [h.uniformsIn_eq hEmitted hOf, StandardNode.declaredName?, hName]
    exact List.mem_singleton_self name

theorem Reachable.resolve?_eq_file_iff (h : d.Reachable) {before after : List Emission}
    (hEmit : d.emit false stage .output = .ok (before ++ e :: after)) (hReads : d.ReadsUniform stage e name)
    (hShares : ¬d.SharesName name) : d.resolve? before e name = some .file ↔ name ∉ definedNames e.code := by
  have hUniform := h.mem_uniforms_of_readsUniform hEmit (by simp) hReads
  have hFunction : name ∉ (before ++ [e]).flatMap (·.locals.map LocalVariable.name) := by
    intro hVariable
    obtain ⟨s, hEarlier, hLocal⟩ := List.mem_flatMap.mp hVariable
    obtain ⟨v, hv, hName⟩ := List.mem_map.mp hLocal
    have hMem : s ∈ before ++ e :: after := by
      simp only [List.mem_append, List.mem_cons, List.not_mem_nil, or_false] at hEarlier ⊢
      exact hEarlier.imp_right .inl
    exact hShares (h.sharesName_iff.mp ⟨hUniform, _, mem_emitted hEmit hMem, v, hv, hName⟩)
  rw [resolve?, if_neg hFunction, if_pos hUniform]
  split
  · rename_i hDefined
    simp [hDefined]
  · rename_i hOther
    exact iff_of_true rfl hOther

/-- Let a design be compiled. A name is declared both as a uniform and as a variable of a node exactly if a uniform
node has taken the name of the variable. In every block, a variable that the block reads or writes denotes itself unless
a port of the block's expression has taken its name. A uniform that the block reads and that shares its name with no
variable denotes itself unless the block defines that name for what it reads from a texture. -/
theorem compiled_names_denote (hReachable : d.Reachable) :
    (∀ name, (name ∈ d.uniforms ∧ ∃ x ∈ d.emitted, ∃ v ∈ x.2.locals, v.name = name) ↔ d.SharesName name) ∧
    ∀ stage before e after, d.emit false stage .output = .ok (before ++ e :: after) →
      (∀ c ∈ (d.graph stage).edges, c.target = e.id →
        ∀ type, (d.graph stage).outputType? c.source c.output = some type → type.isSampler = false →
          (d.resolve? before e (outputVariable c.source c.output) = some .function ↔
            ¬d.HasPort ⟨stage, e.id⟩ (outputVariable c.source c.output))) ∧
      (∀ v ∈ e.locals, d.resolve? before e v.name = some .function ↔ ¬d.HasPort ⟨stage, e.id⟩ v.name) ∧
      ∀ name, d.ReadsUniform stage e name → ¬d.SharesName name →
        (d.resolve? before e name = some .file ↔ ¬d.HidesItself ⟨stage, e.id⟩) := by
  refine ⟨fun name => hReachable.sharesName_iff, fun stage before e after hEmit => ?_⟩
  have hMem : e ∈ before ++ e :: after := by simp
  have hEmits := emits_of_mem hEmit hMem
  refine ⟨fun c hEdge hTarget type hType hValue => ?_, fun v hv => ?_, fun name hReads hShares => ?_⟩
  · obtain ⟨s, hBefore, -, hLocal⟩ := exists_local_of_edge hEmit hEdge hTarget hType hValue
    exact resolve?_eq_function_iff hEmit ⟨s, List.mem_append_left _ hBefore, _, hLocal, rfl⟩
  · obtain ⟨n, hNode, -⟩ := StageGraph.exists_node_of_emitNode hEmits
    obtain ⟨port, index, -, -, rfl⟩ := (hEmits.mem_locals_iff hNode).mp hv
    exact resolve?_eq_function_iff hEmit ⟨e, by simp, _, hv, rfl⟩
  · rw [← hReachable.mem_definedNames_iff hEmits hReads]
    exact hReachable.resolve?_eq_file_iff hEmit hReads hShares

/-- A uniform that passes through an expression. -/
def tinted : Design StandardNode :=
  (Design.empty .spatial).edited
    [.add .fragment 2 .origin (.uniform (.value { type := .scalar, name := "tint" })),
      .add .fragment 3 .origin
        (.expression { inputs := [⟨.scalar, "a"⟩], outputs := [⟨.scalar, "b"⟩], code := "b = a;" }),
      .connect .fragment ⟨2, 0, 3, 0⟩, .connect .fragment ⟨3, 0, 0, 0⟩]

theorem compiled_names_denote_tinted :
    tinted.Reachable ∧ ¬tinted.SharesName "tint" ∧ ∃ first second last,
      tinted.emit false .fragment .output = .ok [first, second, last] ∧
      tinted.resolve? [] first "tint" = some .file ∧ tinted.resolve? [] first "n2_0" = some .function ∧
      tinted.resolve? [first] second "n2_0" = some .function ∧
      tinted.resolve? [first] second "n3_0" = some .function := by
  have hReachable : tinted.Reachable := .edited (.new .spatial) (by decide)
  have hView : (tinted.emit false .fragment .output).map (·.map fun e => (e.id, e.locals, e.declarations)) =
      .ok [(2, [⟨.scalar, "n2_0"⟩], "uniform float tint;\n"), (3, [⟨.scalar, "n3_0"⟩], ""), (0, [], "")] := by
    decide +kernel
  have hUniform : (tinted.graph .fragment).node? 2 = some (.uniform (.value { type := .scalar, name := "tint" })) := by
    decide +kernel
  have hExpression : (tinted.graph .fragment).node? 3 =
      some (.expression { inputs := [⟨.scalar, "a"⟩], outputs := [⟨.scalar, "b"⟩], code := "b = a;" }) := by
    decide +kernel
  have hShares : ¬tinted.SharesName "tint" := by
    rintro ⟨_, _, -, -, site, _, index, _, -, -, -, hName⟩
    have hNumbered := isNumbered_outputVariable site.id index
    rw [← hName] at hNumbered
    revert hNumbered
    decide
  obtain ⟨emissions, hEmit, hMap⟩ := Except.map_eq_ok_iff.mp hView
  obtain ⟨first, _, rfl, hFirst, hMap⟩ := List.map_eq_cons_iff.mp hMap
  obtain ⟨second, _, rfl, hSecond, hMap⟩ := List.map_eq_cons_iff.mp hMap
  obtain ⟨last, _, rfl, -, hMap⟩ := List.map_eq_cons_iff.mp hMap
  cases List.map_eq_nil_iff.mp hMap
  simp only [Prod.mk.injEq] at hFirst hSecond
  obtain ⟨hFirstId, hFirstLocals, hDeclarations⟩ := hFirst
  obtain ⟨hSecondId, hSecondLocals, -⟩ := hSecond
  obtain ⟨-, hBlocks⟩ := compiled_names_denote hReachable
  obtain ⟨-, hWritten, hRead⟩ := hBlocks .fragment [] first [second, last] hEmit
  obtain ⟨hEdges, hWritten', -⟩ := hBlocks .fragment [first] second [last] hEmit
  have hNoPort : ∀ name, ¬tinted.HasPort ⟨.fragment, first.id⟩ name := by
    rintro name ⟨n, hNode, -⟩
    rw [hFirstId] at hNode
    cases hUniform.symm.trans hNode
  have hPorts : ∀ name, isNumbered name = true → ¬tinted.HasPort ⟨.fragment, second.id⟩ name := by
    rintro _ hNumbered ⟨n, hNode, p, hMem, rfl⟩
    rw [hSecondId] at hNode
    cases hExpression.symm.trans hNode
    simp only [List.cons_append, List.nil_append, List.mem_cons, List.not_mem_nil, or_false] at hMem
    rcases hMem with rfl | rfl <;> revert hNumbered <;> decide
  refine ⟨hReachable, hShares, first, second, last, hEmit, ?_, ?_, ?_, ?_⟩
  · refine (hRead "tint" (.inl ?_) hShares).mpr ?_
    · rw [hDeclarations]
      decide +kernel
    · rintro ⟨u, hNode, -⟩
      rw [hFirstId] at hNode
      cases hUniform.symm.trans hNode
  · exact (hWritten ⟨.scalar, "n2_0"⟩ (by simp [hFirstLocals])).mpr (hNoPort _)
  · have hEdge : (⟨2, 0, 3, 0⟩ : Edge) ∈ (tinted.graph .fragment).edges := by decide +kernel
    have hType : (tinted.graph .fragment).outputType? 2 0 = some .scalar := by decide +kernel
    exact (hEdges _ hEdge hSecondId.symm _ hType rfl).mpr (hPorts _ (isNumbered_outputVariable 2 0))
  · exact (hWritten' ⟨.scalar, "n3_0"⟩ (by simp [hSecondLocals])).mpr (hPorts _ (by decide))

/-- A uniform and the ports of an expression that have the names of variables. -/
def twins : Design StandardNode :=
  (Design.empty .spatial).edited
    [.add .fragment 2 .origin (.uniform (.value { type := .scalar, name := "n2_0" })),
      .add .fragment 3 .origin
        (.expression { inputs := [⟨.scalar, "n2_0"⟩], outputs := [⟨.scalar, "n3_0"⟩], code := "n3_0 = n2_0;" }),
      .connect .fragment ⟨2, 0, 3, 0⟩, .connect .fragment ⟨3, 0, 0, 0⟩]

/-- In a compile without diagnostics a variable is set from itself where a uniform was meant, and from itself where it
was to be set from a port. -/
theorem compiled_names_clash :
    twins.Reachable ∧ twins.compile.diagnostics = [] ∧ twins.uniforms = ["n2_0"] ∧
      (twins.emit false .fragment .output).map
          (·.map fun e => (e.locals.map LocalVariable.name, definedNames e.code, Statement.renderAll e.code)) =
        .ok [(["n2_0"], [], "n2_0 = n2_0;\n"),
          (["n3_0"], ["n2_0", "n3_0"],
            "float n2_0 = n2_0;\nfloat n3_0 = 0.0;\n\x7b\n\tn3_0 = n2_0;\n\x7d\nn3_0 = n3_0;\n"),
          ([], [], "ALBEDO = vec3(n3_0);\n")] := by
  have hReachable : twins.Reachable := .edited (.new .spatial) (by decide)
  exact ⟨hReachable, by decide +kernel, by decide +kernel, by decide +kernel⟩

end Design

end ShadeGraph
