import ShadeGraph.Proofs.Description

/-!
# Samplers are declared, bound and handed on alike

A node declares a sampler, binds it and hands it on in three places of its own. For every node the three agree, and
the first node of a name decides what is bound to it. So the text of a shader declares the samplers that are bound.
-/

namespace ShadeGraph

/-! ## What nodes declare and bind -/

def samplerKeywords : List (List Char) := [PortType.sampler2D, PortType.samplerCube].map fun type => type.keyword.toList

/-- The identifier that a line declares as a sampler. -/
def declaredSampler? (line : List Char) : Option String := do
  let (_, rest) ← Text.cutAt ' ' line
  let (type, _) ← Text.cutAt ' ' rest
  if type ∈ samplerKeywords then declaredUniform? line else none

/-- The identifiers that a text declares as samplers. -/
def samplersIn (text : String) : List String := (Text.lines text.toList).filterMap declaredSampler?

theorem samplersIn_declaration {type name hint : String} (hType : Text.IsPlain type.toList)
    (hName : UniformName.IsName name) (hHint : isHint hint = true) :
    samplersIn ("uniform " ++ type ++ " " ++ name ++ hint ++ ";\n") =
      if type.toList ∈ samplerKeywords then [name] else [] := by
  have hKeyword : ' ' ∉ uniformKeyword := by decide
  have hTypeWord : ' ' ∉ type.toList := hType.not_mem (by decide)
  have hSampler : declaredSampler? (declarationLine type name hint) =
      if type.toList ∈ samplerKeywords then some name else none := by
    rw [declaredSampler?, declaredUniform?_declarationLine hType hName hHint, declarationLine,
      Text.cutAt_append _ hKeyword]
    simp only [Option.bind_eq_bind, Option.bind_some, Text.cutAt_append _ hTypeWord]
  rw [samplersIn, lines_declaration hType hName hHint, List.filterMap_cons, hSampler]
  split_ifs <;> rfl

theorem samplersIn_triplanarHelpers : samplersIn TextureUniform.triplanarHelpers = [] := by
  rw [samplersIn, TextureUniform.triplanarHelpers]
  repeat rw [Text.toList_concat_cons]
  decide +kernel

theorem samplersIn_concat {texts : List String} (h : ∀ text ∈ texts, Text.EndsLine text.toList) :
    samplersIn (Text.concat texts) = texts.flatMap samplersIn := by
  rw [samplersIn, Text.lines_concat h, List.filterMap_flatMap]
  rfl

namespace StandardNode

/-- The resource that a node has among its parameters. -/
def resource? (n : StandardNode) : Option String :=
  (NodeModel.params n).findSome? fun (_, value) => match value with
    | .resource path => path
    | _ => none

/-- The samplers that a node declares at file scope. -/
def samplers (n : StandardNode) (ctx : EmitContext) : List String :=
  samplersIn (NodeModel.declarations n ctx) ++ samplersIn (NodeModel.helpers n ctx)

theorem samplersIn_helpers (n : StandardNode) (ctx : EmitContext) : samplersIn (NodeModel.helpers n ctx) = [] := by
  rcases n.helpers_cases ctx with hNone | ⟨-, hTriplanar⟩
  · rw [hNone]
    rfl
  · rw [hTriplanar, samplersIn_triplanarHelpers]

theorem samplersIn_samplingDeclaration (type : PortType) (hType : type.isSampler = true) {name : String}
    (h : UniformName.IsName name) (texture : TextureType) (unbound : ColorDefault) :
    samplersIn (Sampling.declaration type name texture unbound) = [name] := by
  have hKeyword : type.keyword.toList ∈ samplerKeywords := by
    cases type
    case sampler2D => decide
    case samplerCube => decide
    all_goals cases hType
  have hHint : isHint (Sampling.declaredHint texture unbound) = true := by
    cases texture <;> cases unbound <;> decide
  have hPlain : Text.IsPlain type.keyword.toList := by cases type <;> decide
  exact (samplersIn_declaration hPlain h hHint).trans (if_pos hKeyword)

theorem samplersIn_valueUniform {u : ValueUniform} (h : UniformName.IsName u.name) :
    samplersIn u.declarations = [] := by
  have hType : Text.IsPlain (ValueUniform.declaredType u.type).toList := by cases u.type <;> decide
  have hHint : isHint (ValueUniform.declaredHint u.type) = true := by cases u.type <;> decide
  have hKeyword : (ValueUniform.declaredType u.type).toList ∉ samplerKeywords := by cases u.type <;> decide
  exact (samplersIn_declaration hType h hHint).trans (if_neg hKeyword)

theorem bindings_eq_of_one {n : StandardNode} {ctx : EmitContext} {name : String} {resource : Option String}
    (hBindings : NodeModel.bindings n ctx = [⟨name, resource⟩])
    (hDeclared : samplersIn (NodeModel.declarations n ctx) = [name]) (hResource : n.resource? = resource) :
    NodeModel.bindings n ctx = (n.samplers ctx).map fun name => ⟨name, n.resource?⟩ := by
  rw [hBindings, samplers, samplersIn_helpers, hDeclared, hResource]
  rfl

/-- A node binds the samplers that it declares, each to its resource. -/
theorem bindings_eq {n : StandardNode} (hGlobal : NodeModel.isGlobal n = false)
    (hName : ∀ name, NodeModel.uniformName? n = some name → UniformName.IsName name) (ctx : EmitContext) :
    NodeModel.bindings n ctx = (n.samplers ctx).map fun name => ⟨name, n.resource?⟩ := by
  cases n with
  | uniform n =>
    have hIsName : UniformName.IsName n.name := hName n.name rfl
    cases n with
    | value u =>
      have hDeclared : samplersIn (NodeModel.declarations (uniform (.value u)) ctx) = [] :=
        samplersIn_valueUniform hIsName
      rw [samplers, samplersIn_helpers, hDeclared]
      rfl
    | texture u =>
      refine bindings_eq_of_one rfl (samplersIn_samplingDeclaration .sampler2D rfl hIsName u.texture u.unbound) ?_
      obtain ⟨_, _, _, _, resource⟩ := u
      cases resource <;> rfl
    | cubeMap u =>
      refine bindings_eq_of_one rfl (samplersIn_samplingDeclaration .samplerCube rfl hIsName u.texture u.unbound) ?_
      obtain ⟨_, _, _, resource⟩ := u
      cases resource <;> rfl
  | texture n =>
    by_cases hSource : n.source = .texture
    · have hTex : UniformName.IsName "tex" := ⟨'t', "ex".toList, rfl, rfl, List.all_eq_true.mp (by decide)⟩
      refine bindings_eq_of_one (if_pos hSource) ?_ ?_
      · rw [show NodeModel.declarations (texture n) ctx = _ from if_pos hSource]
        exact samplersIn_samplingDeclaration .sampler2D rfl (ctx.isName_ownName hTex) n.texture .white
      · obtain ⟨_, _, resource⟩ := n
        cases resource <;> rfl
    · rw [samplers, samplersIn_helpers, show NodeModel.declarations (texture n) ctx = _ from if_neg hSource]
      exact if_neg hSource
  | cubeMap n =>
    by_cases hSource : n.source = .texture
    · have hCube : UniformName.IsName "cube" := ⟨'c', "ube".toList, rfl, rfl, List.all_eq_true.mp (by decide)⟩
      refine bindings_eq_of_one (if_pos hSource) ?_ ?_
      · rw [show NodeModel.declarations (cubeMap n) ctx = _ from if_pos hSource]
        exact samplersIn_samplingDeclaration .samplerCube rfl (ctx.isName_ownName hCube) n.texture .white
      · obtain ⟨_, _, resource⟩ := n
        cases resource <;> rfl
    · rw [samplers, samplersIn_helpers, show NodeModel.declarations (cubeMap n) ctx = _ from if_neg hSource]
      exact if_neg hSource
  | globalExpression n => cases hGlobal
  | _ => rfl

theorem samplers_eq {n : StandardNode} (hGlobal : NodeModel.isGlobal n = false)
    (hName : ∀ name, NodeModel.uniformName? n = some name → UniformName.IsName name) (ctx : EmitContext) :
    n.samplers ctx = (NodeModel.bindings n ctx).map Binding.name := by
  rw [bindings_eq hGlobal hName, List.map_map]
  exact (List.map_id _).symm

/-- What a node hands on is nothing, a sampler that it declares or a sampler among the built-ins. -/
theorem samplerName?_cases {n : StandardNode} {ctx : EmitContext} (hBound : NodeModel.bind ctx.mode ctx.stage n = n)
    (hName : ∀ name, NodeModel.uniformName? n = some name → UniformName.IsName name) {port : Nat} {name : String}
    (h : NodeModel.samplerName? n ctx port = some name) :
    name = "" ∨ name ∈ n.samplers ctx ∨
      ∃ row ∈ StageBuiltin.inputs ctx.mode ctx.stage, row.type.isSampler = true ∧ row.expression = name := by
  rcases samplerName?_eq_some_cases h with ⟨u, rfl, rfl⟩ | ⟨i, row, rfl, hFind, hSampler, rfl⟩
  · right
    left
    rw [samplers_eq rfl hName]
    cases u with
    | value u => cases h
    | texture u | cubeMap u => exact List.mem_cons_self
  · obtain ⟨inputName, mode, stage⟩ := i
    obtain ⟨-, rfl, rfl⟩ := InputNode.mk.inj (input.inj hBound)
    split_ifs
    · exact .inl rfl
    · exact .inr (.inr ⟨row, List.mem_of_find?_eq_some hFind, hSampler, rfl⟩)

/-! ## What nodes put at file scope -/

theorem endsLine_declarations {n : StandardNode} (hGlobal : NodeModel.isGlobal n = false) (ctx : EmitContext) :
    Text.EndsLine (NodeModel.declarations n ctx).toList := by
  have hStatement (text : String) : Text.EndsLine (text ++ ";\n").toList := Text.endsLine_append text rfl
  cases n with
  | uniform u => cases u <;> exact hStatement _
  | texture t =>
    change Text.EndsLine (t.declarations ctx).toList
    rw [TextureNode.declarations]
    split
    · exact hStatement _
    · exact .inl rfl
  | cubeMap t =>
    change Text.EndsLine (t.declarations ctx).toList
    rw [CubeMapNode.declarations]
    split
    · exact hStatement _
    · exact .inl rfl
  | globalExpression => cases hGlobal
  | _ => exact .inl rfl

theorem endsLine_triplanarHelpers : Text.EndsLine TextureUniform.triplanarHelpers.toList := by
  rw [TextureUniform.triplanarHelpers]
  repeat rw [Text.toList_concat_cons]
  decide +kernel

theorem endsLine_helpers (n : StandardNode) (ctx : EmitContext) : Text.EndsLine (NodeModel.helpers n ctx).toList := by
  rcases n.helpers_cases ctx with hNone | ⟨-, hTriplanar⟩
  · rw [hNone]
    exact .inl rfl
  · rw [hTriplanar]
    exact endsLine_triplanarHelpers

end StandardNode

/-- What nodes put at file scope: what they declare, and then their helpers. -/
def fileText (nodes : List Contributor) : String :=
  Text.concat (declarationTexts nodes) ++ Text.concat (helperTexts nodes)

theorem mem_samplersIn_fileText_iff {nodes : List Contributor} (h : ∀ x ∈ nodes, NodeModel.isGlobal x.2 = false)
    {name : String} : name ∈ samplersIn (fileText nodes) ↔ ∃ x ∈ nodes, name ∈ x.2.samplers x.1 := by
  have hTexts {text : String} : text ∈ declarationTexts nodes ++ helperTexts nodes ↔
      text ≠ "" ∧ ∃ x ∈ nodes, NodeModel.declarations x.2 x.1 = text ∨ NodeModel.helpers x.2 x.1 = text := by
    rw [List.mem_append, declarationTexts, helperTexts, mem_distinctTexts_iff, mem_distinctTexts_iff]
    simp only [List.mem_map, ← exists_or, ← and_or_left, and_comm]
  have hEnds : ∀ text ∈ declarationTexts nodes ++ helperTexts nodes, Text.EndsLine text.toList := by
    intro text hText
    obtain ⟨-, x, hMem, rfl | rfl⟩ := hTexts.mp hText
    · exact StandardNode.endsLine_declarations (h x hMem) x.1
    · exact x.2.endsLine_helpers x.1
  rw [fileText, ← Text.concat_append, samplersIn_concat hEnds, List.mem_flatMap]
  constructor
  · rintro ⟨text, hText, hName⟩
    obtain ⟨-, x, hMem, rfl | rfl⟩ := hTexts.mp hText
    · exact ⟨x, hMem, List.mem_append_left _ hName⟩
    · exact ⟨x, hMem, List.mem_append_right _ hName⟩
  · rintro ⟨x, hMem, hName⟩
    -- an empty text declares nothing
    have hNe {text : String} (hIn : name ∈ samplersIn text) : text ≠ "" := by
      rintro rfl
      cases hIn
    rcases List.mem_append.mp hName with hIn | hIn
    · exact ⟨_, hTexts.mpr ⟨hNe hIn, x, hMem, .inl rfl⟩, hIn⟩
    · exact ⟨_, hTexts.mpr ⟨hNe hIn, x, hMem, .inr rfl⟩, hIn⟩

/-! ## What an assembly binds -/

namespace Assembly

variable {a b : Assembly} {found : List Binding}

/-- Of the bindings that were found, the first of every name are kept. -/
structure Collects (a : Assembly) (found : List Binding) : Prop where
  known : ∀ name, (∃ owner, a.bound.get? name = some owner) ↔ name ∈ a.bindings.map Binding.name
  nodup : (a.bindings.map Binding.name).Nodup
  mem_iff : ∀ binding, binding ∈ a.bindings ↔ found.find? (·.name = binding.name) = some binding

theorem Collects.of_eq (h : a.Collects found) (hBound : b.bound = a.bound) (hBindings : b.bindings = a.bindings) :
    b.Collects found := by
  constructor
  · rw [hBound, hBindings]
    exact h.known
  · rw [hBindings]
    exact h.nodup
  · rw [hBindings]
    exact h.mem_iff

theorem Collects.mem_names_iff (h : a.Collects found) {name : String} :
    name ∈ a.bindings.map Binding.name ↔ name ∈ found.map Binding.name := by
  constructor
  · intro hMem
    obtain ⟨binding, hBinding, rfl⟩ := List.mem_map.mp hMem
    exact List.mem_map_of_mem (List.mem_of_find?_eq_some ((h.mem_iff binding).mp hBinding))
  · intro hMem
    obtain ⟨binding, hBinding, rfl⟩ := List.mem_map.mp hMem
    cases hFind : found.find? (·.name = binding.name) with
    | none =>
      have hOther := List.find?_eq_none.mp hFind binding hBinding
      simp at hOther
    | some first =>
      have hName : first.name = binding.name := by simpa using List.find?_some hFind
      rw [← hName] at hFind ⊢
      exact List.mem_map_of_mem ((h.mem_iff first).mpr hFind)

/-- A binding is found under its name first, unless the name was found before. -/
theorem find?_append_binding (found : List Binding) (binding : Binding) (name : String) :
    (found ++ [binding]).find? (·.name = name) =
      if name = binding.name ∧ name ∉ found.map Binding.name then some binding else found.find? (·.name = name) := by
  have hNone : found.find? (·.name = name) = none ↔ name ∉ found.map Binding.name := by
    rw [List.find?_eq_none, List.mem_map]
    simp
  rw [List.find?_append]
  by_cases hKnown : name ∈ found.map Binding.name
  · have hSome : found.find? (·.name = name) ≠ none := mt hNone.mp (not_not.mpr hKnown)
    rw [if_neg fun hNew => hNew.2 hKnown, Option.or_of_isSome (Option.isSome_iff_ne_none.mpr hSome)]
  · rw [hNone.mpr hKnown, Option.none_or, List.find?_singleton]
    simp [hKnown, eq_comm]

theorem Collects.bind (h : a.Collects found) (site : Site) (binding : Binding) :
    (a.bind site binding).Collects (found ++ [binding]) := by
  rw [Assembly.bind]
  split
  · rename_i hNew
    have hFresh : binding.name ∉ a.bindings.map Binding.name := by
      rw [← h.known, hNew]
      simp
    refine ⟨fun name => ?_, ?_, fun other => ?_⟩
    · rw [Table.get?_insert, List.map_append, List.mem_append, ← h.known]
      split_ifs with hName <;> simp [hName]
    · rw [List.map_append]
      exact h.nodup.append (List.nodup_singleton _) (by simpa using hFresh)
    · rw [find?_append_binding, List.mem_append, List.mem_singleton]
      by_cases hName : other.name = binding.name
      · have hOld : other ∉ a.bindings := fun hMem => hFresh (hName ▸ List.mem_map_of_mem hMem)
        rw [if_pos ⟨hName, hName ▸ mt h.mem_names_iff.mpr hFresh⟩]
        simp [hOld, eq_comm]
      · have hOther : other ≠ binding := fun hSame => hName (congrArg Binding.name hSame)
        rw [if_neg fun hBoth => hName hBoth.1, ← h.mem_iff]
        simp [hOther]
  · rename_i owner hOwner
    have hKnown : binding.name ∈ found.map Binding.name := h.mem_names_iff.mp ((h.known _).mp ⟨owner, hOwner⟩)
    have hSame : a.Collects (found ++ [binding]) := by
      refine ⟨h.known, h.nodup, fun other => ?_⟩
      rw [find?_append_binding, if_neg fun hNew => hNew.2 (hNew.1 ▸ hKnown)]
      exact h.mem_iff other
    split_ifs
    · exact hSame
    · rw [reportClash]
      split_ifs
      · exact hSame
      · exact hSame.of_eq rfl rfl

/-- What each step collects, a run collects. -/
theorem Collects.foldl {α : Type} {step : Assembly → α → Assembly} {new : α → List Binding}
    (hStep : ∀ a found x, Collects a found → (step a x).Collects (found ++ new x)) (h : a.Collects found) (l : List α) :
    (l.foldl step a).Collects (found ++ l.flatMap new) := by
  induction l generalizing a found with
  | nil => simpa using h
  | cons x rest ih =>
    rw [List.foldl_cons, List.flatMap_cons, ← List.append_assoc]
    exact ih (hStep a found x h)

/-- What a step has to keep so that it collects nothing. -/
def ledger (a : Assembly) : Table String Site × List Binding := (a.bound, a.bindings)

theorem ledger_addFileScope (a : Assembly) (e : Emission) : (a.addFileScope e).ledger = a.ledger := by
  rw [addFileScope, addPrologues]
  split_ifs <;> rfl

theorem ledger_declare (site : Site) (a : Assembly) (name : String) : (a.declare site name).ledger = a.ledger := by
  rw [declare]
  split
  · rfl
  · rw [reportClash]
    split_ifs <;> rfl

theorem Collects.commit (h : a.Collects found) (stage : Stage) (emissions : List Emission) :
    (a.commit stage emissions).Collects (found ++ emissions.flatMap Emission.bindings) := by
  have hLedger : ((emissions.foldl addFileScope a).declareAll stage emissions).ledger = a.ledger := by
    rw [declareAll, foldl_keeps fun _ _ => foldl_keeps (ledger_declare _) _ _, foldl_keeps ledger_addFileScope]
  have hDeclared : ((emissions.foldl addFileScope a).declareAll stage emissions).Collects found :=
    h.of_eq (congrArg Prod.fst hLedger) (congrArg Prod.snd hLedger)
  have hEmission (a : Assembly) (found : List Binding) (e : Emission) (h : a.Collects found) :
      (e.bindings.foldl (·.bind ⟨stage, e.id⟩ ·) a).Collects (found ++ e.bindings) := by
    have hEach := h.foldl (fun _ _ binding hCollects => hCollects.bind ⟨stage, e.id⟩ binding) e.bindings
    rwa [List.flatMap_singleton'] at hEach
  exact (hDeclared.foldl hEmission emissions).of_eq rfl rfl

theorem Collects.add (h : a.Collects found) (stage : Stage) (result : Except StageFailure (List Emission)) :
    (a.add stage result).Collects (found ++ (placedEmissions stage result).flatMap fun x => x.2.bindings) := by
  cases result with
  | ok emissions =>
    rw [placedEmissions, List.flatMap_map]
    exact h.commit stage emissions
  | error failure =>
    rw [placedEmissions, List.flatMap_nil, List.append_nil]
    exact h.of_eq rfl rfl

theorem collects_empty : Collects {} [] where
  known name := by simp
  nodup := List.nodup_nil
  mem_iff binding := by simp

end Assembly

/-! ## Samplers of a shader -/

theorem StageGraph.wired_sampler {g : StageGraph StandardNode} {ctx : EmitContext} {port : Port} {e : Edge}
    {operand : Operand} {type : PortType} (h : g.wired ctx port e = .ok operand)
    (hType : g.outputType? e.source e.output = some type) (hSampler : type.isSampler = true) :
    ∃ n, g.node? e.source = some n ∧
      operand.text = (NodeModel.samplerName? n { ctx with id := e.source } e.output).getD "" := by
  obtain ⟨n, hNode, -⟩ := outputType?_eq_some_iff.mp hType
  simp only [wired, hNode, hType, hSampler, if_true] at h
  split_ifs at h
  cases h
  exact ⟨n, hNode, rfl⟩

namespace Design

variable {d : Design StandardNode} {preview : Bool} {stage : Stage} {root : NodeId}

/-- The text that a node is handed for one of its inputs. -/
def IsHanded (d : Design StandardNode) (x : Contributor) (input : Nat) (text : String) : Prop :=
  ∃ placed operands, (d.graph x.1.stage).placed? x.1.id = some placed ∧
    (d.graph x.1.stage).operands placed x.1 = .ok operands ∧ (operands.map Operand.text)[input]? = some text

/-- Along every edge that hands a sampler to one of the nodes goes nothing, a sampler that one of them declares or one
of the built-ins. -/
def HandsOn (d : Design StandardNode) (nodes : List Contributor) : Prop :=
  ∀ x ∈ nodes, ∀ e ∈ (d.graph x.1.stage).edges, e.target = x.1.id →
    ∀ type, (d.graph x.1.stage).outputType? e.source e.output = some type → type.isSampler = true →
      ∃ text, d.IsHanded x e.input text ∧ (text = "" ∨ (∃ y ∈ nodes, text ∈ y.2.samplers y.1) ∨
        ∃ row ∈ StageBuiltin.inputs d.mode x.1.stage, row.type.isSampler = true ∧ row.expression = text)

/-- What is bound, what the text and its nodes declare as samplers, and what nodes hand on. -/
structure SamplersAgree (d : Design StandardNode) (header : String) (shader : Shader) (nodes : List Contributor) :
    Prop where
  /-- What the nodes put at file scope follows the header. The code of users and the functions come after it. -/
  source : ∃ (globals : Stage → List (NodeId × GlobalExpression)) (functions : String),
    (∀ stage, d.IsGlobalCode stage (globals stage)) ∧
      shader.source = header ++ fileText nodes ++ Text.concat (globalTexts globals) ++ ("\nvoid " ++ functions)
  distinct : (shader.bindings.map Binding.name).Nodup
  written : ∀ name, name ∈ shader.bindings.map Binding.name ↔ name ∈ samplersIn (fileText nodes)
  declared : ∀ name, name ∈ shader.bindings.map Binding.name ↔ ∃ x ∈ nodes, name ∈ x.2.samplers x.1
  /-- The first node that declares a name decides on the resource. -/
  resource : ∀ b ∈ shader.bindings, ∃ before x after, nodes = before ++ x :: after ∧ b.name ∈ x.2.samplers x.1 ∧
    (∀ y ∈ before, b.name ∉ y.2.samplers y.1) ∧ b.resource = x.2.resource?
  handed : d.HandsOn nodes

theorem Reachable.isName_of_mem (h : d.Reachable) {x : Contributor} (hMem : x ∈ d.closureNodes preview stage root)
    {name : String} (hName : NodeModel.uniformName? x.2 = some name) : UniformName.IsName name := by
  obtain ⟨_, _, -, -, id, -, n, hNode, rfl⟩ := mem_closureNodes_iff.mp hMem
  exact h.isName hNode hName

/-- The bindings of a closure's emissions are what its nodes declare. -/
theorem Reachable.bindings_closureNodes (h : d.Reachable) (hRoot : d.IsRoot stage root) (preview : Bool) :
    (placedEmissions stage (d.emit preview stage root)).flatMap (fun y => y.2.bindings) =
      (d.closureNodes preview stage root).flatMap fun x =>
        (x.2.samplers x.1).map fun name => ⟨name, x.2.resource?⟩ := by
  rw [List.flatMap_def, List.flatMap_def,
    ← h.map_closureNodes (f := fun x => NodeModel.bindings x.2 x.1) hRoot (fun x y hOf => hOf.bindings.symm) preview]
  congr 1
  refine List.map_congr_left fun x hMem => ?_
  exact StandardNode.bindings_eq (h.isGlobal_of_mem_closureNodes hRoot hMem) (fun name => h.isName_of_mem hMem) _

theorem Reachable.handsOn_closureNodes (h : d.Reachable) (hRoot : d.IsRoot stage root) (preview : Bool) :
    d.HandsOn (d.closureNodes preview stage root) := by
  intro x hMem e hEdge hTarget type hType hSampler
  obtain ⟨placed, operands, hPlaced, hNode, hOperands⟩ := h.exists_operands hRoot hMem
  obtain ⟨emissions, order, hEmit, hOrder, id, hId, n, hPresent, rfl⟩ := mem_closureNodes_iff.mp hMem
  change e.target = id at hTarget
  obtain ⟨before, after, hSplit⟩ := List.append_of_mem hId
  obtain ⟨hRange, hBefore⟩ := StageGraph.order_sources_before hOrder (hTarget ▸ hSplit) hEdge
  obtain ⟨-, port, hPort⟩ := StageGraph.inRange_iff.mp hRange
  obtain ⟨m, hSame, hIndex⟩ := StageGraph.inputPort?_eq_some_iff.mp hPort
  rw [hTarget] at hSame
  cases (StageGraph.node?_eq_some_iff.mpr ⟨placed, hPlaced, rfl⟩).symm.trans hSame
  obtain ⟨operand, hGet, hOperand⟩ := StageGraph.operands_getElem? hOperands hIndex
  rw [StageGraph.operandAt, ← hTarget, (h.wired stage).reading?_eq hEdge] at hOperand
  obtain ⟨source, hSource, hText⟩ := StageGraph.wired_sampler hOperand hType hSampler
  refine ⟨operand.text, ⟨placed, operands, hPlaced, hOperands, by rw [List.getElem?_map, hGet]; rfl⟩, ?_⟩
  rw [hText]
  cases hHanded : NodeModel.samplerName? source ⟨d.mode, stage, e.source, preview⟩ e.output with
  | none => exact .inl rfl
  | some name =>
    have hMemSource : (⟨d.mode, stage, e.source, preview⟩, source) ∈ d.closureNodes preview stage root :=
      mem_closureNodes_iff.mpr
        ⟨emissions, order, hEmit, hOrder, e.source, hSplit ▸ List.mem_append_left _ hBefore, source, hSource, rfl⟩
    have hBound := (h.intact.anchored stage).bound e.source source hSource
    rcases StandardNode.samplerName?_cases hBound (fun _ => h.isName hSource) hHanded with hEmpty | hDeclared | hRow
    · exact .inl hEmpty
    · exact .inr (.inl ⟨_, hMemSource, hDeclared⟩)
    · exact .inr (.inr hRow)

/-- The bindings of an assembly agree with the nodes whose bindings it collects and whose texts it holds. -/
theorem samplersAgree_of_collects {a : Assembly} {nodes : List Contributor}
    (hCollects : a.Collects (nodes.flatMap fun x => (x.2.samplers x.1).map fun name => ⟨name, x.2.resource?⟩))
    (hDeclarations : a.declarations = declarationTexts nodes) (hHelpers : a.helpers = helperTexts nodes)
    (hGlobal : ∀ x ∈ nodes, NodeModel.isGlobal x.2 = false) (hHanded : d.HandsOn nodes) (header functions : String)
    (preview : Bool) : d.SamplersAgree header
      ⟨header ++ d.fileScope preview a ++ ("\nvoid " ++ functions), a.bindings, a.diagnostics⟩ nodes := by
  have hDeclared (name : String) : name ∈ a.bindings.map Binding.name ↔ ∃ x ∈ nodes, name ∈ x.2.samplers x.1 := by
    rw [hCollects.mem_names_iff]
    simp [List.map_flatMap]
  constructor
  case source =>
    choose globals hGlobals hNodes using d.exists_isGlobalCode
    refine ⟨globals, functions, hGlobals, ?_⟩
    rw [fileScope_eq preview a hNodes, hDeclarations, hHelpers, ← fileText]
    simp only [String.append_assoc]
  case distinct => exact hCollects.nodup
  case written =>
    intro name
    rw [hDeclared, mem_samplersIn_fileText_iff hGlobal]
  case declared => exact hDeclared
  case resource =>
    intro b hMem
    have hFirst := (hCollects.mem_iff b).mp hMem
    rw [List.find?_flatMap] at hFirst
    obtain ⟨before, x, after, hNodes, hFound, hBefore⟩ := List.findSome?_eq_some_iff.mp hFirst
    obtain ⟨name, hName, rfl⟩ := List.mem_map.mp (List.mem_of_find?_eq_some hFound)
    refine ⟨before, x, after, hNodes, hName, fun y hy hDeclared => ?_, rfl⟩
    have hNone := List.find?_eq_none.mp (hBefore y hy) ⟨name, y.2.resource?⟩ (List.mem_map_of_mem hDeclared)
    simp at hNone
  case handed => exact hHanded

theorem Reachable.collects_assembly (h : d.Reachable) : d.assembly.Collects
    (d.contributors.flatMap fun x => (x.2.samplers x.1).map fun name => ⟨name, x.2.resource?⟩) := by
  have hRun := Assembly.collects_empty.foldl
    (fun _ _ stage hCollects => hCollects.add stage (d.emit false stage .output)) Stage.all
  simp only [fun stage => h.bindings_closureNodes (h.isRoot_output stage) false] at hRun
  rwa [List.nil_append, ← List.flatMap_assoc] at hRun

theorem Reachable.handsOn_contributors (h : d.Reachable) : d.HandsOn d.contributors := by
  intro x hMem e hEdge hTarget type hType hSampler
  obtain ⟨stage, hStage, hClosure⟩ := List.mem_flatMap.mp hMem
  obtain ⟨text, hHanded, hText⟩ :=
    h.handsOn_closureNodes (h.isRoot_output stage) false x hClosure e hEdge hTarget type hType hSampler
  refine ⟨text, hHanded, hText.imp_right (Or.imp_left ?_)⟩
  rintro ⟨y, hMemY, hDeclared⟩
  exact ⟨y, List.mem_flatMap.mpr ⟨stage, hStage, hMemY⟩, hDeclared⟩

theorem functionText_eq_void (name prologue body : String) :
    functionText name prologue body = "\nvoid " ++ (name ++ ("() \x7b\n" ++ (prologue ++ (body ++ "\x7d\n")))) := by
  simp only [functionText, String.append_assoc]

/-- In a compile and in every preview no name is bound twice. A name is bound exactly if the text declares it as a
sampler where nodes declare what they need at file scope, and exactly if a node of a closure that is emitted declares
it; the first such node gives the resource. What nodes hand on as a sampler is nothing, a name that is so declared, or
a sampler among the built-ins of the mode and stage. -/
theorem samplers_agree (hReachable : d.Reachable) :
    d.SamplersAgree (d.settings.header d.mode) d.compile d.contributors ∧
    ∀ stage id port shader, d.preview? stage id port = some shader →
      d.SamplersAgree (RenderSettings.empty.header .canvas) shader (d.closureNodes true stage id) := by
  constructor
  · have hGlobal : ∀ x ∈ d.contributors, NodeModel.isGlobal x.2 = false := by
      intro x hMem
      obtain ⟨stage, -, hClosure⟩ := List.mem_flatMap.mp hMem
      exact hReachable.isGlobal_of_mem_closureNodes (hReachable.isRoot_output stage) hClosure
    obtain ⟨functions, hFunctions⟩ :
        ∃ functions, Text.concat (Stage.all.map d.function) = "\nvoid " ++ functions := by
      rw [Stage.all, List.map_cons, Text.concat_cons, function, functionText_eq_void, String.append_assoc]
      exact ⟨_, rfl⟩
    rw [compile_eq, hFunctions]
    exact samplersAgree_of_collects hReachable.collects_assembly hReachable.declarations_assembly
      hReachable.helpers_assembly hGlobal hReachable.handsOn_contributors _ _ false
  · intro stage id port shader hPreview
    simp only [preview?, Option.bind_eq_bind, Option.bind_eq_some_iff, Option.pure_def, Option.some.injEq] at hPreview
    obtain ⟨type, hType, color, -, rfl⟩ := hPreview
    have hRoot := isRoot_of_outputType? hType
    have hCollects : (Assembly.add {} stage (d.emit true stage id)).Collects
        ((d.closureNodes true stage id).flatMap fun x =>
          (x.2.samplers x.1).map fun name => ⟨name, x.2.resource?⟩) := by
      rw [← hReachable.bindings_closureNodes hRoot true]
      exact Assembly.collects_empty.add stage (d.emit true stage id)
    rw [functionText_eq_void]
    exact samplersAgree_of_collects hCollects (hReachable.declarations_add hRoot true)
      (hReachable.helpers_add hRoot true) (fun x => hReachable.isGlobal_of_mem_closureNodes hRoot)
      (hReachable.handsOn_closureNodes hRoot true) _ _ true

/-- A texture that is read through its sampler, and a cube map that is only handed on. -/
def wallpapered : Design StandardNode :=
  (empty .spatial).edited
    [.add .fragment 2 .origin
        (.uniform (.texture { triplanar := false, name := "paper", resource := some "paper.png" })),
      .add .fragment 3 .origin (.texture { source := .samplerPort }),
      .add .fragment 4 .origin (.uniform (.cubeMap { name := "room", resource := some "room.png" })),
      .add .fragment 5 .origin (.cubeMap { source := .samplerPort }),
      .connect .fragment ⟨2, 2, 3, 2⟩, .connect .fragment ⟨3, 0, 0, 0⟩, .connect .fragment ⟨4, 0, 5, 2⟩,
      .connect .fragment ⟨5, 1, 0, 1⟩]

theorem samplers_agree_wallpapered :
    wallpapered.Reachable ∧
      wallpapered.compile.bindings = [⟨"paper", some "paper.png"⟩, ⟨"room", some "room.png"⟩] ∧
      "room" ∈ samplersIn (fileText wallpapered.contributors) ∧
      (∃ x ∈ wallpapered.contributors, "room" ∈ x.2.samplers x.1) ∧
      ∃ shader, wallpapered.preview? .fragment 3 0 = some shader ∧ shader.bindings = [⟨"paper", some "paper.png"⟩] ∧
        "room" ∉ samplersIn (fileText (wallpapered.closureNodes true .fragment 3)) := by
  have hReachable : wallpapered.Reachable := .edited (.new .spatial) (by decide)
  have hBindings : wallpapered.compile.bindings = [⟨"paper", some "paper.png"⟩, ⟨"room", some "room.png"⟩] := by
    decide +kernel
  have hRoom : "room" ∈ wallpapered.compile.bindings.map Binding.name := by
    rw [hBindings]
    decide
  obtain ⟨hCompile, hPreviews⟩ := samplers_agree hReachable
  have hPreview : (wallpapered.preview? .fragment 3 0).map Shader.bindings = some [⟨"paper", some "paper.png"⟩] := by
    decide +kernel
  obtain ⟨shader, hShader, hShown⟩ := Option.map_eq_some_iff.mp hPreview
  refine ⟨hReachable, hBindings, (hCompile.written "room").mp hRoom, (hCompile.declared "room").mp hRoom, shader,
    hShader, hShown, ?_⟩
  rw [← (hPreviews .fragment 3 0 shader hShader).written, hShown]
  decide

end Design

end ShadeGraph
