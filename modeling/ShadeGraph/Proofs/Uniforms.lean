import ShadeGraph.Proofs.Diagnosis

/-!
# Uniforms of the same name

Names of uniforms are kept apart when they are given, and names that the host binds are kept apart when stages are
assembled. The two do not know of each other, and neither knows the names in helpers.
-/

namespace ShadeGraph

/-! ## Declarations as text -/

/-- The word that starts a declaration. -/
def uniformKeyword : List Char := ['u', 'n', 'i', 'f', 'o', 'r', 'm']

/-- The identifier that a line declares as a uniform. -/
def declaredUniform? (line : List Char) : Option String := do
  let (keyword, rest) ← Text.cutAt ' ' line
  let (_, rest) ← Text.cutAt ' ' rest
  if keyword = uniformKeyword then some (String.ofList (rest.takeWhile fun c => c.isAlphanum || c = '_')) else none

/-- The identifiers that a text declares as uniforms. -/
def uniformsIn (text : String) : List String := (Text.lines text.toList).filterMap declaredUniform?

/-- Whether a text may follow the name in a declaration. -/
def isHint (text : String) : Bool :=
  (text.toList.head?.all fun c => !(c.isAlphanum || c = '_')) && !text.toList.contains '\n'

namespace UniformName

theorem IsName.isNameChar {name : String} (h : IsName name) {c : Char} (hMem : c ∈ name.toList) :
    (c.isAlphanum || c = '_') = true := by
  obtain ⟨first, rest, hName, hFirst, hRest⟩ := h
  rw [hName] at hMem
  rcases List.mem_cons.mp hMem with rfl | hMem
  · simp [isAlphanum_of_isAlpha hFirst]
  · exact hRest c hMem

end UniformName

/-- The line of a declaration. -/
def declarationLine (type name hint : String) : List Char :=
  uniformKeyword ++ ' ' :: (type.toList ++ ' ' :: (name.toList ++ (hint.toList ++ [';'])))

theorem lines_declaration {type name hint : String} (hType : Text.IsPlain type.toList)
    (hName : UniformName.IsName name) (hHint : isHint hint = true) :
    Text.lines ("uniform " ++ type ++ " " ++ name ++ hint ++ ";\n").toList = [declarationLine type name hint] := by
  have hText : ("uniform " ++ type ++ " " ++ name ++ hint ++ ";\n").toList =
      [declarationLine type name hint].flatMap (· ++ ['\n']) := by
    simp [declarationLine, uniformKeyword, String.toList_append]
  have hLine : '\n' ∉ declarationLine type name hint ∧ (declarationLine type name hint).getLast? ≠ some '\r' := by
    have hNameLine : '\n' ∉ name.toList := fun hMem => by cases hName.isNameChar hMem
    have hTypeLine : '\n' ∉ type.toList := hType.not_mem (by decide)
    have hHintLine : '\n' ∉ hint.toList := by simpa using (Bool.and_eq_true_iff.mp hHint).2
    refine ⟨by simp [declarationLine, uniformKeyword, hTypeLine, hNameLine, hHintLine], ?_⟩
    simp [declarationLine, List.getLast?_append, List.getLast?_cons]
  rw [hText, Text.lines_flatMap (List.forall_mem_singleton.mpr hLine)]

theorem declaredUniform?_declarationLine {type name hint : String} (hType : Text.IsPlain type.toList)
    (hName : UniformName.IsName name) (hHint : isHint hint = true) :
    declaredUniform? (declarationLine type name hint) = some name := by
  have hTake : (name.toList ++ (hint.toList ++ [';'])).takeWhile (fun c => c.isAlphanum || c = '_') = name.toList := by
    have hNone : (hint.toList ++ [';']).takeWhile (fun c => c.isAlphanum || c = '_') = [] := by
      have hEnds := (Bool.and_eq_true_iff.mp hHint).1
      cases hChars : hint.toList with
      | nil => rfl
      | cons c rest =>
        rw [hChars] at hEnds
        simp only [List.head?_cons, Option.all_some, Bool.not_eq_true'] at hEnds
        rw [List.cons_append, List.takeWhile_cons_of_neg (by rw [hEnds]; exact Bool.false_ne_true)]
    rw [List.takeWhile_append_of_pos fun c hMem => hName.isNameChar hMem, hNone, List.append_nil]
  have hKeyword : ' ' ∉ uniformKeyword := by decide
  have hTypeWord : ' ' ∉ type.toList := hType.not_mem (by decide)
  rw [declarationLine, declaredUniform?, Text.cutAt_append _ hKeyword]
  simp only [Option.bind_eq_bind, Option.bind_some, Text.cutAt_append _ hTypeWord]
  rw [if_pos trivial, hTake, String.ofList_toList]

theorem uniformsIn_declaration {type name hint : String} (hType : Text.IsPlain type.toList)
    (hName : UniformName.IsName name) (hHint : isHint hint = true) :
    uniformsIn ("uniform " ++ type ++ " " ++ name ++ hint ++ ";\n") = [name] := by
  rw [uniformsIn, lines_declaration hType hName hHint, List.filterMap_cons,
    declaredUniform?_declarationLine hType hName hHint]
  rfl

theorem uniformsIn_triplanarHelpers :
    uniformsIn TextureUniform.triplanarHelpers = ["triplanar_scale", "triplanar_offset", "triplanar_sharpness"] := by
  -- the characters are taken from the literals first, since they are slow to compute
  rw [uniformsIn, TextureUniform.triplanarHelpers]
  repeat rw [Text.toList_concat_cons]
  decide +kernel

/-! ## What nodes declare -/

theorem EmitContext.isName_ownName (ctx : EmitContext) {base : String} (h : UniformName.IsName base) :
    UniformName.IsName (ctx.ownName base) := by
  have hTag : ctx.stage.tag.toList.all (fun c => c.isAlphanum || c = '_') = true := by
    cases ctx.stage <;> decide
  obtain ⟨first, rest, hBase, hFirst, hRest⟩ := h
  refine ⟨first, rest ++ '_' :: (ctx.stage.tag.toList ++ '_' :: ctx.id.text.toList), ?_, hFirst, ?_⟩
  · simp [ownName, String.toList_append, hBase]
  · intro c hMem
    simp only [List.mem_append, List.mem_cons] at hMem
    rcases hMem with hBase | rfl | hStage | rfl | hId
    · exact hRest c hBase
    · rfl
    · exact List.all_eq_true.mp hTag c hStage
    · rfl
    · simp [Char.isAlphanum, Text.isDigit_of_mem_repr hId]

namespace StandardNode

/-- The sampler that a node declares for itself. -/
def ownSampler? (n : StandardNode) (ctx : EmitContext) : Option String :=
  match n with
  | .texture n => if n.source = .texture then some (TextureNode.ownSampler ctx) else none
  | .cubeMap n => if n.source = .texture then some (CubeMapNode.ownSampler ctx) else none
  | _ => none

/-- The uniform that a node declares: its own by its name, or a sampler for itself. -/
def declaredName? (n : StandardNode) (ctx : EmitContext) : Option String :=
  n.uniformName?.or (n.ownSampler? ctx)

theorem uniformsIn_declarations {n : StandardNode} (hGlobal : NodeModel.isGlobal n = false)
    (hName : ∀ name, NodeModel.uniformName? n = some name → UniformName.IsName name) (ctx : EmitContext) :
    uniformsIn (NodeModel.declarations n ctx) = (n.declaredName? ctx).toList := by
  have hSampling {name : String} (h : UniformName.IsName name) (type : PortType) (texture : TextureType)
      (unbound : ColorDefault) : uniformsIn (Sampling.declaration type name texture unbound) = [name] := by
    refine uniformsIn_declaration ?_ h ?_
    · cases type <;> decide
    · cases texture <;> cases unbound <;> decide
  have hTex : UniformName.IsName "tex" := ⟨'t', "ex".toList, rfl, rfl, List.all_eq_true.mp (by decide)⟩
  have hCube : UniformName.IsName "cube" := ⟨'c', "ube".toList, rfl, rfl, List.all_eq_true.mp (by decide)⟩
  cases n with
  | uniform n =>
    have hIsName : UniformName.IsName n.name := hName n.name rfl
    cases n with
    | value u =>
      refine uniformsIn_declaration ?_ hIsName ?_
      · cases u.type <;> decide
      · cases u.type <;> decide
    | texture u => exact hSampling hIsName _ u.texture u.unbound
    | cubeMap u => exact hSampling hIsName _ u.texture u.unbound
  | texture n =>
    change uniformsIn (n.declarations ctx) = (ownSampler? (.texture n) ctx).toList
    rw [TextureNode.declarations, ownSampler?]
    split
    · exact hSampling (ctx.isName_ownName hTex) .sampler2D n.texture .white
    · rfl
  | cubeMap n =>
    change uniformsIn (n.declarations ctx) = (ownSampler? (.cubeMap n) ctx).toList
    rw [CubeMapNode.declarations, ownSampler?]
    split
    · exact hSampling (ctx.isName_ownName hCube) .samplerCube n.texture .white
    · rfl
  | globalExpression n => cases hGlobal
  | _ => rfl

theorem declaredName?_cases {n : StandardNode} {ctx : EmitContext} {name : String}
    (h : n.declaredName? ctx = some name) :
    (∃ u : UniformNode, n = .uniform u ∧ u.name = name) ∨ n.ownSampler? ctx = some name := by
  cases n with
  | uniform u => exact .inl ⟨u, rfl, Option.some.inj h⟩
  | _ => exact .inr h

/-- A node binds the sampler that it declares for itself. -/
theorem ownSampler?_eq_some {n : StandardNode} {ctx : EmitContext} {name : String}
    (h : n.ownSampler? ctx = some name) :
    (name = ctx.ownName "tex" ∨ name = ctx.ownName "cube") ∧ name ∈ (NodeModel.bindings n ctx).map Binding.name := by
  cases n with
  | texture n =>
    simp only [ownSampler?, Option.ite_none_right_eq_some, Option.some.injEq] at h
    obtain ⟨hSource, rfl⟩ := h
    refine ⟨.inl rfl, ?_⟩
    change _ ∈ (n.bindings ctx).map Binding.name
    rw [TextureNode.bindings, if_pos hSource]
    exact List.mem_cons_self
  | cubeMap n =>
    simp only [ownSampler?, Option.ite_none_right_eq_some, Option.some.injEq] at h
    obtain ⟨hSource, rfl⟩ := h
    refine ⟨.inr rfl, ?_⟩
    change _ ∈ (n.bindings ctx).map Binding.name
    rw [CubeMapNode.bindings, if_pos hSource]
    exact List.mem_cons_self
  | _ => cases h

/-- What is declared is bound, the values apart. -/
theorem mem_bindings_of_declaredName? {n : StandardNode} {ctx : EmitContext} {name : String}
    (h : n.declaredName? ctx = some name) (hValue : ∀ u, n ≠ .uniform (.value u)) :
    name ∈ (NodeModel.bindings n ctx).map Binding.name := by
  rcases declaredName?_cases h with ⟨u, rfl, rfl⟩ | hOwn
  · cases u with
    | value u => exact (hValue u rfl).elim
    | texture u => exact List.mem_cons_self
    | cubeMap u => exact List.mem_cons_self
  · exact (ownSampler?_eq_some hOwn).2

theorem ownSampler?_not_mem_helpers {n : StandardNode} {ctx : EmitContext} {name : String}
    (h : n.ownSampler? ctx = some name) : name ∉ uniformsIn TextureUniform.triplanarHelpers := by
  have hStart : name.toList.take 2 ∈ [['t', 'e'], ['c', 'u']] := by
    rcases (ownSampler?_eq_some h).1 with rfl | rfl <;> simp [EmitContext.ownName, String.toList_append]
  intro hMem
  rw [uniformsIn_triplanarHelpers] at hMem
  simp only [List.mem_cons, List.not_mem_nil, or_false] at hMem
  rcases hMem with rfl | rfl | rfl <;> revert hStart <;> decide

/-- The helpers of a node are none, or those of a projection along the axes. -/
theorem helpers_cases (n : StandardNode) (ctx : EmitContext) :
    NodeModel.helpers n ctx = "" ∨
      (∃ u : TextureUniform, n = .uniform (.texture u) ∧ u.triplanar = true) ∧
        NodeModel.helpers n ctx = TextureUniform.triplanarHelpers := by
  cases n with
  | uniform u =>
    cases u with
    | texture u =>
      change u.helpers = "" ∨ _ ∧ u.helpers = _
      rw [TextureUniform.helpers]
      split
      · rename_i hTriplanar
        exact .inr ⟨⟨u, rfl, hTriplanar⟩, rfl⟩
      · exact .inl rfl
    | _ => exact .inl rfl
  | _ => exact .inl rfl

end StandardNode

/-! ## Names that are bound -/

/-- What a stage emits, each node at its site. -/
def placedEmissions (stage : Stage) : Except StageFailure (List Emission) → List (Site × Emission)
  | .ok emissions => emissions.map fun e => (⟨stage, e.id⟩, e)
  | .error _ => []

theorem exists_of_mem_placedEmissions {stage : Stage} {result : Except StageFailure (List Emission)} {site : Site}
    {e : Emission} (h : (site, e) ∈ placedEmissions stage result) :
    ∃ emissions, result = .ok emissions ∧ e ∈ emissions ∧ site = ⟨stage, e.id⟩ := by
  cases result with
  | error failure => cases h
  | ok emissions =>
    obtain ⟨_, hMem, hSame⟩ := List.mem_map.mp h
    cases hSame
    exact ⟨emissions, rfl, hMem, rfl⟩

/-- The names that a node at a site binds. -/
def boundNames (x : Site × Emission) : List (String × Site) := x.2.bindings.map fun b => (b.name, x.1)

namespace Assembly

variable {a b : Assembly} {names : List (String × Site)}

/-- If no clash is reported then none was found, and each of the names belongs to its site. -/
def Binds (a : Assembly) (names : List (String × Site)) : Prop :=
  (∀ x ∈ a.diagnostics, x.kind ≠ .duplicateUniform) →
    a.clashes = [] ∧ ∀ x ∈ names, a.bound.get? x.1 = some x.2

theorem Binds.mono (h : a.Binds names) (hDiagnostics : a.diagnostics ⊆ b.diagnostics) (hClashes : b.clashes = a.clashes)
    (hBound : b.bound = a.bound) : b.Binds names := by
  intro hClean
  rw [hClashes, hBound]
  exact h fun x hMem => hClean x (hDiagnostics hMem)

/-- A clash is in the diagnostics, now or from before. -/
theorem Binds.reportClash (h : a.Binds names) (name : String) (site owner : Site) (names' : List (String × Site)) :
    (a.reportClash name site owner).Binds names' := by
  rw [Assembly.reportClash]
  split
  · rename_i hFound
    intro hClean
    rw [(h hClean).1] at hFound
    cases hFound
  · intro hClean
    exact (hClean _ (List.mem_append_right _ List.mem_cons_self) rfl).elim

theorem Binds.declare (h : a.Binds names) (site : Site) (name : String) : (a.declare site name).Binds names := by
  rw [Assembly.declare]
  split
  · exact h.mono (List.Subset.refl _) rfl rfl
  · split
    · exact h
    · exact h.reportClash name site _ names

theorem Binds.bind (h : a.Binds names) (site : Site) (binding : Binding) :
    (a.bind site binding).Binds (names ++ [(binding.name, site)]) := by
  rw [Assembly.bind]
  split
  · rename_i hNew
    intro hClean
    obtain ⟨hClashes, hNames⟩ := h hClean
    refine ⟨hClashes, List.forall_mem_append.mpr ⟨?_, List.forall_mem_singleton.mpr ?_⟩⟩
    · intro x hMem
      have hOther : x.1 ≠ binding.name := by
        intro hSame
        have hOld := hNames x hMem
        rw [hSame, hNew] at hOld
        cases hOld
      rw [Table.get?_insert, if_neg hOther]
      exact hNames x hMem
    · rw [Table.get?_insert, if_pos rfl]
  · rename_i owner hOwner
    split
    · rename_i hSite
      intro hClean
      obtain ⟨hClashes, hNames⟩ := h hClean
      exact ⟨hClashes, List.forall_mem_append.mpr ⟨hNames, List.forall_mem_singleton.mpr (hSite ▸ hOwner)⟩⟩
    · exact h.reportClash binding.name site owner _

/-- What each step binds, a run binds. -/
theorem Binds.foldl {α : Type} {step : Assembly → α → Assembly} {new : α → List (String × Site)}
    (hStep : ∀ a names x, Binds a names → (step a x).Binds (names ++ new x)) (h : a.Binds names) (l : List α) :
    (l.foldl step a).Binds (names ++ l.flatMap new) := by
  induction l generalizing a names with
  | nil => simpa using h
  | cons x rest ih =>
    rw [List.foldl_cons, List.flatMap_cons, ← List.append_assoc]
    exact ih (hStep a names x h)

theorem Binds.addFileScope (h : a.Binds names) (e : Emission) : (a.addFileScope e).Binds names := by
  rw [Assembly.addFileScope, addPrologues]
  split <;> exact h.mono (List.Subset.refl _) rfl rfl

theorem Binds.bindEach (h : a.Binds names) (site : Site) (e : Emission) :
    (e.bindings.foldl (·.bind site ·) a).Binds (names ++ boundNames (site, e)) := by
  rw [boundNames, List.map_eq_flatMap]
  exact h.foldl (fun _ _ binding hBinds => hBinds.bind site binding) e.bindings

theorem Binds.commit (h : a.Binds names) (stage : Stage) (emissions : List Emission) :
    (a.commit stage emissions).Binds (names ++ (placedEmissions stage (.ok emissions)).flatMap boundNames) := by
  have hFileScope : (emissions.foldl Assembly.addFileScope a).Binds names :=
    List.foldlRecOn (motive := fun a : Assembly => a.Binds names) emissions _ h fun _ hBinds e _ =>
      hBinds.addFileScope e
  have hDeclared : ((emissions.foldl Assembly.addFileScope a).declareAll stage emissions).Binds names :=
    List.foldlRecOn (motive := fun a : Assembly => a.Binds names) emissions _ hFileScope fun _ hBinds _ _ =>
      List.foldlRecOn (motive := fun a : Assembly => a.Binds names) _ _ hBinds fun _ hBinds name _ =>
        hBinds.declare _ name
  rw [placedEmissions, List.flatMap_map]
  have hBound := hDeclared.foldl (fun _ _ e hBinds => hBinds.bindEach ⟨stage, e.id⟩ e) emissions
  exact hBound.mono (List.subset_append_left ..) rfl rfl

theorem Binds.add (h : a.Binds names) (stage : Stage) (result : Except StageFailure (List Emission)) :
    (a.add stage result).Binds (names ++ (placedEmissions stage result).flatMap boundNames) := by
  cases result with
  | ok emissions => exact h.commit stage emissions
  | error failure =>
    rw [placedEmissions, List.flatMap_nil, List.append_nil]
    exact h.mono (List.subset_append_left ..) rfl rfl

/-! ## File scope -/

/-- The parts of an assembly that the contributions of nodes at file scope go to. -/
def fileScope (a : Assembly) : List String × List String × PerStage (List String) × List String :=
  (a.declarations, a.helpers, a.prologues, a.prologueKinds)

/-- A stage adds to the file scope what its emissions add one by one. -/
theorem fileScope_add {β : Type} (view : Assembly → β) (step : β → Emission → β)
    (hView : ∀ a b, fileScope a = fileScope b → view a = view b)
    (hStep : ∀ a e, view (a.addFileScope e) = step (view a) e) (a : Assembly) (stage : Stage)
    (result : Except StageFailure (List Emission)) :
    view (a.add stage result) = (placedEmissions stage result).foldl (fun s x => step s x.2) (view a) := by
  have hClash (a : Assembly) (name : String) (site owner : Site) : view (a.reportClash name site owner) = view a := by
    apply hView
    rw [reportClash]
    split <;> rfl
  cases result with
  | error failure => exact hView _ _ rfl
  | ok emissions =>
    have hCommit : view (a.commit stage emissions) =
        view (((emissions.foldl addFileScope a).declareAll stage emissions).bindAll stage emissions) := hView _ _ rfl
    change view (a.commit stage emissions) = _
    rw [hCommit, names_keep hClash (fun _ _ => hView _ _ rfl) (fun _ _ _ => hView _ _ rfl), placedEmissions,
      List.foldl_map]
    exact (List.foldl_hom view fun a e => (hStep a e).symm).symm

theorem mem_addText_iff {texts : List String} {text text' : String} :
    text' ∈ addText texts text ↔ text' ∈ texts ∨ text' = text ∧ text ≠ "" := by
  rw [addText]
  split
  · rename_i hOld
    simp only [Bool.or_eq_true, String.isEmpty_iff, List.contains_eq_mem, decide_eq_true_eq] at hOld
    constructor
    · exact .inl
    · rintro (hMem | ⟨rfl, hNe⟩)
      · exact hMem
      · exact hOld.resolve_left hNe
  · rename_i hNew
    simp only [Bool.or_eq_true, String.isEmpty_iff, not_or] at hNew
    simp [hNew.1]

theorem nodup_addText {texts : List String} (h : texts.Nodup) (text : String) : (addText texts text).Nodup := by
  rw [addText]
  split
  · exact h
  · rename_i hNew
    simp only [Bool.or_eq_true, List.contains_eq_mem, decide_eq_true_eq, not_or] at hNew
    exact h.append (List.nodup_singleton text) (by simpa using hNew.2)

theorem declarations_addFileScope (a : Assembly) (e : Emission) :
    (a.addFileScope e).declarations = addText a.declarations e.declarations := by
  rw [addFileScope, addPrologues]
  split <;> rfl

theorem helpers_addFileScope (a : Assembly) (e : Emission) :
    (a.addFileScope e).helpers = addText a.helpers e.helpers := by
  rw [addFileScope, addPrologues]
  split <;> rfl

theorem mem_foldl_addText_iff {α : Type} {f : α → String} {l : List α} {texts : List String} {text : String} :
    text ∈ l.foldl (fun texts x => addText texts (f x)) texts ↔ text ∈ texts ∨ ∃ x ∈ l, f x = text ∧ text ≠ "" := by
  induction l generalizing texts with
  | nil => simp
  | cons x rest ih =>
    rw [List.foldl_cons, ih, mem_addText_iff, or_assoc]
    simp only [List.exists_mem_cons_iff]
    grind

end Assembly

/-! ## Uniforms of a shader -/

namespace Design

variable {d : Design StandardNode}

/-- What a compile emits, each node at its site. -/
def emitted (d : Design StandardNode) : List (Site × Emission) :=
  Stage.all.flatMap fun stage => placedEmissions stage (d.emit false stage .output)

/-- The identifiers that the nodes declare as uniforms at file scope, then those that the helpers declare. -/
def uniforms (d : Design StandardNode) : List String :=
  (d.emitted.flatMap fun x => uniformsIn x.2.declarations) ++ d.assembly.helpers.flatMap uniformsIn

/-- Where a compile emits a node. -/
def contextAt (d : Design StandardNode) (site : Site) : EmitContext := ⟨d.mode, site.stage, site.id, false⟩

/-- A node that a compile emits. -/
structure Emitted (d : Design StandardNode) (site : Site) (n : StandardNode) : Prop where
  mem : site ∈ d.emitted.map Prod.fst
  node : (d.graph site.stage).node? site.id = some n

/-- Two uniforms of the same name of which no table holds both. -/
inductive SilentClash (d : Design StandardNode) : Prop
  /-- A value uniform has the name of a sampler that a node declares for itself: the one name is declared, the
  other is bound. -/
  | ownSampler {site site' : Site} {u : ValueUniform} {n : StandardNode} (hValue : d.Emitted site (.uniform (.value u)))
      (hOwner : d.Emitted site' n) (hName : n.ownSampler? (d.contextAt site') = some u.name)
  /-- A uniform has a name that helpers declare. -/
  | helper {site site' : Site} {u : UniformNode} {t : TextureUniform} (hUniform : d.Emitted site (.uniform u))
      (hTexture : d.Emitted site' (.uniform (.texture t))) (hTriplanar : t.triplanar = true)
      (hName : u.name ∈ ["triplanar_scale", "triplanar_offset", "triplanar_sharpness"])

theorem exists_emitted_of_mem {site : Site} {e : Emission} (h : (site, e) ∈ d.emitted) :
    ∃ n, d.Emitted site n ∧ e.IsOf n (d.contextAt site) := by
  obtain ⟨stage, -, hStage⟩ := List.mem_flatMap.mp h
  obtain ⟨emissions, hEmit, hMem, rfl⟩ := exists_of_mem_placedEmissions hStage
  obtain ⟨n, hNode, hOf⟩ := StageGraph.exists_node_of_emitNode (emits_of_mem hEmit hMem)
  exact ⟨n, ⟨List.mem_map_of_mem h, hNode⟩, hOf⟩

theorem Emitted.exists_mem {site : Site} {n : StandardNode} (h : d.Emitted site n) :
    ∃ e, (site, e) ∈ d.emitted ∧ e.IsOf n (d.contextAt site) := by
  obtain ⟨⟨site', e⟩, hMem, rfl⟩ := List.mem_map.mp h.mem
  obtain ⟨m, hEmitted, hOf⟩ := exists_emitted_of_mem hMem
  cases h.node.symm.trans hEmitted.node
  exact ⟨e, hMem, hOf⟩

theorem nodup_emitted_sites (d : Design StandardNode) : (d.emitted.map Prod.fst).Nodup := by
  rw [emitted, List.map_flatMap, List.nodup_flatMap]
  have hStage {stage : Stage} {site : Site}
      (h : site ∈ (placedEmissions stage (d.emit false stage .output)).map Prod.fst) : site.stage = stage := by
    obtain ⟨⟨_, e⟩, hMem, rfl⟩ := List.mem_map.mp h
    obtain ⟨-, -, -, rfl⟩ := exists_of_mem_placedEmissions hMem
    rfl
  constructor
  · intro stage _
    cases hEmit : d.emit false stage .output with
    | error failure => exact List.nodup_nil
    | ok emissions =>
      obtain ⟨order, hOrder, all, hAll, rfl⟩ := emit_eq_ok_iff.mp hEmit
      have hIds := (StageGraph.nodup_order hOrder).sublist (ids_sublist_order hAll)
      rw [placedEmissions, List.map_map]
      have hSites := hIds.map (f := Site.mk stage) fun _ _ hSame => (Site.mk.inj hSame).2
      rwa [List.map_map] at hSites
  · have hAll : Stage.all.Nodup := by decide
    refine hAll.imp ?_
    intro stage stage' hNe site hMem hMem'
    exact hNe ((hStage hMem).symm.trans (hStage hMem'))

theorem binds_assembly (d : Design StandardNode) : d.assembly.Binds (d.emitted.flatMap boundNames) := by
  have hStart : Assembly.Binds {} [] := fun _ => ⟨rfl, by simp⟩
  have hRun := hStart.foldl (fun _ _ stage hBinds => hBinds.add stage (d.emit false stage .output)) Stage.all
  rwa [List.nil_append, ← List.flatMap_assoc] at hRun

theorem fileScope_assembly {β : Type} (view : Assembly → β) (step : β → Emission → β)
    (hView : ∀ a b : Assembly, a.fileScope = b.fileScope → view a = view b)
    (hStep : ∀ a e, view (Assembly.addFileScope a e) = step (view a) e) (d : Design StandardNode) :
    view d.assembly = d.emitted.foldl (fun s x => step s x.2) (view {}) := by
  rw [emitted, List.foldl_flatMap]
  exact (List.foldl_hom view fun a stage => (Assembly.fileScope_add view step hView hStep a stage _).symm).symm

theorem helpers_assembly (d : Design StandardNode) :
    d.assembly.helpers = d.emitted.foldl (fun texts x => Assembly.addText texts x.2.helpers) [] := by
  exact fileScope_assembly Assembly.helpers (fun texts e => Assembly.addText texts e.helpers)
    (fun a b hSame => congrArg (·.2.1) hSame) Assembly.helpers_addFileScope d

theorem nodup_helpers (d : Design StandardNode) : d.assembly.helpers.Nodup := by
  rw [helpers_assembly]
  exact List.foldlRecOn (motive := List.Nodup) _ _ List.nodup_nil fun _ hNodup x _ => Assembly.nodup_addText hNodup _

theorem mem_helpers_iff {text : String} : text ∈ d.assembly.helpers ↔ text = TextureUniform.triplanarHelpers ∧
    ∃ site u, d.Emitted site (.uniform (.texture u)) ∧ u.triplanar = true := by
  rw [helpers_assembly, Assembly.mem_foldl_addText_iff]
  simp only [List.not_mem_nil, false_or]
  constructor
  · rintro ⟨⟨site, e⟩, hMem, rfl, hText⟩
    obtain ⟨n, hEmitted, hOf⟩ := exists_emitted_of_mem hMem
    rw [hOf.helpers] at hText ⊢
    obtain ⟨⟨u, rfl, hTriplanar⟩, hHelpers⟩ := (n.helpers_cases _).resolve_left hText
    exact ⟨hHelpers, site, u, hEmitted, hTriplanar⟩
  · rintro ⟨rfl, site, u, hEmitted, hTriplanar⟩
    obtain ⟨e, hMem, hOf⟩ := hEmitted.exists_mem
    refine ⟨(site, e), hMem, ?_, by decide +kernel⟩
    rw [hOf.helpers]
    exact if_pos hTriplanar

theorem Reachable.isName (h : d.Reachable) {stage : Stage} {id : NodeId} {n : StandardNode} {name : String}
    (hNode : (d.graph stage).node? id = some n) (hName : NodeModel.uniformName? n = some name) :
    UniformName.IsName name := by
  obtain ⟨placed, hPlaced, rfl⟩ := StageGraph.node?_eq_some_iff.mp hNode
  exact h.nodesRegular.isName_of_placed hPlaced hName

theorem Reachable.uniformsIn_eq (h : d.Reachable) {site : Site} {n : StandardNode} {e : Emission}
    (hEmitted : d.Emitted site n) (hOf : e.IsOf n (d.contextAt site)) :
    uniformsIn e.declarations = (n.declaredName? (d.contextAt site)).toList := by
  rw [hOf.declarations]
  exact StandardNode.uniformsIn_declarations hOf.isGlobal (fun _ => h.isName hEmitted.node) _

/-- A value uniform shares its name with a sampler that a node declares for itself, or with none. -/
theorem Reachable.silentClash_of_value (h : d.Reachable) {site site' : Site} {u : ValueUniform} {n : StandardNode}
    (hValue : d.Emitted site (.uniform (.value u))) (hOther : d.Emitted site' n) (hSites : site ≠ site')
    (hName : n.declaredName? (d.contextAt site') = some u.name) : d.SilentClash := by
  rcases StandardNode.declaredName?_cases hName with ⟨u', rfl, hSame⟩ | hOwn
  · obtain ⟨placed, hPlaced, hNode⟩ := StageGraph.node?_eq_some_iff.mp hValue.node
    obtain ⟨placed', hPlaced', hNode'⟩ := StageGraph.node?_eq_some_iff.mp hOther.node
    refine (hSites (h.nodesRegular.names _ _ _ _ _ _ u.name hPlaced hPlaced' ?_ ?_)).elim
    · rw [hNode]
      rfl
    · rw [hNode']
      exact congrArg some hSame
  · exact .ownSampler hValue hOther hOwn

/-- Two nodes that declare the same name clash silently if their clash is not reported. -/
theorem Reachable.silentClash_of_declared (h : d.Reachable)
    (hClean : ∀ x ∈ d.compile.diagnostics, x.kind ≠ .duplicateUniform) {site site' : Site} {n n' : StandardNode}
    {name : String} (hEmitted : d.Emitted site n) (hEmitted' : d.Emitted site' n') (hSites : site ≠ site')
    (hName : n.declaredName? (d.contextAt site) = some name)
    (hName' : n'.declaredName? (d.contextAt site') = some name) : d.SilentClash := by
  by_cases hValue : ∃ u, n = .uniform (.value u)
  · obtain ⟨u, rfl⟩ := hValue
    cases Option.some.inj hName
    exact h.silentClash_of_value hEmitted hEmitted' hSites hName'
  by_cases hValue' : ∃ u, n' = .uniform (.value u)
  · obtain ⟨u, rfl⟩ := hValue'
    cases Option.some.inj hName'
    exact h.silentClash_of_value hEmitted' hEmitted hSites.symm hName
  -- both names are bound, and one name is bound at one site
  · rw [compile_eq] at hClean
    obtain ⟨-, hBound⟩ := d.binds_assembly hClean
    have hOwner {site : Site} {n : StandardNode} (hEmitted : d.Emitted site n)
        (hName : n.declaredName? (d.contextAt site) = some name) (hValue : ¬∃ u, n = .uniform (.value u)) :
        d.assembly.bound.get? name = some site := by
      obtain ⟨e, hMem, hOf⟩ := hEmitted.exists_mem
      have hBinding := StandardNode.mem_bindings_of_declaredName? hName (not_exists.mp hValue)
      rw [← hOf.bindings] at hBinding
      obtain ⟨binding, hIn, rfl⟩ := List.mem_map.mp hBinding
      exact hBound (binding.name, site) (List.mem_flatMap.mpr ⟨(site, e), hMem, List.mem_map_of_mem hIn⟩)
    exact (hSites (Option.some.inj ((hOwner hEmitted hName hValue).symm.trans (hOwner hEmitted' hName' hValue')))).elim

theorem Reachable.nodup_declared (h : d.Reachable)
    (hClean : ∀ x ∈ d.compile.diagnostics, x.kind ≠ .duplicateUniform) (hSilent : ¬d.SilentClash) :
    (d.emitted.flatMap fun x => uniformsIn x.2.declarations).Nodup := by
  rw [List.nodup_flatMap]
  constructor
  · rintro ⟨site, e⟩ hMem
    obtain ⟨n, hEmitted, hOf⟩ := exists_emitted_of_mem hMem
    rw [h.uniformsIn_eq hEmitted hOf]
    cases n.declaredName? (d.contextAt site) with
    | none => exact List.nodup_nil
    | some name => exact List.nodup_singleton name
  · refine (List.pairwise_map.mp d.nodup_emitted_sites).imp_of_mem ?_
    rintro ⟨site, e⟩ ⟨site', e'⟩ hMem hMem' hSites name hName hName'
    obtain ⟨n, hEmitted, hOf⟩ := exists_emitted_of_mem hMem
    obtain ⟨n', hEmitted', hOf'⟩ := exists_emitted_of_mem hMem'
    dsimp only at hName hName'
    rw [h.uniformsIn_eq hEmitted hOf, Option.mem_toList] at hName
    rw [h.uniformsIn_eq hEmitted' hOf', Option.mem_toList] at hName'
    exact hSilent (h.silentClash_of_declared hClean hEmitted hEmitted' hSites hName hName')

theorem nodup_helpers_uniforms (d : Design StandardNode) : (d.assembly.helpers.flatMap uniformsIn).Nodup := by
  rw [List.nodup_flatMap]
  constructor
  · intro text hMem
    rw [(mem_helpers_iff.mp hMem).1, uniformsIn_triplanarHelpers]
    decide
  · refine d.nodup_helpers.imp_of_mem ?_
    intro text text' hMem hMem' hNe
    exact (hNe ((mem_helpers_iff.mp hMem).1.trans (mem_helpers_iff.mp hMem').1.symm)).elim

theorem Reachable.disjoint_helpers (h : d.Reachable) (hSilent : ¬d.SilentClash) :
    List.Disjoint (d.emitted.flatMap fun x => uniformsIn x.2.declarations)
      (d.assembly.helpers.flatMap uniformsIn) := by
  intro name hDeclared hHelper
  obtain ⟨⟨site, e⟩, hMem, hName⟩ := List.mem_flatMap.mp hDeclared
  obtain ⟨text, hText, hName'⟩ := List.mem_flatMap.mp hHelper
  obtain ⟨rfl, site', t, hTexture, hTriplanar⟩ := mem_helpers_iff.mp hText
  obtain ⟨n, hEmitted, hOf⟩ := exists_emitted_of_mem hMem
  rw [h.uniformsIn_eq hEmitted hOf, Option.mem_toList] at hName
  rcases StandardNode.declaredName?_cases hName with ⟨u, rfl, rfl⟩ | hOwn
  · rw [uniformsIn_triplanarHelpers] at hName'
    exact hSilent (.helper hEmitted hTexture hTriplanar hName')
  · exact StandardNode.ownSampler?_not_mem_helpers hOwn hName'

theorem Reachable.mem_declared (h : d.Reachable) {site : Site} {n : StandardNode} {name : String}
    (hEmitted : d.Emitted site n) (hName : n.declaredName? (d.contextAt site) = some name) :
    ∃ e, (site, e) ∈ d.emitted ∧ name ∈ uniformsIn e.declarations := by
  obtain ⟨e, hMem, hOf⟩ := hEmitted.exists_mem
  refine ⟨e, hMem, ?_⟩
  rw [h.uniformsIn_eq hEmitted hOf, hName]
  exact List.mem_cons_self

theorem Reachable.not_nodup_of_silentClash (h : d.Reachable) (hClash : d.SilentClash) : ¬d.uniforms.Nodup := by
  intro hNodup
  obtain ⟨hDeclared, -, hDisjoint⟩ := List.nodup_append'.mp hNodup
  cases hClash with
  | @ownSampler site site' u n hValue hOwner hName =>
    have hOwn : n.declaredName? (d.contextAt site') = some u.name := by
      cases n with
      | uniform => cases hName
      | _ => exact hName
    obtain ⟨e, hMem, hFirst⟩ := h.mem_declared hValue rfl
    obtain ⟨e', hMem', hSecond⟩ := h.mem_declared hOwner hOwn
    have hNe : (site, e) ≠ (site', e') := by
      rintro ⟨⟩
      cases hValue.node.symm.trans hOwner.node
      cases hName
    have hSymm : Std.Symm (Function.onFun List.Disjoint fun x : Site × Emission => uniformsIn x.2.declarations) :=
      ⟨fun _ _ => List.Disjoint.symm⟩
    exact (List.nodup_flatMap.mp hDeclared).2.forall hMem hMem' hNe hFirst hSecond
  | @helper site site' u t hUniform hTexture hTriplanar hName =>
    obtain ⟨e, hMem, hFirst⟩ := h.mem_declared hUniform rfl
    refine hDisjoint (List.mem_flatMap.mpr ⟨(site, e), hMem, hFirst⟩) (List.mem_flatMap.mpr ?_)
    refine ⟨_, mem_helpers_iff.mpr ⟨rfl, site', t, hTexture, hTriplanar⟩, ?_⟩
    rw [uniformsIn_triplanarHelpers]
    exact hName

/-- If a compile reports no clash of names then the uniforms that its nodes and helpers declare have distinct names,
unless a value uniform is named like the sampler of a texture or cube map node, or a uniform is named like one in the
helpers of a projection. -/
theorem uniforms_distinct_but_for_silent_clash (hReachable : d.Reachable)
    (hClean : ∀ x ∈ d.compile.diagnostics, x.kind ≠ .duplicateUniform) : d.uniforms.Nodup ↔ ¬d.SilentClash := by
  constructor
  · exact fun hNodup hClash => hReachable.not_nodup_of_silentClash hClash hNodup
  · intro hSilent
    exact List.nodup_append'.mpr ⟨hReachable.nodup_declared hClean hSilent, d.nodup_helpers_uniforms,
      hReachable.disjoint_helpers hSilent⟩

/-- A value, a texture node and a projection that feed the terminal. -/
def weathered : Design StandardNode :=
  (empty .spatial).edited
    [.add .fragment 2 .origin (.uniform (.value ⟨.scalar, "gloss"⟩)), .add .fragment 3 .origin (.texture {}),
      .add .fragment 4 .origin (.uniform (.texture { triplanar := true, name := "bark" })),
      .connect .fragment ⟨2, 0, 0, 1⟩, .connect .fragment ⟨3, 1, 0, 2⟩, .connect .fragment ⟨4, 0, 0, 0⟩]

theorem uniforms_distinct_but_for_silent_clash_weathered :
    weathered.Reachable ∧ weathered.compile.diagnostics = [] ∧
      weathered.uniforms =
        ["gloss", "tex_frg_3", "bark", "triplanar_scale", "triplanar_offset", "triplanar_sharpness"] ∧
      ¬weathered.SilentClash := by
  have hReachable : weathered.Reachable := .edited (.new .spatial) (by decide)
  have hDiagnostics : weathered.compile.diagnostics = [] := by decide +kernel
  have hDeclarations : weathered.emitted.map (fun x => x.2.declarations) =
      ["", "uniform float gloss;\n", "uniform sampler2D tex_frg_3;\n", "uniform sampler2D bark;\n", "", ""] := by
    decide +kernel
  have hHelpers : weathered.assembly.helpers = [TextureUniform.triplanarHelpers] := by decide +kernel
  have hUniforms : weathered.uniforms =
      ["gloss", "tex_frg_3", "bark", "triplanar_scale", "triplanar_offset", "triplanar_sharpness"] := by
    rw [uniforms, ← List.flatMap_map, hDeclarations, hHelpers, List.flatMap_singleton, uniformsIn_triplanarHelpers]
    decide +kernel
  have hNodup : weathered.uniforms.Nodup := by
    rw [hUniforms]
    decide
  exact ⟨hReachable, hDiagnostics, hUniforms,
    (uniforms_distinct_but_for_silent_clash hReachable (by simp [hDiagnostics])).mp hNodup⟩

/-- A value uniform with the name that the texture node after it takes for its sampler. -/
def shadowed : Design StandardNode :=
  (empty .spatial).edited
    [.add .fragment 2 .origin (.uniform (.value ⟨.scalar, "tex_frg_3"⟩)), .add .fragment 3 .origin (.texture {}),
      .connect .fragment ⟨2, 0, 0, 1⟩, .connect .fragment ⟨3, 0, 0, 0⟩]

theorem uniform_declared_twice_unreported :
    shadowed.Reachable ∧ shadowed.compile.diagnostics = [] ∧ ¬shadowed.uniforms.Nodup ∧
      shadowed.assembly.declarations = ["uniform float tex_frg_3;\n", "uniform sampler2D tex_frg_3;\n"] := by
  have hReachable : shadowed.Reachable := .edited (.new .spatial) (by decide)
  have hValue : shadowed.Emitted ⟨.fragment, 2⟩ (.uniform (.value ⟨.scalar, "tex_frg_3"⟩)) :=
    ⟨by decide +kernel, by decide +kernel⟩
  have hOwner : shadowed.Emitted ⟨.fragment, 3⟩ (.texture {}) := ⟨by decide +kernel, by decide +kernel⟩
  have hName : StandardNode.ownSampler? (.texture {}) (shadowed.contextAt ⟨.fragment, 3⟩) = some "tex_frg_3" := by
    decide +kernel
  exact ⟨hReachable, by decide +kernel, hReachable.not_nodup_of_silentClash (.ownSampler hValue hOwner hName),
    by decide +kernel⟩

end Design

end ShadeGraph
