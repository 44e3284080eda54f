import ShadeGraph.Proofs.Contributions
import ShadeGraph.Proofs.History

/-!
# The text of a shader, described by its nodes

Stages are assembled one after the other, with notes of what is already there. The text they make is the one that can
be read off the contributing nodes at once.
-/

namespace ShadeGraph

/-! ## Each text once -/

theorem eraseDups_concat {α : Type} [DecidableEq α] (l : List α) (x : α) :
    (l ++ [x]).eraseDups = if x ∈ l then l.eraseDups else l.eraseDups ++ [x] := by
  rw [List.eraseDups_append]
  split_ifs with hMem <;> simp [List.removeAll, List.eraseDups_cons, hMem]

/-- A list without repetitions that has one member at most. -/
theorem eq_singleton_or_nil {α : Type} {l : List α} {a : α} {p : Prop} (hNodup : l.Nodup)
    (hMem : ∀ x, x ∈ l ↔ x = a ∧ p) : (p → l = [a]) ∧ (¬p → l = []) := by
  constructor
  · intro hHolds
    apply List.perm_singleton.mp
    rw [List.perm_ext_iff_of_nodup hNodup (List.nodup_singleton a)]
    intro x
    rw [hMem, List.mem_singleton, and_iff_left hHolds]
  · intro hFails
    exact List.eq_nil_iff_forall_not_mem.mpr fun x hx => hFails ((hMem x).mp hx).2

/-- The texts in the order in which they first come, each once; empty ones are left out. -/
def distinctTexts (texts : List String) : List String := (texts.filter (!·.isEmpty)).eraseDups

theorem mem_distinctTexts_iff {texts : List String} {text : String} :
    text ∈ distinctTexts texts ↔ text ∈ texts ∧ text ≠ "" := by
  rw [distinctTexts, List.mem_eraseDups, List.mem_filter]
  simp

theorem foldl_addText (texts : List String) : texts.foldl Assembly.addText [] = distinctTexts texts := by
  induction texts using List.reverseRecOn with
  | nil => rfl
  | append_singleton texts text ih =>
    rw [List.foldl_concat, ih, Assembly.addText, distinctTexts, distinctTexts, List.filter_append]
    by_cases hEmpty : text.isEmpty = true
    · simp [hEmpty]
    · have hText : [text].filter (!·.isEmpty) = [text] := by simp [hEmpty]
      rw [hText, eraseDups_concat]
      simp only [hEmpty, Bool.false_or, List.contains_eq_mem, List.mem_eraseDups, decide_eq_true_eq]

/-- One prologue for every kind, where the kind first comes. -/
def addPrologue (function : Stage) (state : List String × List String) (e : Emission) : List String × List String :=
  if state.1.contains e.kind then state else (state.1 ++ [e.kind], state.2 ++ [e.prologues.get function])

theorem foldl_addPrologue {function : Stage} {prologue : String → String} (emissions : List Emission)
    (h : ∀ e ∈ emissions, e.prologues.get function = prologue e.kind) :
    emissions.foldl (addPrologue function) ([], []) =
      ((emissions.map Emission.kind).eraseDups, (emissions.map Emission.kind).eraseDups.map prologue) := by
  induction emissions using List.reverseRecOn with
  | nil => rfl
  | append_singleton emissions e ih =>
    rw [List.forall_mem_append, List.forall_mem_singleton] at h
    rw [List.foldl_concat, ih h.1, addPrologue, List.map_append, List.map_singleton, eraseDups_concat, h.2]
    simp only [List.contains_eq_mem, List.mem_eraseDups, decide_eq_true_eq]
    split_ifs <;> simp

/-! ## Kinds and their prologues -/

namespace StandardNode

/-- What the nodes of a kind add to the start of a function: what a new node of the kind adds. -/
def kindPrologue (function : Stage) (kind : String) : String :=
  ((prototypes.find? fun n => n.kind = kind).map fun n => n.prologue function).getD ""

theorem kindPrologue_kind (n : StandardNode) (function : Stage) :
    kindPrologue function n.kind = n.prologue function := by
  cases hTerminal : n.isTerminal with
  | false =>
    have hFind : prototypes.find? (fun m => m.kind = n.kind) = some n.fresh := registry_find?_kind hTerminal
    rw [kindPrologue, hFind]
    cases n with
    | uniform u => cases u <;> rfl
    | _ => rfl
  | true =>
    have hFind : prototypes.find? (fun m => m.kind = n.kind) = none := registry_find?_eq_none hTerminal
    rw [kindPrologue, hFind]
    cases n with
    | output => rfl
    | _ => cases hTerminal

/-- A node adds nothing to a function, or it adds what a projection along the axes needs of the vertices. -/
theorem prologue_cases (n : StandardNode) (function : Stage) :
    n.prologue function = "" ∨
      (∃ u : TextureUniform, n = .uniform (.texture u) ∧ u.triplanar = true) ∧
        function = .vertex ∧ n.prologue function = TextureUniform.triplanarPrologue := by
  cases n with
  | uniform u =>
    cases u with
    | texture u =>
      change u.prologue function = "" ∨ _ ∧ _ ∧ u.prologue function = _
      rw [TextureUniform.prologue]
      split
      · rename_i hBoth
        obtain ⟨hTriplanar, hFunction⟩ := Bool.and_eq_true_iff.mp hBoth
        exact .inr ⟨⟨u, rfl, hTriplanar⟩, of_decide_eq_true hFunction, rfl⟩
      · exact .inl rfl
    | _ => exact .inl rfl
  | _ => exact .inl rfl

end StandardNode

/-! ## Shaders -/

/-- What nodes declare at file scope. -/
def declarationTexts (nodes : List Contributor) : List String :=
  distinctTexts (nodes.map fun x => NodeModel.declarations x.2 x.1)

/-- The helpers of nodes. -/
def helperTexts (nodes : List Contributor) : List String :=
  distinctTexts (nodes.map fun x => NodeModel.helpers x.2 x.1)

/-- The code that users wrote for the file scope of each stage, after a line that says of which node it is. -/
def globalTexts (globals : Stage → List (NodeId × GlobalExpression)) : List String :=
  Stage.all.flatMap fun stage => (globals stage).map fun (id, g) =>
    "// GlobalExpression:" ++ id.text ++ "\n" ++ g.declarations ++ "\n"

namespace Design

variable {d : Design StandardNode} {preview : Bool} {stage : Stage} {root : NodeId}

/-- The blocks of a closure; there are none if it is not emitted. -/
def blocks (d : Design StandardNode) (preview : Bool) (stage : Stage) (root : NodeId) : List String :=
  match d.emit preview stage root with
  | .ok emissions => emissions.map Emission.block
  | .error _ => []

theorem bodyText_eq (d : Design StandardNode) (preview : Bool) (stage : Stage) (root : NodeId) :
    bodyText (d.emit preview stage root) = Text.concat (d.blocks preview stage root) := by
  rw [blocks]
  cases d.emit preview stage root <;> rfl

/-- The kinds of the nodes in the order in which they first come, each once. -/
def kinds (d : Design StandardNode) : List String := (d.contributors.map fun x => NodeModel.kind x.2).eraseDups

/-- What stands at the start of a function: the prologue of every kind among the nodes. -/
def prologueTexts (d : Design StandardNode) (function : Stage) : List String :=
  d.kinds.map (StandardNode.kindPrologue function)

/-- The functions of a shader, each with what it starts with. -/
def functionTexts (d : Design StandardNode) (start : Stage → String) : List String :=
  ["\nvoid vertex() \x7b\n" ++ start .vertex ++ Text.concat (d.blocks false .vertex .output) ++ "\x7d\n",
    "\nvoid fragment() \x7b\n" ++ start .fragment ++ Text.concat (d.blocks false .fragment .output) ++ "\x7d\n",
    "\nvoid light() \x7b\n" ++ start .light ++ Text.concat (d.blocks false .light .output) ++ "\x7d\n"]

/-- The text of a shader that has the given helpers, code at file scope and starts of functions. -/
def description (d : Design StandardNode) (helpers : String) (globals : Stage → List (NodeId × GlobalExpression))
    (start : Stage → String) : String :=
  d.settings.header d.mode ++ Text.concat (declarationTexts d.contributors) ++ helpers ++
    Text.concat (globalTexts globals) ++ Text.concat (d.functionTexts start)

theorem Reachable.declarations_assembly (h : d.Reachable) :
    d.assembly.declarations = declarationTexts d.contributors := by
  rw [declarationTexts, h.map_contributors fun x y hOf => hOf.declarations.symm, ← foldl_addText, List.foldl_map]
  exact fileScope_assembly Assembly.declarations (fun texts e => Assembly.addText texts e.declarations)
    (fun a b hSame => congrArg (·.1) hSame) Assembly.declarations_addFileScope d

theorem Reachable.helpers_assembly (h : d.Reachable) : d.assembly.helpers = helperTexts d.contributors := by
  rw [helperTexts, h.map_contributors fun x y hOf => hOf.helpers.symm, ← foldl_addText, List.foldl_map]
  exact d.helpers_assembly

theorem Reachable.declarations_add (h : d.Reachable) (hRoot : d.IsRoot stage root) (preview : Bool) :
    (Assembly.add {} stage (d.emit preview stage root)).declarations =
      declarationTexts (d.closureNodes preview stage root) := by
  rw [declarationTexts, h.map_closureNodes hRoot fun x y hOf => hOf.declarations.symm, ← foldl_addText, List.foldl_map]
  exact Assembly.fileScope_add Assembly.declarations (fun texts e => Assembly.addText texts e.declarations)
    (fun a b hSame => congrArg (·.1) hSame) Assembly.declarations_addFileScope {} stage _

theorem Reachable.helpers_add (h : d.Reachable) (hRoot : d.IsRoot stage root) (preview : Bool) :
    (Assembly.add {} stage (d.emit preview stage root)).helpers =
      helperTexts (d.closureNodes preview stage root) := by
  rw [helperTexts, h.map_closureNodes hRoot fun x y hOf => hOf.helpers.symm, ← foldl_addText, List.foldl_map]
  exact Assembly.fileScope_add Assembly.helpers (fun texts e => Assembly.addText texts e.helpers)
    (fun a b hSame => congrArg (·.2.1) hSame) Assembly.helpers_addFileScope {} stage _

theorem Reachable.prologues_assembly (h : d.Reachable) (function : Stage) :
    d.assembly.prologues.get function = d.prologueTexts function := by
  have hPrologue : ∀ e ∈ d.emitted.map Prod.snd, e.prologues.get function =
      StandardNode.kindPrologue function e.kind := by
    intro e hMem
    obtain ⟨⟨site, e⟩, hEmitted, rfl⟩ := List.mem_map.mp hMem
    obtain ⟨n, hNode, hOf⟩ := exists_emitted_of_mem hEmitted
    rw [hOf.prologues, hOf.kind, PerStage.get_ofFn]
    exact (n.kindPrologue_kind function).symm
  have hStep (a : Assembly) (e : Emission) :
      ((a.addFileScope e).prologueKinds, (a.addFileScope e).prologues.get function) =
        addPrologue function (a.prologueKinds, a.prologues.get function) e := by
    rw [Assembly.addFileScope, Assembly.addPrologues, addPrologue]
    split_ifs
    · rfl
    · rw [PerStage.get_ofFn]
  have hStart : (({} : Assembly).prologueKinds, ({} : Assembly).prologues.get function) = ([], []) := by
    cases function <;> rfl
  have hRun : (d.assembly.prologueKinds, d.assembly.prologues.get function) =
      (d.emitted.map Prod.snd).foldl (addPrologue function) ([], []) := by
    rw [List.foldl_map, ← hStart]
    exact fileScope_assembly (fun a => (a.prologueKinds, a.prologues.get function)) (addPrologue function)
      (fun a b hSame => congrArg (fun s => (s.2.2.2, s.2.2.1.get function)) hSame) hStep d
  rw [foldl_addPrologue _ hPrologue, List.map_map] at hRun
  rw [prologueTexts, kinds, h.map_contributors fun x y hOf => hOf.kind.symm]
  exact congrArg Prod.snd hRun

/-! ## Code at file scope -/

/-- The list holds the code that users wrote for the file scope of a stage, in the order of the numbers. -/
structure IsGlobalCode (d : Design StandardNode) (stage : Stage) (globals : List (NodeId × GlobalExpression)) :
    Prop where
  sorted : (globals.map Prod.fst).Pairwise (· < ·)
  mem_iff : ∀ id g, (id, g) ∈ globals ↔ d.node? stage id = some (.globalExpression g)

theorem sorted_globalNodes (d : Design StandardNode) (stage : Stage) :
    ((d.globalNodes stage).map Prod.fst).Pairwise (· < ·) := by
  rw [List.pairwise_map]
  refine ((d.pairwise_globalNodes stage).and (d.nodup_globalNodes stage)).imp_of_mem ?_
  rintro ⟨id, n⟩ ⟨id', n'⟩ hLeft hRight ⟨hLe, hNe⟩
  refine UInt32.lt_of_le_of_ne hLe fun (hId : id = id') => hNe ?_
  subst hId
  have hNode := (mem_globalNodes_iff.mp hLeft).1
  rw [(mem_globalNodes_iff.mp hRight).1] at hNode
  rw [Option.some.inj hNode]

theorem exists_isGlobalCode (d : Design StandardNode) (stage : Stage) : ∃ globals, d.IsGlobalCode stage globals ∧
    d.globalNodes stage = globals.map fun x => (x.1, .globalExpression x.2) := by
  have hRange : d.globalNodes stage ∈ Set.range (List.map fun x : NodeId × GlobalExpression =>
      (x.1, StandardNode.globalExpression x.2)) := by
    rw [Set.range_list_map]
    rintro ⟨id, n⟩ hMem
    obtain ⟨-, hGlobal⟩ := mem_globalNodes_iff.mp hMem
    cases n with
    | globalExpression g => exact ⟨(id, g), rfl⟩
    | _ => cases hGlobal
  obtain ⟨globals, hGlobals⟩ := hRange
  refine ⟨globals, ⟨?_, fun id g => ?_⟩, hGlobals.symm⟩
  · have hSorted := d.sorted_globalNodes stage
    rwa [← hGlobals, List.map_map] at hSorted
  · have hMem : (id, StandardNode.globalExpression g) ∈ d.globalNodes stage ↔ (id, g) ∈ globals := by
      rw [← hGlobals, List.mem_map]
      constructor
      · rintro ⟨⟨_, _⟩, hMem, hPair⟩
        cases hPair
        exact hMem
      · exact fun hMem => ⟨(id, g), hMem, rfl⟩
    rw [← hMem, mem_globalNodes_iff]
    exact and_iff_left rfl

theorem fileScope_eq {globals : Stage → List (NodeId × GlobalExpression)} (preview : Bool) (a : Assembly)
    (h : ∀ stage, d.globalNodes stage = (globals stage).map fun x => (x.1, .globalExpression x.2)) :
    d.fileScope preview a =
      Text.concat a.declarations ++ Text.concat a.helpers ++ Text.concat (globalTexts globals) := by
  simp only [fileScope, h, List.map_map]
  rfl

theorem Reachable.function_eq (h : d.Reachable) {stage : Stage} {opening : String}
    (hOpening : "\nvoid " ++ stage.name ++ "() \x7b\n" = opening) :
    d.function stage =
      opening ++ Text.concat (d.prologueTexts stage) ++ Text.concat (d.blocks false stage .output) ++ "\x7d\n" := by
  rw [function, functionText, hOpening, h.prologues_assembly, bodyText_eq]

theorem Reachable.map_function (h : d.Reachable) :
    Stage.all.map d.function = d.functionTexts fun stage => Text.concat (d.prologueTexts stage) := by
  have hVertex : "\nvoid " ++ Stage.vertex.name ++ "() \x7b\n" = "\nvoid vertex() \x7b\n" := rfl
  have hFragment : "\nvoid " ++ Stage.fragment.name ++ "() \x7b\n" = "\nvoid fragment() \x7b\n" := rfl
  have hLight : "\nvoid " ++ Stage.light.name ++ "() \x7b\n" = "\nvoid light() \x7b\n" := rfl
  simp only [Stage.all, List.map_cons, List.map_nil, h.function_eq hVertex, h.function_eq hFragment,
    h.function_eq hLight, functionTexts]

theorem Reachable.source_eq (h : d.Reachable) {globals : Stage → List (NodeId × GlobalExpression)}
    (hGlobals : ∀ stage, d.globalNodes stage = (globals stage).map fun x => (x.1, .globalExpression x.2)) :
    d.compile.source = d.description (Text.concat (helperTexts d.contributors)) globals fun stage =>
      Text.concat (d.prologueTexts stage) := by
  rw [compile_eq, description, h.map_function, fileScope_eq false _ hGlobals, h.declarations_assembly,
    h.helpers_assembly]
  simp only [String.append_assoc]

/-! ## Projections along the axes -/

/-- A node that projects a texture along the axes contributes. -/
def HasTriplanar (d : Design StandardNode) : Prop :=
  ∃ x ∈ d.contributors, ∃ u : TextureUniform, x.2 = .uniform (.texture u) ∧ u.triplanar = true

theorem node?_of_mem_contributors {x : Contributor} (h : x ∈ d.contributors) :
    d.node? x.1.stage x.1.id = some x.2 := by
  obtain ⟨stage, -, hMem⟩ := List.mem_flatMap.mp h
  obtain ⟨-, -, -, -, id, -, n, hNode, rfl⟩ := mem_closureNodes_iff.mp hMem
  exact hNode

theorem mem_helperTexts_iff {text : String} :
    text ∈ helperTexts d.contributors ↔ text = TextureUniform.triplanarHelpers ∧ d.HasTriplanar := by
  rw [helperTexts, mem_distinctTexts_iff, List.mem_map]
  constructor
  · rintro ⟨⟨x, hMem, rfl⟩, hText⟩
    obtain ⟨hTriplanar, hHelpers⟩ := (x.2.helpers_cases x.1).resolve_left hText
    exact ⟨hHelpers, x, hMem, hTriplanar⟩
  · rintro ⟨rfl, ⟨ctx, n⟩, hMem, u, rfl, hTriplanar⟩
    exact ⟨⟨_, hMem, if_pos hTriplanar⟩, by decide⟩

/-- The kinds that add something to the function of the vertices. -/
def prologueKinds (d : Design StandardNode) : List String :=
  d.kinds.filter fun kind => !(StandardNode.kindPrologue .vertex kind).isEmpty

theorem mem_prologueKinds_iff {kind : String} :
    kind ∈ d.prologueKinds ↔ kind = "texture_uniform_triplanar" ∧ d.HasTriplanar := by
  simp only [prologueKinds, kinds, List.mem_filter, List.mem_eraseDups, List.mem_map, Bool.not_eq_true',
    String.isEmpty_eq_false_iff]
  constructor
  · rintro ⟨⟨x, hMem, rfl⟩, hPrologue⟩
    replace hPrologue : x.2.prologue .vertex ≠ "" := by
      rwa [← x.2.kindPrologue_kind]
    obtain ⟨⟨u, hNode, hTriplanar⟩, -⟩ := (x.2.prologue_cases .vertex).resolve_left hPrologue
    refine ⟨?_, x, hMem, u, hNode, hTriplanar⟩
    rw [hNode]
    exact if_pos hTriplanar
  · rintro ⟨rfl, ⟨ctx, n⟩, hMem, u, rfl, hTriplanar⟩
    exact ⟨⟨_, hMem, if_pos hTriplanar⟩, by decide⟩

theorem filter_prologueTexts (d : Design StandardNode) :
    (d.prologueTexts .vertex).filter (!·.isEmpty) = d.prologueKinds.map (StandardNode.kindPrologue .vertex) := by
  rw [prologueTexts, List.filter_map]
  rfl

/-- A prologue is for the vertices. -/
theorem filter_prologueTexts_of_ne (d : Design StandardNode) {function : Stage} (h : function ≠ .vertex) :
    (d.prologueTexts function).filter (!·.isEmpty) = [] := by
  refine List.filter_eq_nil_iff.mpr fun text hText => ?_
  obtain ⟨kind, hKind, rfl⟩ := List.mem_map.mp hText
  obtain ⟨x, -, rfl⟩ := List.mem_map.mp (List.mem_eraseDups.mp hKind)
  rcases x.2.prologue_cases function with hNone | ⟨-, hVertex, -⟩
  · have hText : StandardNode.kindPrologue function (NodeModel.kind x.2) = "" :=
      (x.2.kindPrologue_kind function).trans hNone
    simp [hText]
  · exact absurd hVertex h

/-- The start of every function, given what the kinds add to that of the vertices. -/
theorem concat_prologueTexts {prologues : List String}
    (h : (d.prologueTexts .vertex).filter (!·.isEmpty) = prologues) :
    (fun stage => Text.concat (d.prologueTexts stage)) =
      fun stage => if stage = .vertex then Text.concat prologues else "" := by
  funext stage
  split_ifs with hVertex
  · rw [hVertex, ← h, Text.concat_filter]
  · rw [← Text.concat_filter, d.filter_prologueTexts_of_ne hVertex]
    rfl

/-- The text of a shader is the one described. What a projection along the axes needs is in it once if there is one,
and is not in it otherwise. -/
theorem source_eq_description (hReachable : d.Reachable) :
    ∃ globals : Stage → List (NodeId × GlobalExpression), (∀ stage, d.IsGlobalCode stage (globals stage)) ∧
      (d.compile.source = d.description (Text.concat (helperTexts d.contributors)) globals fun stage =>
        Text.concat (d.prologueTexts stage)) ∧
      (d.HasTriplanar → helperTexts d.contributors = [TextureUniform.triplanarHelpers] ∧
        (d.prologueTexts .vertex).filter (!·.isEmpty) = [TextureUniform.triplanarPrologue] ∧
        d.compile.source = d.description TextureUniform.triplanarHelpers globals fun stage =>
          if stage = .vertex then TextureUniform.triplanarPrologue else "") ∧
      (¬d.HasTriplanar → helperTexts d.contributors = [] ∧ (d.prologueTexts .vertex).filter (!·.isEmpty) = [] ∧
        d.compile.source = d.description "" globals fun _ => "") := by
  choose globals hGlobals hNodes using d.exists_isGlobalCode
  have hSource := hReachable.source_eq hNodes
  have hTexts : (helperTexts d.contributors).Nodup := Reach.nodup_eraseDups _
  have hKinds : d.prologueKinds.Nodup := (Reach.nodup_eraseDups _).filter _
  have hHelpers := eq_singleton_or_nil hTexts fun _ => mem_helperTexts_iff
  have hPrologues := eq_singleton_or_nil hKinds fun _ => mem_prologueKinds_iff
  refine ⟨globals, hGlobals, hSource, fun hTriplanar => ?_, fun hNone => ?_⟩
  · have hPrologue : StandardNode.kindPrologue .vertex "texture_uniform_triplanar" =
        TextureUniform.triplanarPrologue := by decide +kernel
    have hVertex : (d.prologueTexts .vertex).filter (!·.isEmpty) = [TextureUniform.triplanarPrologue] := by
      rw [filter_prologueTexts, hPrologues.1 hTriplanar, List.map_singleton, hPrologue]
    refine ⟨hHelpers.1 hTriplanar, hVertex, ?_⟩
    rw [hSource, hHelpers.1 hTriplanar, concat_prologueTexts hVertex]
    simp only [Text.concat_cons, Text.concat_nil, String.append_empty]
  · have hVertex : (d.prologueTexts .vertex).filter (!·.isEmpty) = [] := by
      rw [filter_prologueTexts, hPrologues.2 hNone, List.map_nil]
    refine ⟨hHelpers.2 hNone, hVertex, ?_⟩
    rw [hSource, hHelpers.2 hNone, concat_prologueTexts hVertex]
    simp only [Text.concat_nil, ite_self]

/-- Two projections in the fragment stage; the vertex stage fails, and holds code for the file scope. -/
def paved : Design StandardNode :=
  (empty .spatial).edited
    [.add .vertex 2 .origin (.constant (.scalar (.infinity false))), .connect .vertex ⟨2, 0, 0, 0⟩,
      .add .vertex 3 .origin (.globalExpression { code := "float noise();" }),
      .add .fragment 2 .origin (.uniform (.texture { triplanar := true, name := "stone" })),
      .add .fragment 3 .origin (.uniform (.texture { triplanar := true, name := "moss" })),
      .connect .fragment ⟨2, 0, 0, 0⟩, .connect .fragment ⟨3, 1, 0, 1⟩]

theorem source_eq_description_paved :
    paved.Reachable ∧ (∃ failure, paved.emit false .vertex .output = .error failure) ∧
      declarationTexts paved.contributors = ["uniform sampler2D stone;\n", "uniform sampler2D moss;\n"] ∧
      helperTexts paved.contributors = [TextureUniform.triplanarHelpers] ∧
      (paved.prologueTexts .vertex).filter (!·.isEmpty) = [TextureUniform.triplanarPrologue] ∧
      ∃ globals, (3, ⟨"float noise();"⟩) ∈ globals .vertex ∧
        paved.compile.source = paved.description TextureUniform.triplanarHelpers globals fun stage =>
          if stage = .vertex then TextureUniform.triplanarPrologue else "" := by
  have hReachable : paved.Reachable := .edited (.new .spatial) (by decide)
  have hFails : ∃ failure, paved.emit false .vertex .output = .error failure :=
    ⟨.body 2 "Scalar" (.literal ⟨.infinity false⟩), by rfl⟩
  have hTriplanar : paved.HasTriplanar :=
    ⟨(⟨.spatial, .fragment, 2, false⟩, .uniform (.texture { triplanar := true, name := "stone" })), by decide +kernel,
      _, rfl, rfl⟩
  have hNode : paved.node? .vertex 3 = some (.globalExpression ⟨"float noise();"⟩) := by decide +kernel
  obtain ⟨globals, hGlobals, -, hOnce, -⟩ := source_eq_description hReachable
  obtain ⟨hHelpers, hPrologues, hSource⟩ := hOnce hTriplanar
  exact ⟨hReachable, hFails, by decide +kernel, hHelpers, hPrologues, globals,
    ((hGlobals .vertex).mem_iff 3 _).mpr hNode, hSource⟩

end Design

end ShadeGraph
