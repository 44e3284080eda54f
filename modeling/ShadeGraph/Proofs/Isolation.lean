import ShadeGraph.Proofs.Emission
import ShadeGraph.Proofs.Integrity
import ShadeGraph.Proofs.Placement

/-!
# A stage that fails leaves nothing but its diagnostic

A stage is assembled as a whole or not at all. So a design with a stage that fails compiles as if that stage had no
edges and no overrides, apart from one diagnostic.
-/

namespace ShadeGraph

/-! ## One more diagnostic -/

/-- The kind of terminals. It has no prologue, so it does not matter whether it is noted. -/
def terminalKind : String := "output"

/-- No terminal brings a prologue. -/
def Emission.IsPlain (e : Emission) : Prop :=
  e.kind = terminalKind → ∀ function, e.prologues.get function = ""

namespace Assembly

/-- The second assembly has one diagnostic more than the first, and everything else that can be told is the same. -/
structure Noted (note : Diagnostic) (a b : Assembly) : Prop where
  declarations : b.declarations = a.declarations
  helpers : b.helpers = a.helpers
  prologues : ∀ function, Text.concat (b.prologues.get function) = Text.concat (a.prologues.get function)
  prologueKinds : ∀ kind, kind ≠ terminalKind → (kind ∈ b.prologueKinds ↔ kind ∈ a.prologueKinds)
  declared : b.declared = a.declared
  bound : b.bound = a.bound
  bindings : b.bindings = a.bindings
  clashes : b.clashes = a.clashes
  diagnostics : ∃ before after, a.diagnostics = before ++ after ∧ b.diagnostics = before ++ note :: after

/-- What a prologue adds: its texts if its kind is new, and its kind. -/
theorem exists_addPrologues_eq (a : Assembly) (e : Emission) : ∃ prologues kinds,
    a.addPrologues e = { a with prologues := prologues, prologueKinds := kinds } ∧
    (∀ function, Text.concat (prologues.get function) = Text.concat (a.prologues.get function) ++
      if e.kind ∈ a.prologueKinds then "" else e.prologues.get function) ∧
    ∀ kind, kind ∈ kinds ↔ kind ∈ a.prologueKinds ∨ kind = e.kind := by
  rw [addPrologues, List.contains_eq_mem]
  by_cases hKind : e.kind ∈ a.prologueKinds
  · refine ⟨a.prologues, a.prologueKinds, by simp [hKind], by simp [hKind], ?_⟩
    intro kind
    constructor
    · exact .inl
    · rintro (hOld | rfl)
      · exact hOld
      · exact hKind
  · refine ⟨_, _, if_neg (by simpa using hKind), ?_, ?_⟩
    · intro function
      rw [PerStage.get_ofFn, Text.concat_append, if_neg hKind]
      simp [Text.concat]
    · simp

namespace Noted

variable {note : Diagnostic} {a b : Assembly}

theorem append_diagnostics (h : Noted note a b) (more : List Diagnostic) :
    Noted note { a with diagnostics := a.diagnostics ++ more } { b with diagnostics := b.diagnostics ++ more } := by
  obtain ⟨before, after, hFirst, hSecond⟩ := h.diagnostics
  refine { h with diagnostics := ⟨before, after ++ more, ?_, ?_⟩ }
  · rw [hFirst, List.append_assoc]
  · rw [hSecond, List.append_assoc, List.cons_append]

theorem addPrologues (h : Noted note a b) {e : Emission} (hPlain : e.IsPlain) :
    Noted note (a.addPrologues e) (b.addPrologues e) := by
  obtain ⟨prologues, kinds, hFirst, hPrologues, hKinds⟩ := exists_addPrologues_eq a e
  obtain ⟨prologues', kinds', hSecond, hPrologues', hKinds'⟩ := exists_addPrologues_eq b e
  rw [hFirst, hSecond]
  refine { h with prologues := ?_, prologueKinds := ?_ }
  · intro function
    change Text.concat (prologues'.get function) = Text.concat (prologues.get function)
    rw [hPrologues', hPrologues, h.prologues]
    by_cases hKind : e.kind = terminalKind
    · simp [hPlain hKind function]
    · simp only [h.prologueKinds e.kind hKind]
  · intro kind hKind
    change kind ∈ kinds' ↔ kind ∈ kinds
    rw [hKinds', hKinds, h.prologueKinds kind hKind]

theorem addFileScope (h : Noted note a b) {e : Emission} (hPlain : e.IsPlain) :
    Noted note (a.addFileScope e) (b.addFileScope e) := by
  have hTexts : Noted note { a with
      declarations := addText a.declarations e.declarations, helpers := addText a.helpers e.helpers } { b with
      declarations := addText b.declarations e.declarations, helpers := addText b.helpers e.helpers } := by
    refine { h with declarations := ?_, helpers := ?_ }
    · exact congrArg (addText · e.declarations) h.declarations
    · exact congrArg (addText · e.helpers) h.helpers
  exact hTexts.addPrologues hPlain

theorem reportClash (h : Noted note a b) (name : String) (site owner : Site) :
    Noted note (a.reportClash name site owner) (b.reportClash name site owner) := by
  rw [Assembly.reportClash, Assembly.reportClash, h.clashes]
  split
  · exact h
  · exact { h.append_diagnostics _ with clashes := rfl }

theorem declare (h : Noted note a b) (site : Site) (name : String) :
    Noted note (a.declare site name) (b.declare site name) := by
  rw [Assembly.declare, Assembly.declare, h.declared]
  split
  · exact { h with declared := rfl }
  · split
    · exact h
    · exact h.reportClash name site _

theorem bind (h : Noted note a b) (site : Site) (binding : Binding) :
    Noted note (a.bind site binding) (b.bind site binding) := by
  rw [Assembly.bind, Assembly.bind, h.bound, h.bindings]
  split
  · exact { h with bound := rfl, bindings := rfl }
  · split
    · exact h
    · exact h.reportClash binding.name site _

theorem declareAll (h : Noted note a b) (stage : Stage) (emissions : List Emission) :
    Noted note (a.declareAll stage emissions) (b.declareAll stage emissions) := by
  refine List.foldl_rel h ?_
  intro e _ a b hEmission
  refine List.foldl_rel hEmission ?_
  intro name _ a b hName
  exact hName.declare ⟨stage, e.id⟩ name

theorem bindAll (h : Noted note a b) (stage : Stage) (emissions : List Emission) :
    Noted note (a.bindAll stage emissions) (b.bindAll stage emissions) := by
  refine List.foldl_rel h ?_
  intro e _ a b hEmission
  refine List.foldl_rel hEmission ?_
  intro binding _ a b hBinding
  exact hBinding.bind ⟨stage, e.id⟩ binding

theorem commit (h : Noted note a b) (stage : Stage) {emissions : List Emission}
    (hPlain : ∀ e ∈ emissions, e.IsPlain) : Noted note (a.commit stage emissions) (b.commit stage emissions) := by
  have hFileScope : Noted note (emissions.foldl Assembly.addFileScope a) (emissions.foldl Assembly.addFileScope b) :=
    List.foldl_rel h fun e hMem _ _ hNoted => hNoted.addFileScope (hPlain e hMem)
  exact ((hFileScope.declareAll stage emissions).bindAll stage emissions).append_diagnostics _

/-- The stages that follow are assembled alike. -/
theorem add (h : Noted note a b) (stage : Stage) {result : Except StageFailure (List Emission)}
    (hPlain : ∀ emissions, result = .ok emissions → ∀ e ∈ emissions, e.IsPlain) :
    Noted note (a.add stage result) (b.add stage result) := by
  cases result with
  | ok emissions => exact h.commit stage (hPlain emissions rfl)
  | error failure => exact h.append_diagnostics _

end Noted

end Assembly

/-! ## Terminals -/

theorem StandardNode.prologue_eq_empty {n : StandardNode} (h : NodeModel.kind n = terminalKind) (ctx : EmitContext)
    (function : Stage) : NodeModel.prologue n ctx function = "" := by
  cases n with
  | uniform n =>
    cases n with
    | texture u =>
      have hKind : u.kind ≠ terminalKind := by
        rw [TextureUniform.kind]
        split <;> decide
      exact absurd h hKind
    | _ => rfl
  | _ => rfl

theorem Design.isPlain_of_emit {d : Design StandardNode} {preview : Bool} {stage : Stage} {root : NodeId}
    {emissions : List Emission} (h : d.emit preview stage root = .ok emissions) : ∀ e ∈ emissions, e.IsPlain := by
  intro e hMem hTerminal function
  obtain ⟨n, -, hNode⟩ := StageGraph.exists_node_of_emitNode (Design.emits_of_mem h hMem)
  rw [hNode.prologues, PerStage.get_ofFn]
  exact StandardNode.prologue_eq_empty (hNode.kind ▸ hTerminal) _ function

/-- An emission that adds nothing to a shader. -/
structure Emission.IsSilent (e : Emission) : Prop where
  block : e.block = ""
  declarations : e.declarations = ""
  helpers : e.helpers = ""
  kind : e.kind = terminalKind
  prologues : ∀ function, e.prologues.get function = ""
  uniformName? : e.uniformName? = none
  bindings : e.bindings = []
  warnings : e.warnings = []

namespace StageGraph

/-- The graph without edges and overrides. -/
def cleared {ν : Type} (g : StageGraph ν) : StageGraph ν :=
  { g with nodes := g.nodes.mapValues fun _ n => { n with overrides := .empty }, edges := [] }

theorem placed?_cleared {ν : Type} (g : StageGraph ν) (id : NodeId) :
    g.cleared.placed? id = (g.placed? id).map fun n => { n with overrides := .empty } :=
  Table.get?_mapValues ..

theorem order_cleared {ν : Type} [NodeModel ν] {g : StageGraph ν} {root : NodeId} (h : g.contains root = true) :
    g.cleared.order root = .ok [root] := by
  have hWired : g.cleared.Wired := .of_edges_eq_nil rfl
  have hRoot : g.cleared.contains root = true := by
    obtain ⟨n, hPlaced⟩ := contains_iff.mp h
    exact contains_iff.mpr ⟨_, by rw [placed?_cleared, hPlaced]; rfl⟩
  have hClosure : g.cleared.ancestry root = [root] := by
    simp only [ancestry, hRoot, if_true]
    rfl
  rw [hWired.order_eq, hClosure]
  simp [arrange, isReady, least?, cleared]

end StageGraph

namespace OutputNode

theorem bare_of_mem_inputs {n : OutputNode} {p : Port} (h : p ∈ n.inputs) : p.hint? = none ∧ p.default? = none := by
  obtain ⟨b, -, rfl⟩ := List.mem_map.mp h
  exact ⟨rfl, rfl⟩

theorem body_eq_nil (n : OutputNode) {operands : List String} (h : ∀ text ∈ operands, text = "") :
    n.body operands = [] := by
  rw [body, List.filter_eq_nil_iff.mpr, List.map_nil]
  rintro ⟨target, value⟩ hMem
  simp [h value (List.of_mem_zip hMem).2]

end OutputNode

/-- A terminal has no defaults but those that the user sets. -/
theorem PlacedNode.default?_of_output {n : PlacedNode StandardNode} {terminal : OutputNode}
    (hNode : n.node = .output terminal) (port : Nat) : n.default? port = n.overrides.get? port := by
  have hNone : NodeModel.inputDefault? n.node port = none := by
    rw [NodeModel.inputDefault?, Option.bind_eq_none_iff, hNode]
    intro p hPort
    exact (OutputNode.bare_of_mem_inputs (List.mem_of_getElem? hPort)).2
  rw [default?, hNone, Option.or_none]

namespace StageGraph

theorem operands_cleared {g : StageGraph StandardNode} {n : PlacedNode StandardNode} {terminal : OutputNode}
    (hNode : n.node = .output terminal) (hOverrides : n.overrides = .empty) (ctx : EmitContext) :
    g.cleared.operands n ctx = .ok ((NodeModel.inputs n.node).zipIdx.map fun _ => .absent) := by
  have hDefault (index : Nat) : n.default? index = none := by
    rw [PlacedNode.default?_of_output hNode, hOverrides, Table.get?_empty]
  rw [operands, Except.mapM_eq_ok_iff, List.forall₂_map_right_iff, List.forall₂_same]
  rintro ⟨port, index⟩ hMem
  have hPort : port ∈ NodeModel.inputs n.node := List.mem_of_getElem? (List.mem_zipIdx_iff_getElem?.mp hMem)
  rw [hNode] at hPort
  have hHint := (OutputNode.bare_of_mem_inputs hPort).1
  simp [operandAt, reading?, cleared, unwired, hHint, hDefault]

/-- Without edges and overrides there is nothing that a terminal could write. -/
theorem emitNode_cleared {g : StageGraph StandardNode} {terminal : OutputNode} {ctx : EmitContext}
    (hTerminal : g.node? ctx.id = some (.output terminal)) :
    ∃ e, g.cleared.emitNode ctx = .ok (some e) ∧ e.IsSilent := by
  obtain ⟨⟨_, position, overrides⟩, hPlaced, rfl⟩ := node?_eq_some_iff.mp hTerminal
  have hCleared : g.cleared.placed? ctx.id = some ⟨.output terminal, position, .empty⟩ := by
    rw [placed?_cleared, hPlaced]
    rfl
  have hOperands := operands_cleared (g := g) (n := ⟨.output terminal, position, .empty⟩) rfl rfl ctx
  have hCode : terminal.body (((NodeModel.inputs (StandardNode.output terminal)).zipIdx.map fun _ =>
      Operand.absent).map Operand.text) = [] := by
    apply OutputNode.body_eq_nil
    simp [Operand.text]
  have hPermitted : NodeModel.isPermitted (StandardNode.output terminal) ctx.mode ctx.stage = true := rfl
  have hGlobal : NodeModel.isGlobal (StandardNode.output terminal) = false := rfl
  simp only [emitNode, hCleared, hPermitted, hGlobal, hOperands, Bool.not_true, Bool.false_eq_true, if_false]
  refine ⟨_, rfl, ?_⟩
  constructor
  · simp only [Emission.block, hCode]
    rfl
  case prologues =>
    intro function
    exact PerStage.get_ofFn _ function
  all_goals rfl

end StageGraph

/-! ## Designs with a stage that fails -/

namespace Assembly

variable {stage : Stage} {failure : StageFailure}

/-- A failure and a terminal that writes nothing differ in the diagnostic. -/
theorem noted_fail (a : Assembly) {e : Emission} (h : e.IsSilent) :
    Noted (failure.diagnostic stage) (a.commit stage [e]) (a.fail stage failure) := by
  obtain ⟨prologues, kinds, hAdd, hPrologues, hKinds⟩ := exists_addPrologues_eq a e
  have hText (texts : List String) : addText texts "" = texts := rfl
  have hCommit : a.commit stage [e] =
      { a with prologues := prologues, prologueKinds := kinds, diagnostics := a.diagnostics ++ [] } := by
    simp only [commit, declareAll, bindAll, addFileScope, List.foldl_cons, List.foldl_nil, List.flatMap_cons,
      List.flatMap_nil, h.declarations, h.helpers, h.uniformName?, h.bindings, h.warnings, hText, hAdd]
    rfl
  rw [hCommit]
  constructor
  case prologues =>
    intro function
    change _ = Text.concat (prologues.get function)
    rw [hPrologues, h.prologues, ite_self, String.append_empty]
    rfl
  case prologueKinds =>
    intro kind hKind
    change _ ↔ kind ∈ kinds
    rw [hKinds, h.kind]
    simp [hKind, fail]
  case diagnostics =>
    exact ⟨a.diagnostics, [], rfl, rfl⟩
  all_goals rfl

/-- Results that differ at one stage, which fails on the one side and is silent on the other. -/
theorem noted_foldl {results results' : Stage → Except StageFailure (List Emission)}
    (hPlain : ∀ s emissions, results s = .ok emissions → ∀ e ∈ emissions, e.IsPlain)
    (hSame : ∀ s, s ≠ stage → results' s = results s) (hFailure : results stage = .error failure) {e : Emission}
    (hSilent : e.IsSilent) (hCleared : results' stage = .ok [e]) {stages : List Stage} (hNodup : stages.Nodup)
    (hMem : stage ∈ stages) (a : Assembly) :
    Noted (failure.diagnostic stage) (stages.foldl (fun a s => a.add s (results' s)) a)
      (stages.foldl (fun a s => a.add s (results s)) a) := by
  induction stages generalizing a with
  | nil => cases hMem
  | cons s rest ih =>
    obtain ⟨hNew, hRest⟩ := List.nodup_cons.mp hNodup
    rw [List.foldl_cons, List.foldl_cons]
    by_cases hStage : s = stage
    · subst hStage
      rw [hFailure, hCleared]
      refine List.foldl_rel (a.noted_fail hSilent) ?_
      intro s' hLater b b' hNoted
      have hOther : s' ≠ s := by
        rintro rfl
        exact hNew hLater
      rw [hSame s' hOther]
      exact hNoted.add s' (hPlain s')
    · rw [hSame s hStage]
      exact ih hRest ((List.mem_cons.mp hMem).resolve_left (Ne.symm hStage)) _

end Assembly

theorem StageFailure.severity_kind (f : StageFailure) : f.kind.severity = .error ∧ f.kind ≠ .duplicateUniform := by
  cases f with
  | order cause => cases cause <;> exact ⟨rfl, DiagnosticKind.noConfusion⟩
  | body _ _ cause => cases cause <;> exact ⟨rfl, DiagnosticKind.noConfusion⟩
  | _ => exact ⟨rfl, DiagnosticKind.noConfusion⟩

theorem StageFailure.isError_diagnostic (f : StageFailure) (stage : Stage) : (f.diagnostic stage).isError = true :=
  decide_eq_true f.severity_kind.1

namespace Design

/-- All stages of a design, assembled. -/
def assembly {ν : Type} [NodeModel ν] (d : Design ν) : Assembly :=
  Stage.all.foldl (fun a stage => a.add stage (d.emit false stage .output)) {}

/-- The function of a stage in the text of a shader. -/
def function {ν : Type} [NodeModel ν] (d : Design ν) (stage : Stage) : String :=
  functionText stage.name (Text.concat (d.assembly.prologues.get stage)) (bodyText (d.emit false stage .output))

theorem functionText_fragment (body : String) :
    functionText Stage.fragment.name "" body = "\nvoid fragment() \x7b\n" ++ body ++ "\x7d\n" := by
  have hOpening : "\nvoid " ++ Stage.fragment.name ++ "() \x7b\n" = "\nvoid fragment() \x7b\n" := rfl
  rw [functionText, hOpening, String.append_empty]

theorem compile_eq {ν : Type} [NodeModel ν] (d : Design ν) :
    d.compile = ⟨d.settings.header d.mode ++ d.fileScope false d.assembly ++ Text.concat (Stage.all.map d.function),
      d.assembly.bindings, d.assembly.diagnostics⟩ := by
  simp only [compile, PerStage.get_ofFn]
  rfl

/-- The design without the edges and overrides of a stage. -/
def cleared {ν : Type} (d : Design ν) (stage : Stage) : Design ν := d.withGraph stage (d.graph stage).cleared

theorem emit_cleared_of_ne {ν : Type} [NodeModel ν] (d : Design ν) {stage stage' : Stage} (h : stage' ≠ stage)
    (preview : Bool) (root : NodeId) : (d.cleared stage).emit preview stage' root = d.emit preview stage' root := by
  rw [emit, emit, cleared, graph_withGraph, if_neg h]
  rfl

theorem emit_cleared {d : Design StandardNode} {stage : Stage} {terminal : OutputNode}
    (hTerminal : (d.graph stage).node? .output = some (.output terminal)) (preview : Bool) :
    ∃ e, (d.cleared stage).emit preview stage .output = .ok [e] ∧ e.IsSilent := by
  obtain ⟨placed, hPlaced, -⟩ := StageGraph.node?_eq_some_iff.mp hTerminal
  have hOrder := StageGraph.order_cleared (StageGraph.contains_iff.mpr ⟨placed, hPlaced⟩)
  let ctx : EmitContext := ⟨d.mode, stage, .output, preview⟩
  obtain ⟨e, hEmit, hSilent⟩ : ∃ e, (d.graph stage).cleared.emitNode ctx = .ok (some e) ∧ e.IsSilent :=
    StageGraph.emitNode_cleared hTerminal
  refine ⟨e, ?_, hSilent⟩
  rw [emit_eq_ok_iff, cleared, graph_withGraph_self]
  refine ⟨[.output], hOrder, [some e], ?_, rfl⟩
  refine .cons ?_ .nil
  rw [Emits, graph_withGraph_self]
  exact hEmit

theorem globalNodes_cleared {ν : Type} [NodeModel ν] (d : Design ν) (stage stage' : Stage) :
    (d.cleared stage).globalNodes stage' = d.globalNodes stage' := by
  rw [globalNodes, globalNodes, cleared, graph_withGraph]
  split
  · rename_i hStage
    subst hStage
    simp only [StageGraph.cleared, Table.mapValues, List.map_map]
    rfl
  · rfl

theorem fileScope_cleared {ν : Type} [NodeModel ν] (d : Design ν) (stage : Stage) (preview : Bool) (a : Assembly) :
    (d.cleared stage).fileScope preview a = d.fileScope preview a := by
  simp only [fileScope, globalNodes_cleared]
  rfl

/-- A stage that fails adds one error to the diagnostics. Apart from it, the design compiles as it would without the
edges and overrides of the stage. -/
theorem failing_stage_isolated {d : Design StandardNode} (hReachable : d.Reachable) {stage : Stage}
    {failure : StageFailure} (hFailure : d.emit false stage .output = .error failure) :
    d.compile.source = (d.cleared stage).compile.source ∧
    d.compile.bindings = (d.cleared stage).compile.bindings ∧
    ∃ before after note, note.isError = true ∧ note.stage = some stage ∧
      (d.cleared stage).compile.diagnostics = before ++ after ∧ d.compile.diagnostics = before ++ note :: after := by
  obtain ⟨e, hCleared, hSilent⟩ := emit_cleared (hReachable.intact.anchored stage).terminal false
  have hNoted : Assembly.Noted (failure.diagnostic stage) (d.cleared stage).assembly d.assembly :=
    Assembly.noted_foldl (fun s _ => isPlain_of_emit) (fun s hStage => d.emit_cleared_of_ne hStage false .output)
      hFailure hSilent hCleared (by decide) (Stage.mem_all stage) {}
  have hFunction : d.function = (d.cleared stage).function := by
    funext s
    have hBody : bodyText (d.emit false s .output) = bodyText ((d.cleared stage).emit false s .output) := by
      by_cases hStage : s = stage
      · subst hStage
        rw [hFailure, hCleared]
        simp [bodyText, hSilent.block, Text.concat]
      · rw [emit_cleared_of_ne d hStage]
    rw [function, function, hNoted.prologues, hBody]
  have hScope : d.fileScope false d.assembly = (d.cleared stage).fileScope false (d.cleared stage).assembly := by
    rw [fileScope_cleared, fileScope, fileScope, hNoted.declarations, hNoted.helpers]
  obtain ⟨before, after, hFirst, hSecond⟩ := hNoted.diagnostics
  rw [d.compile_eq, (d.cleared stage).compile_eq]
  refine ⟨?_, hNoted.bindings, before, after, failure.diagnostic stage, failure.isError_diagnostic stage, rfl, hFirst,
    hSecond⟩
  dsimp only
  rw [hScope, hFunction]
  rfl

/-- A uniform and, after it, a constant without a literal feed the terminal. -/
def overflowing : Design StandardNode :=
  (Design.empty .spatial).edited
    [.add .fragment 2 .origin (.uniform (.value { type := .scalar })),
     .add .fragment 3 .origin (.constant (.scalar (.infinity false))),
     .connect .fragment ⟨2, 0, 0, 1⟩, .connect .fragment ⟨3, 0, 0, 2⟩]

theorem reachable_overflowing : overflowing.Reachable := .edited (.new .spatial) (by decide)

theorem failing_stage_isolated_overflowing :
    ∃ failure, overflowing.emit false .fragment .output = .error failure ∧
      overflowing.compile.source = (overflowing.cleared .fragment).compile.source ∧
      overflowing.compile.bindings = (overflowing.cleared .fragment).compile.bindings := by
  have hFailure : overflowing.emit false .fragment .output =
      .error (.body 3 "Scalar" (.literal ⟨.infinity false⟩)) := by rfl
  obtain ⟨hSource, hBindings, -⟩ := failing_stage_isolated reachable_overflowing hFailure
  exact ⟨_, hFailure, hSource, hBindings⟩

end Design

end ShadeGraph
