import ShadeGraph.Proofs.Isolation
import ShadeGraph.Proofs.Literals

/-!
# Exactly the broken stages are diagnosed

A stage is broken if a cycle runs within the closure of its terminal, or if a node of the closure is faulty: it is
not permitted, it is fed a type that it does not take, or it is a constant without a literal. Nothing else keeps a
stage of a reachable design from being emitted, and each broken stage is reported once.
-/

namespace ShadeGraph

/-! ## Failures among the diagnostics -/

/-- Whether a diagnostic says that a stage was not emitted. -/
def Diagnostic.isFailure (x : Diagnostic) : Bool := x.isError && x.kind ≠ .duplicateUniform

/-- What is reported of the outcome of a stage. -/
def reported (stage : Stage) : Except StageFailure (List Emission) → List Diagnostic
  | .ok _ => []
  | .error failure => [failure.diagnostic stage]

theorem StageFailure.isFailure_diagnostic (f : StageFailure) (stage : Stage) :
    (f.diagnostic stage).isFailure = true := by
  rw [Diagnostic.isFailure, f.isError_diagnostic stage, Bool.true_and]
  exact decide_eq_true f.severity_kind.2

theorem Diagnostic.isFailure_of_kind {x : Diagnostic} (h : x.kind = .danglingEdge ∨ x.kind = .node) :
    x.isFailure = true := by
  rw [isFailure, isError, severity]
  rcases h with h | h <;> rw [h] <;> rfl

theorem isFailure_of_mem_nodeWarnings {ν : Type} [NodeModel ν] {n : ν} {ctx : EmitContext} {x : Diagnostic}
    (h : x ∈ nodeWarnings n ctx) : x.isFailure = false := by
  simp only [nodeWarnings, List.mem_append, Option.mem_toList, Option.map_eq_some_iff] at h
  rcases h with ⟨text, -, rfl⟩ | ⟨text, -, rfl⟩
  · rfl
  · rfl

namespace Assembly

def failures (a : Assembly) : List Diagnostic := a.diagnostics.filter Diagnostic.isFailure

/-- What no step changes, a run does not change. -/
theorem foldl_keeps {α β : Type} {f : Assembly → β} {step : Assembly → α → Assembly}
    (hStep : ∀ a x, f (step a x) = f a) (l : List α) (a : Assembly) : f (l.foldl step a) = f a := by
  induction l generalizing a with
  | nil => rfl
  | cons x rest ih => rw [List.foldl_cons, ih, hStep]

/-- Names touch nothing but the tables of names, the bindings, and what is reported of a clash. -/
theorem names_keep {β : Type} {f : Assembly → β}
    (hClash : ∀ a name site owner, f (reportClash a name site owner) = f a)
    (hDeclared : ∀ a declared, f { a with declared } = f a)
    (hBound : ∀ a bound bindings, f { a with bound, bindings } = f a) (a : Assembly) (stage : Stage)
    (emissions : List Emission) : f ((a.declareAll stage emissions).bindAll stage emissions) = f a := by
  have hDeclare (a : Assembly) (site : Site) (name : String) : f (a.declare site name) = f a := by
    rw [declare]
    split
    · exact hDeclared ..
    · split
      · rfl
      · exact hClash ..
  have hBind (a : Assembly) (site : Site) (binding : Binding) : f (a.bind site binding) = f a := by
    rw [Assembly.bind]
    split
    · exact hBound ..
    · split
      · rfl
      · exact hClash ..
  rw [bindAll, foldl_keeps fun _ _ => foldl_keeps (fun _ _ => hBind ..) _ _, declareAll,
    foldl_keeps fun _ _ => foldl_keeps (fun _ _ => hDeclare ..) _ _]

theorem failures_reportClash (a : Assembly) (name : String) (site owner : Site) :
    (a.reportClash name site owner).failures = a.failures := by
  rw [reportClash]
  split
  · rfl
  · simp [failures, Diagnostic.located, Diagnostic.isFailure]

theorem failures_addFileScope (a : Assembly) (e : Emission) : (a.addFileScope e).failures = a.failures := by
  rw [addFileScope, addPrologues]
  split <;> rfl

theorem failures_commit (a : Assembly) (stage : Stage) {emissions : List Emission}
    (h : ∀ e ∈ emissions, ∀ x ∈ e.warnings, x.isFailure = false) :
    (a.commit stage emissions).failures = a.failures := by
  have hWarnings : (emissions.flatMap Emission.warnings).filter Diagnostic.isFailure = [] := by
    rw [List.filter_eq_nil_iff]
    intro x hMem
    obtain ⟨e, hEmission, hWarning⟩ := List.mem_flatMap.mp hMem
    simp [h e hEmission x hWarning]
  have hNames : ((emissions.foldl addFileScope a).declareAll stage emissions |>.bindAll stage emissions).failures =
      a.failures := by
    rw [names_keep failures_reportClash (fun _ _ => rfl) (fun _ _ _ => rfl), foldl_keeps failures_addFileScope]
  rw [commit, failures, List.filter_append, hWarnings, List.append_nil]
  exact hNames

theorem failures_add (a : Assembly) (stage : Stage) {result : Except StageFailure (List Emission)}
    (h : ∀ emissions, result = .ok emissions → ∀ e ∈ emissions, ∀ x ∈ e.warnings, x.isFailure = false) :
    (a.add stage result).failures = a.failures ++ reported stage result := by
  cases result with
  | ok emissions => rw [add, failures_commit a stage (h emissions rfl), reported, List.append_nil]
  | error failure => simp [add, fail, failures, reported, failure.isFailure_diagnostic stage]

end Assembly

namespace Design

/-- The failures that a compile reports are those of the stages, in the order of the stages. -/
theorem failures_compile {ν : Type} [NodeModel ν] (d : Design ν) :
    d.compile.diagnostics.filter Diagnostic.isFailure =
      Stage.all.flatMap fun stage => reported stage (d.emit false stage .output) := by
  have hWarnings : ∀ stage emissions, d.emit false stage .output = .ok emissions →
      ∀ e ∈ emissions, ∀ x ∈ e.warnings, x.isFailure = false := by
    intro stage emissions hEmit e hMem x hWarning
    obtain ⟨n, -, hNode⟩ := StageGraph.exists_node_of_emitNode (emits_of_mem hEmit hMem)
    rw [hNode.warnings] at hWarning
    exact isFailure_of_mem_nodeWarnings hWarning
  have hFold (stages : List Stage) (a : Assembly) :
      (stages.foldl (fun a stage => a.add stage (d.emit false stage .output)) a).failures =
        a.failures ++ stages.flatMap fun stage => reported stage (d.emit false stage .output) := by
    induction stages generalizing a with
    | nil => simp
    | cons stage rest ih =>
      rw [List.foldl_cons, ih, Assembly.failures_add a stage (hWarnings stage), List.flatMap_cons, List.append_assoc]
  rw [compile_eq]
  exact hFold Stage.all {}

end Design

/-! ## Faulty nodes -/

/-- Neither an edge without an end nor a node without a body. -/
def StageFailure.IsDiagnosed (f : StageFailure) : Prop := f.kind ≠ .danglingEdge ∧ f.kind ≠ .node

namespace StageGraph

/-- Why a node cannot be emitted. -/
inductive Faulty (g : StageGraph StandardNode) (mode : Mode) (stage : Stage) (id : NodeId) : Prop
  | notPermitted {n : StandardNode} (hNode : g.node? id = some n) (h : NodeModel.isPermitted n mode stage = false)
  /-- An edge into the node brings a type that the port does not take. -/
  | mismatch {e : Edge} {type : PortType} {port : Port} (hEdge : e ∈ g.edges) (hTarget : e.target = id)
      (hType : g.outputType? e.source e.output = some type) (hPort : g.inputPort? e.target e.input = some port)
      (h : port.accepts type = false)
  /-- A constant holds a number that is not finite. -/
  | infinite {c : Constant} {x : Single} (hNode : g.node? id = some (.constant c)) (hNumber : x ∈ c.numbers)
      (h : x.isFinite = false)

variable {g : StageGraph StandardNode} {ctx : EmitContext} {placed : PlacedNode StandardNode}

theorem operandAt_eq_error (hWired : g.Wired) (hEncodes : placed.Encodes) {index : Nat} {port : Port}
    (hPort : g.inputPort? ctx.id index = some port) {f : StageFailure}
    (h : g.operandAt placed ctx index port = .error f) :
    g.Faulty ctx.mode ctx.stage ctx.id ∧ f.IsDiagnosed := by
  rw [operandAt] at h
  split at h
  · rename_i e hReading
    obtain ⟨hEdge, hTarget, hInput⟩ := hWired.reading?_eq_some_iff.mp hReading
    obtain ⟨⟨type, hType⟩, -⟩ := inRange_iff.mp (hWired.inRange e hEdge)
    obtain ⟨source, hSource, -⟩ := outputType?_eq_some_iff.mp hType
    simp only [wired, hSource, hType] at h
    split at h
    · rename_i hAccepts
      cases h
      refine ⟨.mismatch hEdge hTarget hType (hTarget ▸ hInput ▸ hPort) (by simpa using hAccepts), ?_⟩
      exact ⟨by simp [StageFailure.kind], by simp [StageFailure.kind]⟩
    · split at h <;> cases h
  -- a default has a literal, so there is no failure here
  · rw [unwired] at h
    split at h
    · cases h
    · split at h
      · cases h
      · rename_i value hDefault
        obtain ⟨text, hLiteral⟩ := hEncodes.exists_literal hDefault
        rw [hLiteral] at h
        cases h

theorem length_operands {operands : List Operand} (h : g.operands placed ctx = .ok operands) :
    operands.length = (NodeModel.inputs placed.node).length := by
  rw [← (Except.mapM_eq_ok_iff.mp h).length_eq, List.length_zipIdx]

theorem length_resultNames (id : NodeId) (n : StandardNode) :
    (resultNames id n).length = (NodeModel.outputs n).length := by
  simp [resultNames, resultVariables]

/-- A node that is not emitted is faulty. -/
theorem emitNode_eq_error (hWired : g.Wired) (hPlaced : g.placed? ctx.id = some placed) (hEncodes : placed.Encodes)
    {f : StageFailure} (h : g.emitNode ctx = .error f) : g.Faulty ctx.mode ctx.stage ctx.id ∧ f.IsDiagnosed := by
  have hNode : g.node? ctx.id = some placed.node := node?_eq_some_iff.mpr ⟨placed, hPlaced, rfl⟩
  rw [emitNode, hPlaced] at h
  simp only [Except.throw_bind] at h
  split at h
  · rename_i hPermitted
    cases h
    exact ⟨.notPermitted hNode (by simpa using hPermitted), by simp [StageFailure.kind], by simp [StageFailure.kind]⟩
  · split at h
    · cases h
    · rcases Except.bind_eq_error_iff.mp h with hOperands | ⟨operands, hOperands, hBody⟩
      · obtain ⟨⟨port, index⟩, hMem, hOperand⟩ := Except.exists_of_mapM_eq_error hOperands
        have hPort : g.inputPort? ctx.id index = some port :=
          inputPort?_eq_some_iff.mpr ⟨placed.node, hNode, List.mem_zipIdx_iff_getElem?.mp hMem⟩
        exact operandAt_eq_error hWired hEncodes hPort hOperand
      · have hLength : (operands.map Operand.text).length = (NodeModel.inputs placed.node).length := by
          rw [List.length_map, length_operands hOperands]
        have hCases := StandardNode.body_cases hLength (length_resultNames ctx.id placed.node) ctx
        simp only [resultNames] at hCases
        rcases hCases with ⟨⟨code, hCode⟩, -⟩ | ⟨⟨cause, hCause⟩, hInfinite⟩
        · rw [hCode] at hBody
          cases hBody
        · rw [hCause] at hBody
          cases hBody
          obtain ⟨c, x, hConstant, hNumber, hFinite⟩ := StandardNode.not_isFinite_iff.mp hInfinite
          exact ⟨.infinite (hConstant ▸ hNode) hNumber hFinite, by simp [StageFailure.kind],
            by simp [StageFailure.kind]⟩

theorem isPermitted_of_emitNode {n : StandardNode} (hNode : g.node? ctx.id = some n) {e? : Option Emission}
    (h : g.emitNode ctx = .ok e?) : NodeModel.isPermitted n ctx.mode ctx.stage = true := by
  obtain ⟨placed, hPlaced, rfl⟩ := node?_eq_some_iff.mp hNode
  rw [emitNode, hPlaced] at h
  simp only [Except.throw_bind, Except.ite_throw_eq_ok_iff] at h
  simpa using h.1

/-- What is emitted as nothing has neither inputs nor numbers. -/
theorem not_faulty_of_emitNode_none (h : g.emitNode ctx = .ok none) : ¬g.Faulty ctx.mode ctx.stage ctx.id := by
  obtain ⟨n, hNode, hGlobal⟩ := emitNode_eq_ok_none h
  obtain ⟨code, rfl⟩ : ∃ code, n = .globalExpression code := by
    cases n with
    | globalExpression code => exact ⟨code, rfl⟩
    | _ => cases hGlobal
  rintro (⟨hSame, hNot⟩ | ⟨-, hTarget, -, hPort, -⟩ | ⟨hSame, -⟩)
  · rw [isPermitted_of_emitNode hSame h] at hNot
    cases hNot
  · obtain ⟨m, hSame, hInput⟩ := inputPort?_eq_some_iff.mp hPort
    rw [hTarget, hNode] at hSame
    cases hSame
    cases hInput
  · cases hNode.symm.trans hSame

theorem not_faulty_of_emitNode_some (hWired : g.Wired) {e : Emission} (h : g.emitNode ctx = .ok (some e)) :
    ¬g.Faulty ctx.mode ctx.stage ctx.id := by
  obtain ⟨-, placed, hPlaced, hOperands, -, hBody⟩ := emitNode_eq_ok_some h
  have hNode : g.node? ctx.id = some placed.node := node?_eq_some_iff.mpr ⟨placed, hPlaced, rfl⟩
  rintro (⟨hSame, hNot⟩ | ⟨hEdge, hTarget, hType, hPort, hAccepts⟩ | ⟨hSame, hNumber, hInfinite⟩)
  · rw [isPermitted_of_emitNode hSame h] at hNot
    cases hNot
  -- the edge is the one that the input reads, and it is refused
  · obtain ⟨n, hSame, hInput⟩ := inputPort?_eq_some_iff.mp hPort
    rw [hTarget, hNode] at hSame
    cases hSame
    obtain ⟨operand, -, hOperand⟩ := operands_getElem? hOperands hInput
    obtain ⟨source, hSource, -⟩ := outputType?_eq_some_iff.mp hType
    rw [operandAt, ← hTarget, hWired.reading?_eq hEdge] at hOperand
    simp [wired, hSource, hType, hAccepts] at hOperand
  · have hLength : (e.operands.map Operand.text).length = (NodeModel.inputs placed.node).length := by
      rw [List.length_map, length_operands hOperands]
    rcases StandardNode.body_cases hLength (length_resultNames ctx.id placed.node) ctx with
      ⟨-, hFinite⟩ | ⟨⟨cause, hCause⟩, -⟩
    · have hConstant : placed.node = .constant _ := Option.some.inj (hNode.symm.trans hSame)
      rw [hFinite _ hConstant _ hNumber] at hInfinite
      cases hInfinite
    · rw [hBody] at hCause
      cases hCause

/-- A node that is emitted is not faulty. -/
theorem not_faulty_of_emitNode (hWired : g.Wired) {e? : Option Emission} (h : g.emitNode ctx = .ok e?) :
    ¬g.Faulty ctx.mode ctx.stage ctx.id := by
  cases e? with
  | none => exact not_faulty_of_emitNode_none h
  | some e => exact not_faulty_of_emitNode_some hWired h

/-! ## Broken stages -/

/-- A root reads from a node, directly or not, or is the node. Such nodes are the closure of the root. -/
def Feeds (g : StageGraph StandardNode) (root id : NodeId) : Prop := Relation.ReflTransGen (Joined g.edges) id root

/-- The edges within the closure of a root contain a cycle. -/
def HasCycle (g : StageGraph StandardNode) (root : NodeId) : Prop :=
  ∃ id, Relation.TransGen (fun a b => Joined g.edges a b ∧ g.Feeds root a ∧ g.Feeds root b) id id

/-- The closure of a root has a cycle or a faulty node. -/
def Broken (g : StageGraph StandardNode) (mode : Mode) (stage : Stage) (root : NodeId) : Prop :=
  g.HasCycle root ∨ ∃ id, g.Feeds root id ∧ g.Faulty mode stage id

theorem Wired.order_cases (hWired : g.Wired) {root : NodeId} (hRoot : g.contains root = true) :
    (∃ order, g.order root = .ok order ∧ (∀ id, id ∈ order ↔ g.Feeds root id) ∧ ¬g.HasCycle root) ∨
      (∃ id, g.order root = .error (.cycle id)) ∧ g.HasCycle root := by
  have hMem (id : NodeId) : id ∈ g.ancestry root ↔ g.Feeds root id := by
    simp [hWired.mem_ancestry_iff, hRoot, Feeds]
  have hAmong : JoinedAmong g.edges (g.ancestry root) =
      fun a b => Joined g.edges a b ∧ g.Feeds root a ∧ g.Feeds root b := by
    funext a b
    rw [JoinedAmong, hMem, hMem]
  have hStuck : (arrange g.edges (g.ancestry root).length (g.ancestry root)).2 = [] ↔ ¬g.HasCycle root := by
    rw [arrange_stuck_eq_nil_iff (nodup_ancestry g root) le_rfl, hAmong, HasCycle, not_exists]
  rw [hWired.order_eq]
  dsimp only
  by_cases hNil : (arrange g.edges (g.ancestry root).length (g.ancestry root)).2 = []
  · left
    rw [if_pos hNil]
    refine ⟨_, rfl, ?_, ?_⟩
    · intro id
      have hPerm := arrange_perm g.edges (g.ancestry root).length (g.ancestry root)
      rw [hNil, List.append_nil] at hPerm
      rw [hPerm.mem_iff, hMem]
    · exact hStuck.mp hNil
  · right
    rw [if_neg hNil]
    exact ⟨⟨_, rfl⟩, not_not.mp fun hAcyclic => hNil (hStuck.mpr hAcyclic)⟩

end StageGraph

namespace Design

variable {d : Design StandardNode} {stage : Stage}

/-- A stage is emitted or it is broken. -/
theorem Reachable.emit_cases (h : d.Reachable) {root : NodeId} (hRoot : (d.graph stage).contains root = true)
    (preview : Bool) :
    (∃ emissions, d.emit preview stage root = .ok emissions) ∧ ¬(d.graph stage).Broken d.mode stage root ∨
      (∃ f, d.emit preview stage root = .error f ∧ f.IsDiagnosed) ∧ (d.graph stage).Broken d.mode stage root := by
  have hWired := h.wired stage
  rcases hWired.order_cases hRoot with ⟨order, hOrder, hMem, hAcyclic⟩ | ⟨⟨id, hOrder⟩, hCycle⟩
  · have hEmit : d.emit preview stage root =
        (order.mapM fun id => (d.graph stage).emitNode ⟨d.mode, stage, id, preview⟩) >>= fun all =>
          .ok (all.filterMap fun e => e) := by
      rw [emit, hOrder]
      rfl
    cases hAll : order.mapM fun id => (d.graph stage).emitNode ⟨d.mode, stage, id, preview⟩ with
    | ok all =>
      refine .inl ⟨⟨_, by rw [hEmit, hAll]; rfl⟩, ?_⟩
      rintro (hCycle | ⟨id, hFeeds, hFaulty⟩)
      · exact hAcyclic hCycle
      · obtain ⟨e?, hNode⟩ := Except.exists_ok_of_mem_mapM hAll ((hMem id).mpr hFeeds)
        exact StageGraph.not_faulty_of_emitNode hWired hNode hFaulty
    | error f =>
      obtain ⟨id, hPlace, hNode⟩ := Except.exists_of_mapM_eq_error hAll
      have hFeeds := (hMem id).mp hPlace
      obtain ⟨placed, hPlaced⟩ := hWired.exists_placed_of_leadsTo hRoot hFeeds
      obtain ⟨hFaulty, hDiagnosed⟩ :=
        StageGraph.emitNode_eq_error hWired hPlaced (h.encodes stage id placed hPlaced) hNode
      exact .inr ⟨⟨f, by rw [hEmit, hAll]; rfl, hDiagnosed⟩, .inr ⟨id, hFeeds, hFaulty⟩⟩
  · refine .inr ⟨⟨.order (.cycle id), ?_, by simp [StageFailure.kind], by simp [StageFailure.kind]⟩, .inl hCycle⟩
    rw [emit, hOrder]
    rfl

theorem filter_reported (s stage : Stage) (result : Except StageFailure (List Emission)) :
    (reported s result).filter (fun x => x.stage = some stage) = if s = stage then reported s result else [] := by
  cases result with
  | ok emissions => simp [reported]
  | error failure => simp [reported, StageFailure.diagnostic, Diagnostic.located, List.filter_cons]

/-- The failures at a stage are what is reported of the stage. -/
theorem errors_at_eq {ν : Type} [NodeModel ν] (d : Design ν) (stage : Stage) :
    d.compile.diagnostics.filter (fun x => x.isError && x.kind ≠ .duplicateUniform && x.stage = some stage) =
      reported stage (d.emit false stage .output) := by
  have hFilter :
      d.compile.diagnostics.filter (fun x => x.isError && x.kind ≠ .duplicateUniform && x.stage = some stage) =
        (d.compile.diagnostics.filter Diagnostic.isFailure).filter fun x => x.stage = some stage := by
    rw [List.filter_filter]
    apply List.filter_congr
    intro x _
    rw [Bool.and_comm]
    rfl
  rw [hFilter, failures_compile]
  cases stage <;> simp [Stage.all, filter_reported]

theorem exists_function {ν : Type} [NodeModel ν] (d : Design ν) (stage : Stage) :
    ∃ before after, d.compile.source = before ++ d.function stage ++ after := by
  obtain ⟨first, rest, hAll⟩ := List.append_of_mem (Stage.mem_all stage)
  refine ⟨d.settings.header d.mode ++ d.fileScope false d.assembly ++ Text.concat (first.map d.function),
    Text.concat (rest.map d.function), ?_⟩
  rw [compile_eq, hAll, List.map_append, List.map_cons]
  simp only [Text.concat_append, Text.concat_cons, String.append_assoc]

theorem Reachable.exists_failure (h : d.Reachable) {x : Diagnostic} (hMem : x ∈ d.compile.diagnostics)
    (hFailure : x.isFailure = true) : ∃ s f, x = StageFailure.diagnostic s f ∧ f.IsDiagnosed := by
  have hReported : x ∈ d.compile.diagnostics.filter Diagnostic.isFailure := List.mem_filter.mpr ⟨hMem, hFailure⟩
  rw [failures_compile, List.mem_flatMap] at hReported
  obtain ⟨s, -, hStage⟩ := hReported
  rcases h.emit_cases (h.contains_output s) false with ⟨⟨emissions, hEmit⟩, -⟩ | ⟨⟨f, hEmit, hDiagnosed⟩, -⟩
  · rw [hEmit] at hStage
    cases hStage
  · rw [hEmit] at hStage
    exact ⟨s, f, List.mem_singleton.mp hStage, hDiagnosed⟩

/-- A compile reports an error at a stage that is not a clash of names exactly if the stage is broken: a cycle runs
within the closure of its terminal, or a node of the closure is not permitted, is fed a type that it does not take,
or is a constant with a number that is not finite. Then it is one error, and nothing of the stage is in its function.
Edges without an end and nodes without a body are never reported. -/
theorem exactly_broken_stages_diagnosed (hReachable : d.Reachable) (stage : Stage) :
    let errors := d.compile.diagnostics.filter fun x =>
      x.isError && x.kind ≠ .duplicateUniform && x.stage = some stage
    let broken := (d.graph stage).Broken d.mode stage .output
    (errors ≠ [] ↔ broken) ∧
    (broken → errors.length = 1 ∧ ∃ before after, d.compile.source =
      before ++ ("\nvoid " ++ stage.name ++ "() \x7b\n" ++ Text.concat (d.assembly.prologues.get stage) ++ "\x7d\n") ++
        after) ∧
    ∀ x ∈ d.compile.diagnostics, x.kind ≠ .danglingEdge ∧ x.kind ≠ .node := by
  intro errors broken
  have hErrors : errors = reported stage (d.emit false stage .output) := d.errors_at_eq stage
  have hCases := hReachable.emit_cases (hReachable.contains_output stage) false
  refine ⟨?_, ?_, ?_⟩
  · rw [hErrors]
    rcases hCases with ⟨⟨emissions, hEmit⟩, hSound⟩ | ⟨⟨f, hEmit, -⟩, hBroken⟩
    · simpa [hEmit, reported] using hSound
    · simpa [hEmit, reported] using hBroken
  · intro hBroken
    obtain ⟨f, hEmit, -⟩ := (hCases.resolve_left fun hOk => hOk.2 hBroken).1
    obtain ⟨before, after, hSource⟩ := d.exists_function stage
    rw [function, hEmit, bodyText, functionText, String.append_empty] at hSource
    exact ⟨by rw [hErrors, hEmit]; rfl, before, after, hSource⟩
  · intro x hMem
    rw [← not_or]
    intro hKind
    obtain ⟨s, f, rfl, hDiagnosed⟩ := hReachable.exists_failure hMem (Diagnostic.isFailure_of_kind hKind)
    exact hKind.elim hDiagnosed.1 hDiagnosed.2

/-- The constant that feeds the terminal has no literal. -/
theorem exactly_broken_stages_diagnosed_overflowing :
    overflowing.Reachable ∧ (overflowing.graph .fragment).Broken .spatial .fragment .output ∧
      (overflowing.compile.diagnostics.filter fun x =>
        x.isError && x.kind ≠ .duplicateUniform && x.stage = some .fragment).length = 1 := by
  have hFaulty : (overflowing.graph .fragment).Faulty .spatial .fragment 3 :=
    .infinite (c := .scalar (.infinity false)) rfl List.mem_cons_self rfl
  have hFeeds : (overflowing.graph .fragment).Feeds .output 3 :=
    .single ⟨⟨3, 0, 0, 2⟩, by decide, rfl, rfl⟩
  have hBroken : (overflowing.graph .fragment).Broken .spatial .fragment .output := .inr ⟨3, hFeeds, hFaulty⟩
  obtain ⟨-, hOne, -⟩ := exactly_broken_stages_diagnosed reachable_overflowing .fragment
  exact ⟨reachable_overflowing, hBroken, (hOne hBroken).1⟩

end Design

end ShadeGraph
