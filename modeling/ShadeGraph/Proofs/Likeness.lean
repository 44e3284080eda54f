import ShadeGraph.Compile.Preview
import ShadeGraph.Proofs.Edits

/-!
# What a compile cannot tell apart

A compile reads neither positions nor the last number of a stage, and of a node that has no body it reads only
what is told about the cause. Designs that differ in nothing else compile to the same shader.
-/

namespace ShadeGraph

/-- What is told of the cause when a node has no body. -/
def BodyError.report : BodyError → DiagnosticKind × String
  | .literal cause => (.literal, cause.message)
  | .refused reason => (.node, reason)
  | .arity => (.node, BodyError.arity.message)

namespace StageFailure

theorem diagnostic_body_congr {cause cause' : BodyError} (h : cause.report = cause'.report) (stage : Stage)
    (id : NodeId) (caption : String) :
    (body id caption cause).diagnostic stage = (body id caption cause').diagnostic stage := by
  have hKind : (body id caption cause).kind = cause.report.1 := by cases cause <;> rfl
  have hKind' : (body id caption cause').kind = cause'.report.1 := by cases cause' <;> rfl
  have hMessage : cause.message = cause.report.2 := by cases cause <;> rfl
  have hMessage' : cause'.message = cause'.report.2 := by cases cause' <;> rfl
  simp only [diagnostic, hKind, hKind', message, hMessage, hMessage', h, node]

end StageFailure

variable {ν : Type} [NodeModel ν]

/-- Nodes that a compile cannot tell apart. -/
structure NodeModel.Alike (n m : ν) : Prop where
  kind : kind m = kind n
  caption : caption m = caption n
  inputs : inputs m = inputs n
  outputs : outputs m = outputs n
  isPermitted : isPermitted m = isPermitted n
  isGlobal : isGlobal m = isGlobal n
  uniformName? : uniformName? m = uniformName? n
  declarations : declarations m = declarations n
  helpers : helpers m = helpers n
  prologue : prologue m = prologue n
  samplerName? : samplerName? m = samplerName? n
  bindings : bindings m = bindings n
  warning? : warning? m = warning? n
  restriction? : restriction? m = restriction? n
  body : ∀ ctx operands results, (body m ctx operands results).mapError BodyError.report =
    (body n ctx operands results).mapError BodyError.report

theorem NodeModel.Alike.refl (n : ν) : Alike n n := by
  constructor <;> intros <;> rfl

structure PlacedNode.Alike (n m : PlacedNode ν) : Prop where
  node : NodeModel.Alike n.node m.node
  overrides : m.overrides = n.overrides

/-- The second graph has the edges of the first and, in the order of the first, nodes alike. -/
structure StageGraph.Alike (g h : StageGraph ν) : Prop where
  edges : h.edges = g.edges
  nodes : ∃ f, h.nodes = g.nodes.mapValues f ∧ ∀ id n, g.placed? id = some n → n.Alike (f id n)

structure Design.Alike (d e : Design ν) : Prop where
  mode : e.mode = d.mode
  settings : e.settings = d.settings
  graph : ∀ stage, (d.graph stage).Alike (e.graph stage)

namespace StageGraph.Alike

variable {g h : StageGraph ν}

theorem placed?_cases (hAlike : g.Alike h) (id : NodeId) :
    (g.placed? id = none ∧ h.placed? id = none) ∨
      ∃ n m, g.placed? id = some n ∧ h.placed? id = some m ∧ n.Alike m := by
  obtain ⟨f, hNodes, hNode⟩ := hAlike.nodes
  have hGet : h.placed? id = (g.placed? id).map (f id) := by
    rw [placed?, hNodes, Table.get?_mapValues]
    rfl
  cases hPlaced : g.placed? id with
  | none => exact .inl ⟨rfl, by rw [hGet, hPlaced]; rfl⟩
  | some n => exact .inr ⟨n, f id n, rfl, by rw [hGet, hPlaced]; rfl, hNode id n hPlaced⟩

theorem contains_eq (hAlike : g.Alike h) (id : NodeId) : h.contains id = g.contains id := by
  obtain ⟨f, hNodes, -⟩ := hAlike.nodes
  simp only [contains, Table.contains, hNodes, Table.keys_mapValues]

theorem node?_cases (hAlike : g.Alike h) (id : NodeId) :
    (g.node? id = none ∧ h.node? id = none) ∨
      ∃ n m, g.node? id = some n ∧ h.node? id = some m ∧ NodeModel.Alike n m := by
  rcases hAlike.placed?_cases id with ⟨hG, hH⟩ | ⟨n, m, hG, hH, hNode⟩
  · exact .inl ⟨by rw [node?, hG]; rfl, by rw [node?, hH]; rfl⟩
  · exact .inr ⟨n.node, m.node, by rw [node?, hG]; rfl, by rw [node?, hH]; rfl, hNode.node⟩

theorem outputType?_eq (hAlike : g.Alike h) (id : NodeId) (port : Nat) :
    h.outputType? id port = g.outputType? id port := by
  rcases hAlike.node?_cases id with ⟨hG, hH⟩ | ⟨n, m, hG, hH, hNode⟩
  · rw [outputType?, outputType?, hG, hH]
  · simp only [outputType?, hG, hH, Option.bind_some, NodeModel.portType?, NodeModel.port?, NodeModel.ports,
      hNode.outputs]

theorem inputPort?_eq (hAlike : g.Alike h) (id : NodeId) (port : Nat) :
    h.inputPort? id port = g.inputPort? id port := by
  rcases hAlike.node?_cases id with ⟨hG, hH⟩ | ⟨n, m, hG, hH, hNode⟩
  · rw [inputPort?, inputPort?, hG, hH]
  · simp only [inputPort?, hG, hH, Option.bind_some, NodeModel.port?, NodeModel.ports, hNode.inputs]

theorem inRange_eq (hAlike : g.Alike h) : h.inRange = g.inRange := by
  funext e
  rw [inRange, inRange, hAlike.outputType?_eq, hAlike.inputPort?_eq]

theorem order_eq (hAlike : g.Alike h) (root : NodeId) : h.order root = g.order root := by
  simp only [order, closure, ancestry, hAlike.edges, hAlike.inRange_eq, hAlike.contains_eq]

theorem wired_eq (hAlike : g.Alike h) (ctx : EmitContext) (port : Port) (e : Edge) :
    h.wired ctx port e = g.wired ctx port e := by
  rw [wired, wired, hAlike.outputType?_eq]
  rcases hAlike.node?_cases e.source with ⟨hG, hH⟩ | ⟨n, m, hG, hH, hNode⟩
  · rw [hG, hH]
  · rw [hG, hH]
    cases g.outputType? e.source e.output <;> simp only [hNode.samplerName?]

theorem operands_eq (hAlike : g.Alike h) {n m : PlacedNode ν} (hNode : n.Alike m) (ctx : EmitContext) :
    h.operands m ctx = g.operands n ctx := by
  have hUnwired : ∀ index port, unwired m ctx index port = unwired n ctx index port := by
    intro index port
    simp only [unwired, PlacedNode.default?, hNode.overrides, NodeModel.inputDefault?, NodeModel.port?,
      NodeModel.ports, hNode.node.inputs]
  simp only [operands, operandAt, reading?, hAlike.edges, hAlike.wired_eq, hUnwired, hNode.node.inputs]

/-- Alike graphs emit the same for a node, or fail with the same diagnostic. -/
theorem emitNode_eq (hAlike : g.Alike h) (ctx : EmitContext) :
    (h.emitNode ctx).mapError (fun f stage => f.diagnostic stage) =
      (g.emitNode ctx).mapError fun f stage => f.diagnostic stage := by
  rcases hAlike.placed?_cases ctx.id with ⟨hG, hH⟩ | ⟨n, m, hG, hH, hNode⟩
  · rw [emitNode, emitNode, hG, hH]
  · simp only [emitNode, hG, hH, hAlike.operands_eq hNode, resultVariables, nodeWarnings, hNode.node.kind,
      hNode.node.caption, hNode.node.outputs, hNode.node.isPermitted, hNode.node.isGlobal,
      hNode.node.uniformName?, hNode.node.declarations, hNode.node.helpers, hNode.node.prologue,
      hNode.node.bindings, hNode.node.warning?, hNode.node.restriction?, Except.throw_bind]
    -- what is refused before the body is refused alike; bodies may fail for causes that are told alike
    split
    · rfl
    · split
      · rfl
      · rw [Except.mapError_bind, Except.mapError_bind]
        congr 1
        funext operands
        rw [Except.mapError_bind, Except.mapError_bind, Except.mapError_mapError, Except.mapError_mapError]
        congr 1
        apply Except.mapError_congr (hNode.node.body ctx _ _)
        intro cause cause' hReport
        funext stage
        exact StageFailure.diagnostic_body_congr hReport stage ctx.id _

end StageGraph.Alike

/-- Two outcomes of a stage that tell users the same. -/
def SameReport (r s : Except StageFailure (List Emission)) : Prop :=
  r.mapError (fun f stage => f.diagnostic stage) = s.mapError fun f stage => f.diagnostic stage

theorem SameReport.cases {r s : Except StageFailure (List Emission)} (h : SameReport r s) :
    (∃ emissions, r = .ok emissions ∧ s = .ok emissions) ∨
      ∃ f f', r = .error f ∧ s = .error f' ∧ ∀ stage, f.diagnostic stage = f'.diagnostic stage := by
  cases r with
  | ok emissions =>
    cases s with
    | ok emissions' =>
      have hSame : emissions = emissions' := by simpa [SameReport, Except.mapError] using h
      exact .inl ⟨emissions, rfl, by rw [hSame]⟩
    | error f' => simp [SameReport, Except.mapError] at h
  | error f =>
    cases s with
    | ok emissions => simp [SameReport, Except.mapError] at h
    | error f' =>
      have hSame : (fun stage => f.diagnostic stage) = fun stage => f'.diagnostic stage := by
        simpa [SameReport, Except.mapError] using h
      exact .inr ⟨f, f', rfl, rfl, fun stage => congrFun hSame stage⟩

theorem SameReport.add_eq {r s : Except StageFailure (List Emission)} (h : SameReport r s) (a : Assembly)
    (stage : Stage) : a.add stage r = a.add stage s := by
  rcases h.cases with ⟨emissions, rfl, rfl⟩ | ⟨f, f', rfl, rfl, hDiagnostic⟩
  · rfl
  · simp only [Assembly.add, Assembly.fail, hDiagnostic]

theorem SameReport.bodyText_eq {r s : Except StageFailure (List Emission)} (h : SameReport r s) :
    bodyText r = bodyText s := by
  rcases h.cases with ⟨emissions, rfl, rfl⟩ | ⟨f, f', rfl, rfl, -⟩
  · rfl
  · rfl

theorem Design.globalNodes_eq (d : Design ν) (stage : Stage) :
    d.globalNodes stage = (((d.graph stage).nodes.entries.filter fun x => NodeModel.isGlobal x.2.node).mergeSort
      fun a b => a.1 ≤ b.1).map fun x => (x.1, x.2.node) := by
  rw [globalNodes, List.filter_map, List.map_mergeSort]
  · rfl
  · intros
    rfl

namespace Design.Alike

variable {d e : Design ν}

theorem emit_sameReport (hAlike : d.Alike e) (preview : Bool) (stage : Stage) (root : NodeId) :
    SameReport (e.emit preview stage root) (d.emit preview stage root) := by
  simp only [SameReport, emit, (hAlike.graph stage).order_eq, hAlike.mode]
  rw [Except.mapError_bind, Except.mapError_bind]
  congr 1
  funext order
  rw [Except.mapError_bind, Except.mapError_bind]
  congr 1
  exact Except.mapError_mapM_congr fun id _ => (hAlike.graph stage).emitNode_eq _

theorem globalTexts_eq (hAlike : d.Alike e) (preview : Bool) (stage : Stage) :
    (e.globalNodes stage).map (e.globalText preview stage) =
      (d.globalNodes stage).map (d.globalText preview stage) := by
  obtain ⟨f, hNodes, hNode⟩ := (hAlike.graph stage).nodes
  have hMember : ∀ x ∈ (d.graph stage).nodes.entries, x.2.Alike (f x.1 x.2) := fun x hMem =>
    hNode x.1 x.2 (Table.get?_eq_some_iff.mpr hMem)
  have hSelected : (d.graph stage).nodes.entries.filter (fun x => NodeModel.isGlobal (f x.1 x.2).node) =
      (d.graph stage).nodes.entries.filter fun x => NodeModel.isGlobal x.2.node :=
    List.filter_congr fun x hMem => (hMember x hMem).node.isGlobal
  -- nodes are sorted by number, so they may be exchanged before or after
  have hSorted : (e.globalNodes stage) =
      (((d.graph stage).nodes.entries.filter fun x => NodeModel.isGlobal x.2.node).mergeSort
        fun a b => a.1 ≤ b.1).map fun x => (x.1, (f x.1 x.2).node) := by
    have hKeys : ∀ a ∈ (d.graph stage).nodes.entries.filter (fun x => NodeModel.isGlobal (f x.1 x.2).node),
        ∀ b ∈ (d.graph stage).nodes.entries.filter (fun x => NodeModel.isGlobal (f x.1 x.2).node),
        decide (a.1 ≤ b.1) = decide ((a.1, f a.1 a.2).1 ≤ (b.1, f b.1 b.2).1) := fun _ _ _ _ => rfl
    rw [globalNodes_eq, hNodes, ← hSelected, Table.mapValues, List.filter_map]
    exact (congrArg _ (List.map_mergeSort hKeys).symm).trans List.map_map
  rw [hSorted, globalNodes_eq, List.map_map, List.map_map]
  apply List.map_congr_left
  intro x hMem
  have hEntry := (List.mem_filter.mp ((List.mergeSort_perm _ _).mem_iff.mp hMem)).1
  have hLike := (hMember x hEntry).node
  simp only [Function.comp_apply, globalText, hLike.caption, hLike.declarations, hAlike.mode]

theorem fileScope_eq (hAlike : d.Alike e) (preview : Bool) (a : Assembly) :
    e.fileScope preview a = d.fileScope preview a := by
  simp only [fileScope, hAlike.globalTexts_eq]

theorem compile_eq (hAlike : d.Alike e) : e.compile = d.compile := by
  have hEmit := fun stage => hAlike.emit_sameReport false stage .output
  have hAdd : (fun (a : Assembly) stage => a.add stage (e.emit false stage .output)) =
      fun a stage => a.add stage (d.emit false stage .output) := by
    funext a stage
    exact (hEmit stage).add_eq a stage
  simp only [compile, hAlike.settings, hAlike.mode, hAlike.fileScope_eq, PerStage.get_ofFn,
    fun stage => (hEmit stage).bodyText_eq, hAdd]

end Design.Alike

end ShadeGraph
