import ShadeGraph.Editor
import ShadeGraph.Proofs.Closure
import ShadeGraph.Proofs.Regular
import ShadeGraph.Proofs.Reload

/-!
# Compiles do not depend on the past

Two designs have the same content if they have the same settings, the same edges, and under every number a node of
the same kind with the same parameters and overrides. The order in which all that came, positions and the last
number may differ. Reachable designs of the same content compile to the same shader.
-/

namespace ShadeGraph

/-! ## Nodes are determined by kind and parameters -/

theorem Choice.index_inj {ε : Type} [Choice ε] [DecidableEq ε] [LawfulChoice ε] {e e' : ε} :
    index e = index e' ↔ e = e' := by
  constructor
  · intro h
    have hGet := ofIndex?_index e
    rw [h, ofIndex?_index] at hGet
    exact (Option.some.inj hGet).symm
  · rintro rfl
    rfl

namespace ParamSlot

variable {ν μ : Type}

/-- The names and values of slots. -/
def held (slots : List (ParamSlot ν)) : List (String × ParamValue) :=
  slots.map fun slot => (slot.spec.name, slot.value)

theorem held_map (f : ν → μ) (slots : List (ParamSlot ν)) : held (slots.map (·.map f)) = held slots := by
  rw [held, List.map_map]
  rfl

end ParamSlot

open ParamSlot

theorem Constant.eq_of_held {c c' : Constant} (hFresh : c.fresh = c'.fresh) (h : held c.slots = held c'.slots) :
    c = c' := by
  cases c <;> cases c' <;> cases hFresh <;> cases h <;> rfl

theorem Operator.eq_of_held {n n' : Operator} (hFresh : n.fresh = n'.fresh) (h : held n.slots = held n'.slots) :
    n = n' := by
  cases n <;> cases n' <;> cases hFresh <;> simpa [held, slots, choice, Choice.index_inj] using h

theorem FunctionNode.eq_of_held {n n' : FunctionNode} (hFresh : n.fresh = n'.fresh)
    (h : held n.slots = held n'.slots) : n = n' := by
  cases n <;> cases n' <;> cases hFresh <;> simpa [held, slots, choice, Choice.index_inj] using h

theorem LogicNode.eq_of_held {n n' : LogicNode} (hFresh : n.fresh = n'.fresh) (h : held n.slots = held n'.slots) :
    n = n' := by
  cases n <;> cases n' <;> cases hFresh
  case floatTest.floatTest tested tested' => simpa [held, slots, choice, Choice.index_inj] using h
  case compare.compare c c' =>
    obtain ⟨type, relation, quantifier⟩ := c
    obtain ⟨type', relation', quantifier'⟩ := c'
    rw [slots, slots, held_map, held_map] at h
    simpa [held, Comparison.slots, choice, Choice.index_inj] using h
  all_goals rfl

theorem UniformNode.eq_of_held {n n' : UniformNode} (hFresh : n.fresh = n'.fresh) (h : held n.slots = held n'.slots) :
    n = n' := by
  cases n <;> cases n' <;> simp only [fresh, value.injEq, texture.injEq, reduceCtorEq] at hFresh
  case value.value u u' =>
    obtain ⟨type, name⟩ := u
    obtain ⟨type', name'⟩ := u'
    cases hFresh
    rw [slots, slots, held_map, held_map] at h
    simpa [held, ValueUniform.slots, UniformName.slot, text, checkedText] using h
  case texture.texture u u' =>
    obtain ⟨triplanar, name, texture, unbound, resource⟩ := u
    obtain ⟨triplanar', name', texture', unbound', resource'⟩ := u'
    cases hFresh
    rw [slots, slots, held_map, held_map] at h
    simpa [held, TextureUniform.slots, UniformName.slot, text, checkedText, choice, ParamSlot.resource,
      Choice.index_inj] using h
  case cubeMap.cubeMap u u' =>
    obtain ⟨name, texture, unbound, resource⟩ := u
    obtain ⟨name', texture', unbound', resource'⟩ := u'
    rw [slots, slots, held_map, held_map] at h
    simpa [held, CubeMapUniform.slots, UniformName.slot, text, checkedText, choice, ParamSlot.resource,
      Choice.index_inj] using h

theorem TextureNode.eq_of_held {n n' : TextureNode} (h : held n.slots = held n'.slots) : n = n' := by
  obtain ⟨source, texture, resource⟩ := n
  obtain ⟨source', texture', resource'⟩ := n'
  simp [held, slots, choice, ParamSlot.resource, Choice.index_inj] at h
  simp [h]

theorem CubeMapNode.eq_of_held {n n' : CubeMapNode} (h : held n.slots = held n'.slots) : n = n' := by
  obtain ⟨source, texture, resource⟩ := n
  obtain ⟨source', texture', resource'⟩ := n'
  simp [held, slots, choice, ParamSlot.resource, Choice.index_inj] at h
  simp [h]

/-- Ports that can be local variables are read back from their text. -/
theorem ExpressionNode.eq_of_held {n n' : ExpressionNode} (hPorts : LocalPort.check [] (n.inputs ++ n.outputs) = .ok ())
    (hPorts' : LocalPort.check [] (n'.inputs ++ n'.outputs) = .ok ()) (h : held n.slots = held n'.slots) : n = n' := by
  obtain ⟨inputs, outputs, code⟩ := n
  obtain ⟨inputs', outputs', code'⟩ := n'
  simp only [held, slots, text, checkedText, List.map_cons, List.map_nil, List.cons.injEq, Prod.mk.injEq, true_and,
    and_true, ParamValue.text.injEq] at h
  have hUsable := LocalPort.isUsable_of_check hPorts
  have hUsable' := LocalPort.isUsable_of_check hPorts'
  have hInputs := LocalPort.readAll_writeAll fun p hMem => hUsable p (List.mem_append_left _ hMem)
  have hOutputs := LocalPort.readAll_writeAll fun p hMem => hUsable p (List.mem_append_right _ hMem)
  rw [h.1, LocalPort.readAll_writeAll fun p hMem => hUsable' p (List.mem_append_left _ hMem)] at hInputs
  rw [h.2.1, LocalPort.readAll_writeAll fun p hMem => hUsable' p (List.mem_append_right _ hMem)] at hOutputs
  cases hInputs
  cases hOutputs
  rw [h.2.2]

namespace StandardNode

/-- Nodes of one kind are all terminals, or they are made from the same prototype. -/
theorem fresh_eq_of_kind {n n' : StandardNode} (h : n.kind = n'.kind) :
    (n.isTerminal = true ∧ n'.isTerminal = true) ∨ n.fresh = n'.fresh := by
  have hFind : Command.registry.find? n.kind = Command.registry.find? n'.kind := congrArg _ h
  cases hTerminal : n.isTerminal <;> cases hTerminal' : n'.isTerminal
  · rw [registry_find?_kind hTerminal, registry_find?_kind hTerminal'] at hFind
    exact .inr (Option.some.inj hFind)
  · rw [registry_find?_kind hTerminal, registry_find?_eq_none hTerminal'] at hFind
    cases hFind
  · rw [registry_find?_eq_none hTerminal, registry_find?_kind hTerminal'] at hFind
    cases hFind
  · exact .inl ⟨rfl, rfl⟩

/-- A node that is bound to its place is determined by its kind and its parameters. -/
theorem eq_of_params {n n' : StandardNode} (hUsable : n.IsUsable) (hUsable' : n'.IsUsable) {mode : Mode} {stage : Stage}
    (hBound : NodeModel.bind mode stage n = n) (hBound' : NodeModel.bind mode stage n' = n')
    (hKind : NodeModel.kind n = NodeModel.kind n') (hParams : NodeModel.params n = NodeModel.params n') : n = n' := by
  rcases fresh_eq_of_kind hKind with ⟨hTerminal, hTerminal'⟩ | hFresh
  · rw [← hBound, ← hBound', bind_of_isTerminal hTerminal, bind_of_isTerminal hTerminal']
  have hHeld : held n.slots = held n'.slots := hParams
  cases n <;> cases n' <;>
    simp only [fresh, constant.injEq, operator.injEq, function.injEq, formula.injEq, logic.injEq, uniform.injEq,
      reduceCtorEq] at hFresh <;>
    simp only [slots, held_map] at hHeld
  case output.output => exact hFresh
  case input.input n n' =>
    obtain ⟨name, mode', stage'⟩ := n
    obtain ⟨name', mode'', stage''⟩ := n'
    cases hBound
    cases hBound'
    cases hHeld
    rfl
  case constant.constant => rw [Constant.eq_of_held hFresh hHeld]
  case operator.operator => rw [Operator.eq_of_held hFresh hHeld]
  case function.function => rw [FunctionNode.eq_of_held hFresh hHeld]
  case formula.formula => rw [hFresh]
  case logic.logic => rw [LogicNode.eq_of_held hFresh hHeld]
  case uniform.uniform => rw [UniformNode.eq_of_held hFresh hHeld]
  case texture.texture => rw [TextureNode.eq_of_held hHeld]
  case cubeMap.cubeMap => rw [CubeMapNode.eq_of_held hHeld]
  case expression.expression => rw [ExpressionNode.eq_of_held hUsable hUsable' hHeld]
  case globalExpression.globalExpression n n' =>
    obtain ⟨code⟩ := n
    obtain ⟨code'⟩ := n'
    cases hHeld
    rfl

end StandardNode

/-! ## Graphs of the same nodes and edges -/

namespace StageGraph

variable {ν : Type} [NodeModel ν]

/-- Graphs of the same nodes, overrides and edges, in whatever order. -/
structure Same (g h : StageGraph ν) : Prop where
  wired : g.Wired
  wired' : h.Wired
  placed : ∀ id, (h.placed? id).map (fun n => (n.node, n.overrides.get?)) =
    (g.placed? id).map fun n => (n.node, n.overrides.get?)
  edges : ∀ e, e ∈ h.edges ↔ e ∈ g.edges

namespace Same

variable {g h : StageGraph ν}

theorem sameClosure (hSame : g.Same h) (root : NodeId) : g.SameClosure h root :=
  ⟨hSame.wired, hSame.wired', fun id _ => hSame.placed id, fun e _ => hSame.edges e⟩

theorem node?_eq (hSame : g.Same h) : h.node? = g.node? := by
  funext id
  exact (hSame.sameClosure id).node?_eq .refl

theorem outputType?_eq (hSame : g.Same h) (id : NodeId) (port : Nat) :
    h.outputType? id port = g.outputType? id port := by
  rw [outputType?, outputType?, hSame.node?_eq]

end Same

end StageGraph

namespace Design

variable {ν : Type} [NodeModel ν]

structure Same (d e : Design ν) : Prop where
  mode : e.mode = d.mode
  header : e.settings.header e.mode = d.settings.header d.mode
  graph : ∀ stage, (d.graph stage).Same (e.graph stage)

namespace Same

variable {d e : Design ν}

theorem global_iff (hSame : d.Same e) (stage : Stage) (id : NodeId) (n : ν) (_ : NodeModel.isGlobal n = true) :
    (e.graph stage).node? id = some n ↔ (d.graph stage).node? id = some n := by
  rw [(hSame.graph stage).node?_eq]

theorem compile_eq (hSame : d.Same e) : e.compile = d.compile :=
  compile_congr hSame.mode hSame.header (fun stage => (hSame.graph stage).sameClosure .output) hSame.global_iff

theorem preview?_eq (hSame : d.Same e) (stage : Stage) (id : NodeId) (port : Nat) :
    e.preview? stage id port = d.preview? stage id port := by
  simp only [preview?, (hSame.graph stage).outputType?_eq, emit_congr hSame.mode ((hSame.graph stage).sameClosure id),
    fileScope_congr hSame.mode hSame.global_iff]

end Same

end Design

/-! ## Designs of the same content -/

/-- What of a node bears on a compile: its kind, its parameters, and the defaults that were changed. -/
def PlacedNode.content (n : PlacedNode StandardNode) :
    String × List (String × ParamValue) × (Nat → Option PortValue) :=
  (NodeModel.kind n.node, NodeModel.params n.node, n.overrides.get?)

namespace Design

/-- The same mode, options, flags, nodes and edges, whenever they came and wherever they stand. -/
structure SameContent (d e : Design StandardNode) : Prop where
  mode : e.mode = d.mode
  options : ∀ group, e.settings.options.get? group = d.settings.options.get? group
  flags : ∀ flag, flag ∈ e.settings.flags ↔ flag ∈ d.settings.flags
  nodes : ∀ stage id, (e.placed? stage id).map PlacedNode.content = (d.placed? stage id).map PlacedNode.content
  edges : ∀ stage edge, edge ∈ (e.graph stage).edges ↔ edge ∈ (d.graph stage).edges

namespace SameContent

variable {d e : Design StandardNode}

theorem header_eq (h : d.SameContent e) : e.settings.header e.mode = d.settings.header d.mode := by
  have hFlags (flag : String) : e.settings.flags.contains flag = d.settings.flags.contains flag := by
    rw [Bool.eq_iff_iff, List.contains_iff_mem, List.contains_iff_mem, h.flags]
  have hKeywords : e.settings.keywords d.mode = d.settings.keywords d.mode := by
    simp only [RenderSettings.keywords, h.options, hFlags]
  rw [h.mode]
  unfold RenderSettings.header
  rw [hKeywords]

theorem node_eq (h : d.SameContent e) (hRegular : d.NodesRegular) (hRegular' : e.NodesRegular) {stage : Stage}
    {id : NodeId} {n m : PlacedNode StandardNode} (hPlaced : d.placed? stage id = some n)
    (hPlaced' : e.placed? stage id = some m) (hContent : m.content = n.content) : m.node = n.node := by
  by_cases hId : id = .output
  · subst hId
    rw [hRegular.terminal stage n hPlaced, hRegular'.terminal stage m hPlaced', h.mode]
  · have hUser := (hRegular.user stage id n hPlaced hId).2
    have hUser' := (hRegular'.user stage id m hPlaced' hId).2
    rw [h.mode] at hUser'
    obtain ⟨hKind, hRest⟩ := Prod.mk.inj hContent
    obtain ⟨hParams, -⟩ := Prod.mk.inj hRest
    exact StandardNode.eq_of_params hUser'.isUsable hUser.isUsable hUser'.bind_eq hUser.bind_eq hKind hParams

theorem same (h : d.SameContent e) (hReachable : d.Reachable) (hReachable' : e.Reachable) : d.Same e := by
  refine ⟨h.mode, h.header_eq, fun stage => ⟨hReachable.wired stage, hReachable'.wired stage, ?_, h.edges stage⟩⟩
  intro id
  have hNodes := h.nodes stage id
  change (e.placed? stage id).map _ = (d.placed? stage id).map _
  cases hPlaced : d.placed? stage id with
  | none =>
    rw [hPlaced, Option.map_none, Option.map_eq_none_iff] at hNodes
    rw [hNodes]
  | some n =>
    rw [hPlaced, Option.map_some, Option.map_eq_some_iff] at hNodes
    obtain ⟨m, hPlaced', hContent⟩ := hNodes
    have hNode := h.node_eq hReachable.nodesRegular hReachable'.nodesRegular hPlaced hPlaced' hContent
    have hOverrides : m.overrides.get? = n.overrides.get? := congrArg (fun content => content.2.2) hContent
    rw [hPlaced', Option.map_some, Option.map_some, hNode, hOverrides]

end SameContent

end Design

namespace Editor

/-- Compiles and previews depend on the content of a design alone: not on the order in which nodes, edges, overrides
and settings came, nor on positions, the offset, the last numbers or earlier compiles. -/
theorem compile_independent_of_history {x y : Editor StandardNode} (hReachable : x.design.Reachable)
    (hReachable' : y.design.Reachable) (hContent : x.design.SameContent y.design) :
    y.compile.1 = x.compile.1 ∧
      ∀ stage id port, y.design.preview? stage id port = x.design.preview? stage id port := by
  have hSame := hContent.same hReachable hReachable'
  exact ⟨hSame.compile_eq, hSame.preview?_eq⟩

/-- A colour and an alpha for the terminal, and two flags. -/
def painted : Editor StandardNode where
  design := (Design.empty .spatial).edited
    [.add .fragment 2 .origin (.constant (.scalar .one)), .add .fragment 3 .origin (.constant (.vector .zero)),
     .connect .fragment ⟨2, 0, 0, 1⟩, .connect .fragment ⟨3, 0, 0, 0⟩, .setFlag "unshaded" true,
     .setFlag "vertex_lighting" true]

/-- The same in another order and at another place. -/
def repainted : Editor StandardNode where
  design := (Design.empty .spatial).edited
    [.setFlag "vertex_lighting" true, .setFlag "unshaded" true, .add .fragment 3 .origin (.constant (.vector .zero)),
     .connect .fragment ⟨3, 0, 0, 0⟩, .add .fragment 2 .origin (.constant (.scalar .one)),
     .connect .fragment ⟨2, 0, 0, 1⟩, .move .fragment 3 ⟨.one, .one⟩]

theorem sameContent_painted : painted.design.SameContent repainted.design := by
  refine ⟨rfl, fun _ => rfl, ?_, ?_, ?_⟩
  · intro flag
    change flag ∈ ["vertex_lighting", "unshaded"] ↔ flag ∈ ["unshaded", "vertex_lighting"]
    simp [or_comm]
  · intro stage id
    cases stage with
    | vertex => rfl
    | light => rfl
    | fragment =>
      by_cases hMem : id ∈ [NodeId.output, 2, 3]
      · simp only [List.mem_cons, List.not_mem_nil, or_false] at hMem
        rcases hMem with rfl | rfl | rfl <;> rfl
      · have hNone : painted.design.placed? .fragment id = none := Table.get?_eq_none_iff.mpr hMem
        have hNone' : repainted.design.placed? .fragment id = none := by
          refine Table.get?_eq_none_iff.mpr (show id ∉ [NodeId.output, 3, 2] from ?_)
          simpa [and_comm] using hMem
        rw [hNone, hNone']
  · intro stage edge
    cases stage with
    | vertex => exact Iff.rfl
    | light => exact Iff.rfl
    | fragment =>
      change edge ∈ [⟨3, 0, 0, 0⟩, ⟨2, 0, 0, 1⟩] ↔ edge ∈ [⟨2, 0, 0, 1⟩, ⟨3, 0, 0, 0⟩]
      simp [or_comm]

theorem compile_independent_of_history_painted :
    (painted.design.settings.flags ≠ repainted.design.settings.flags ∧
      (painted.design.graph .fragment).ids ≠ (repainted.design.graph .fragment).ids) ∧
    repainted.compile.1 = painted.compile.1 := by
  have hReachable : painted.design.Reachable := .edited (.new .spatial) (by decide)
  have hReachable' : repainted.design.Reachable := .edited (.new .spatial) (by decide)
  refine ⟨⟨by decide, by decide⟩, ?_⟩
  exact (compile_independent_of_history hReachable hReachable' sameContent_painted).1

end Editor

end ShadeGraph
