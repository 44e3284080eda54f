import ShadeGraph.Proofs.Fields
import ShadeGraph.Proofs.Wiring

/-!
# What setting a parameter changes

A parameter can give a node other ports. Then the edges at the node that fit no longer are dropped, and the overrides
whose input is gone or has another type. Nothing else changes, in the node or around it.
-/

namespace ShadeGraph

namespace StageGraph

variable {ν : Type} [NodeModel ν]

/-- Both ends of an edge exist, and its input accepts what it brings. -/
def Fits (g : StageGraph ν) (e : Edge) : Prop :=
  ∃ type, g.outputType? e.source e.output = some type ∧
    ∃ p, g.inputPort? e.target e.input = some p ∧ p.accepts type = true

instance (g : StageGraph ν) (e : Edge) : Decidable (g.Fits e) := decidable_of_iff _ isSound_iff

theorem edges_pruneEdges (g : StageGraph ν) (id : NodeId) :
    (g.pruneEdges id).edges =
      g.edges.filter fun e => ¬(e.source = id ∨ e.target = id) ∨ (g.pruneEdges id).Fits e := by
  refine List.filter_congr fun e _ => Bool.eq_iff_iff.mpr ?_
  have hFits : (g.pruneEdges id).Fits e ↔ g.isSound e = true := isSound_iff.symm
  simp only [Edge.touches, Bool.or_eq_true, Bool.not_eq_true', Bool.or_eq_false_iff, decide_eq_false_iff_not,
    decide_eq_true_eq, not_or, hFits]

end StageGraph

namespace StandardNode

/-- The input is there before and after, with one type. -/
def KeepsInput (n m : StandardNode) (port : Nat) : Prop :=
  ∃ type, NodeModel.portType? n .input port = some type ∧ NodeModel.portType? m .input port = some type

theorem keepsInput_iff {n m : StandardNode} {port : Nat} {type : PortType}
    (h : NodeModel.portType? n .input port = some type) :
    n.KeepsInput m port ↔ NodeModel.portType? m .input port = some type := by
  constructor
  · rintro ⟨type', hOld, hNew⟩
    rw [h] at hOld
    cases hOld
    exact hNew
  · intro hNew
    exact ⟨type, h, hNew⟩

instance (n m : StandardNode) (port : Nat) : Decidable (n.KeepsInput m port) :=
  decidable_of_iff
    ((NodeModel.portType? n .input port).any fun type => NodeModel.portType? m .input port = some type)
    (by simp [KeepsInput, Option.any_eq_true])

theorem param?_bind (mode : Mode) (stage : Stage) (n : StandardNode) (name : String) :
    NodeModel.param? (NodeModel.bind mode stage n) name = NodeModel.param? n name := by
  have hFields : (NodeModel.bind mode stage n).slots.map ParamSlot.field = n.slots.map ParamSlot.field := by
    cases n <;> rfl
  exact ParamSlot.find?_map_value_congr hFields name

theorem kind_bind (mode : Mode) (stage : Stage) (n : StandardNode) :
    NodeModel.kind (NodeModel.bind mode stage n) = NodeModel.kind n := by
  cases n <;> rfl

end StandardNode

/-! ## The node -/

namespace PlacedNode

/-- The parameter has the value, and the overrides that the node's ports still fit are kept. All else is as it was. -/
structure SetsParam (n : PlacedNode StandardNode) (name : String) (value : ParamValue) (n' : PlacedNode StandardNode) :
    Prop where
  param : NodeModel.param? n'.node name = some value
  params : ∀ other, other ≠ name → NodeModel.param? n'.node other = NodeModel.param? n.node other
  kind : NodeModel.kind n'.node = NodeModel.kind n.node
  position : n'.position = n.position
  overrides : n'.overrides.entries = n.overrides.entries.filter fun x => n.node.KeepsInput n'.node x.1

theorem setsParam_of_applyParam {n : PlacedNode StandardNode} {m : StandardNode} {name : String} {value : ParamValue}
    (hOverrides : ∀ port override, n.overrides.get? port = some override →
      NodeModel.portType? n.node .input port = some override.type)
    (hApply : NodeModel.applyParam n.node name value = .ok m) (mode : Mode) (stage : Stage) :
    n.SetsParam name (n.node.kept name value) { n with node := NodeModel.bind mode stage m }.prune := by
  obtain ⟨hParam, hOthers⟩ := StandardNode.param?_of_applyParam hApply
  constructor
  · exact (StandardNode.param?_bind mode stage m name).trans hParam
  · intro other hOther
    exact (StandardNode.param?_bind mode stage m other).trans (hOthers other hOther)
  · exact (StandardNode.kind_bind mode stage m).trans (StandardNode.kind_applyParam hApply)
  · rfl
  -- The check is made against the type of the value, which is the type that the input had.
  · refine List.filter_congr fun x hMem => ?_
    have hType := hOverrides x.1 x.2 (Table.get?_eq_some_iff.mpr hMem)
    exact decide_eq_decide.mpr (StandardNode.keepsInput_iff hType).symm

end PlacedNode

/-! ## The design -/

namespace Design

variable {d d' : Design StandardNode} {stage : Stage} {id : NodeId} {name : String} {value : ParamValue}

/-- A node has a parameter set, and its stage loses the edges at the node that fit no longer. All else is as it was. -/
structure SetsParam (d : Design StandardNode) (stage : Stage) (id : NodeId) (name : String) (value : ParamValue)
    (d' : Design StandardNode) : Prop where
  mode : d'.mode = d.mode
  settings : d'.settings = d.settings
  offset : d'.offset = d.offset
  stages : ∀ other, other ≠ stage → d'.graph other = d.graph other
  ids : (d'.graph stage).ids = (d.graph stage).ids
  lastId : (d'.graph stage).lastId = (d.graph stage).lastId
  nodes : ∀ other, other ≠ id → d'.placed? stage other = d.placed? stage other
  node : ∃ n n', d.placed? stage id = some n ∧ d'.placed? stage id = some n' ∧
    n.SetsParam name (n.node.kept name (d.resolve stage id name value)) n'
  edges : (d'.graph stage).edges =
    (d.graph stage).edges.filter fun e => ¬(e.source = id ∨ e.target = id) ∨ (d'.graph stage).Fits e

theorem NodesRegular.setsParam (h : d.NodesRegular) (hSet : d.setParam stage id name value = .ok d') :
    d.SetsParam stage id name value d' := by
  obtain ⟨n, hNode, m, hApply, rfl⟩ := setParam_eq_ok_iff.mp hSet
  obtain ⟨placed, hPlaced, rfl⟩ := exists_placed_of_node? hNode
  have hPlaced? (other : NodeId) {f : PlacedNode StandardNode → PlacedNode StandardNode} :
      (d.withGraph stage (((d.graph stage).modify id f).pruneEdges id)).placed? stage other =
        if other = id then (d.placed? stage other).map f else d.placed? stage other := by
    rw [Design.placed?, graph_withGraph_self]
    exact StageGraph.placed?_modify (d.graph stage) id f other
  constructor
  · rfl
  · rfl
  · rfl
  · intro other hOther
    rw [graph_withGraph, if_neg hOther]
  · rw [graph_withGraph_self]
    exact Table.keys_modify _ _ _
  · rw [graph_withGraph_self]
    rfl
  · intro other hOther
    rw [hPlaced?, if_neg hOther]
  · have hUser := StandardNode.isTerminal_of_applyParam hApply
    refine ⟨placed, _, hPlaced, ?_, PlacedNode.setsParam_of_applyParam
      (fun port override => h.portType?_of_override hPlaced hUser) hApply d.mode stage⟩
    rw [hPlaced?, if_pos rfl, hPlaced]
    rfl
  · rw [graph_withGraph_self]
    exact StageGraph.edges_pruneEdges _ id

end Design

/-- A parameter edit sets the parameter, drops what fits no longer, and leaves all else. -/
theorem Editor.param_edit_exact {e e' : Editor StandardNode} {stage : Stage} {id : NodeId} {name : String}
    {value : ParamValue} (hReachable : e.design.Reachable)
    (h : (Session.setParam stage id name value).exec e = (.ok (), e')) :
    e.design.SetsParam stage id name value e'.design ∧ e'.stale = true ∧ e'.last? = e.last? := by
  obtain ⟨d', hSet, rfl⟩ := (Session.performs_setParam e stage id name value).exec_eq_ok_iff.mp h
  rw [Session.after_of_outdates rfl]
  exact ⟨hReachable.nodesRegular.setsParam hSet, rfl, rfl⟩

/-- The inputs of an expression are fed and overridden. -/
def remark : Editor StandardNode where
  design := (Design.empty .spatial).edited
    [.add .fragment 2 .origin (.constant (.scalar .zero)),
     .add .fragment 3 .origin
      (.expression { inputs := [⟨.scalar, "a"⟩, ⟨.scalar, "b"⟩, ⟨.scalar, "c"⟩], outputs := [⟨.scalar, "o"⟩] }),
     .setDefault .fragment 3 0 (.scalar .zero), .setDefault .fragment 3 1 (.scalar .zero),
     .connect .fragment ⟨2, 0, 3, 2⟩, .connect .fragment ⟨3, 0, 0, 1⟩, .connect .fragment ⟨2, 0, 3, 1⟩,
     .connect .fragment ⟨2, 0, 3, 0⟩]

/-- One input stays, one becomes a vector, and one goes. -/
theorem Editor.param_edit_exact_remark :
    remark.design.Reachable ∧
      (remark.design.graph .fragment).edges = [⟨2, 0, 3, 2⟩, ⟨3, 0, 0, 1⟩, ⟨2, 0, 3, 1⟩, ⟨2, 0, 3, 0⟩] ∧
      ∃ e', (Session.setParam .fragment 3 "inputs" (.text "float a, vec3 b")).exec remark = (.ok (), e') ∧
        remark.design.SetsParam .fragment 3 "inputs" (.text "float a, vec3 b") e'.design ∧
        (e'.design.graph .fragment).edges = [⟨3, 0, 0, 1⟩, ⟨2, 0, 3, 0⟩] ∧
        ((e'.design.placed? .fragment 3).map fun n => n.overrides.entries) = some [(0, .scalar .zero)] := by
  have hReachable : remark.design.Reachable := .edited (.new .spatial) (by decide)
  have hExec : ((Session.setParam .fragment 3 "inputs" (.text "float a, vec3 b")).exec remark).1 = .ok () := by rfl
  refine ⟨hReachable, rfl, _, Prod.ext hExec rfl, ?_, rfl, rfl⟩
  exact (Editor.param_edit_exact hReachable (Prod.ext hExec rfl)).1

end ShadeGraph
