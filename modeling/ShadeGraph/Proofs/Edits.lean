import ShadeGraph.Graph.Edit
import ShadeGraph.Proofs.Except
import ShadeGraph.Proofs.Table

/-!
# What edits do

For every operation on stage graphs and designs that may be refused: when it is accepted, and what it yields.
-/

namespace ShadeGraph

variable {ν : Type}

namespace StageGraph

/-! ## Look-ups of nodes -/

theorem contains_iff {g : StageGraph ν} {id : NodeId} :
    g.contains id = true ↔ ∃ n, g.placed? id = some n := by
  rw [contains, Table.contains_iff, Table.mem_keys_iff]
  rfl

theorem node?_eq_some_iff {g : StageGraph ν} {id : NodeId} {n : ν} :
    g.node? id = some n ↔ ∃ placed, g.placed? id = some placed ∧ placed.node = n := by
  simp [node?]

theorem placed?_insert (g : StageGraph ν) (id : NodeId) (n : PlacedNode ν) (id' : NodeId) :
    (g.insert id n).placed? id' = if id' = id then some n else g.placed? id' :=
  Table.get?_insert g.nodes id n id'

theorem placed?_erase (g : StageGraph ν) (id id' : NodeId) :
    (g.erase id).placed? id' = if id' = id then none else g.placed? id' :=
  Table.get?_erase g.nodes id id'

theorem placed?_modify (g : StageGraph ν) (id : NodeId) (f : PlacedNode ν → PlacedNode ν) (id' : NodeId) :
    (g.modify id f).placed? id' = if id' = id then (g.placed? id').map f else g.placed? id' :=
  Table.get?_modify g.nodes id f id'

theorem node?_insert_of_ne (g : StageGraph ν) {id id' : NodeId} (n : PlacedNode ν) (h : id' ≠ id) :
    (g.insert id n).node? id' = g.node? id' := by
  rw [node?, node?, placed?_insert, if_neg h]

theorem node?_erase_of_ne (g : StageGraph ν) {id id' : NodeId} (h : id' ≠ id) :
    (g.erase id).node? id' = g.node? id' := by
  rw [node?, node?, placed?_erase, if_neg h]

theorem node?_modify_of_ne (g : StageGraph ν) {id id' : NodeId} (f : PlacedNode ν → PlacedNode ν)
    (h : id' ≠ id) : (g.modify id f).node? id' = g.node? id' := by
  rw [node?, node?, placed?_modify, if_neg h]

theorem node?_modify_eq (g : StageGraph ν) (id : NodeId) {f : PlacedNode ν → PlacedNode ν}
    (h : ∀ n, (f n).node = n.node) (id' : NodeId) : (g.modify id f).node? id' = g.node? id' := by
  rw [node?, node?, placed?_modify]
  split
  · simp [Function.comp_def, h]
  · rfl

theorem modify_modify (g : StageGraph ν) (id : NodeId) (f f' : PlacedNode ν → PlacedNode ν) :
    (g.modify id f).modify id f' = g.modify id fun n => f' (f n) := by
  simp only [modify, Table.modify_modify]

theorem modify_own_node {g : StageGraph ν} {id : NodeId} {n : ν} (h : g.node? id = some n) :
    g.modify id (fun placed => { placed with node := n }) = g := by
  obtain ⟨placed, hPlaced, rfl⟩ := node?_eq_some_iff.mp h
  rw [modify, Table.modify, Table.mapValues_eq_self]
  intro id' placed' hEntry
  split
  · rename_i hId
    subst hId
    have hSame : some placed' = some placed := (Table.get?_eq_some_iff.mpr hEntry).symm.trans hPlaced
    cases hSame
    rfl
  · rfl

/-! ## Checks -/

theorem incoming?_eq_none_iff {g : StageGraph ν} {id : NodeId} {port : Nat} :
    g.incoming? id port = none ↔ ∀ e ∈ g.edges, e.feeds id port = false := by
  simp [incoming?]

theorem checkNode_eq_ok_iff {g : StageGraph ν} {stage : Stage} {id : NodeId} {n : ν} :
    g.checkNode stage id = .ok n ↔ g.node? id = some n := by
  rw [checkNode]
  split <;> simp [*]

variable [NodeModel ν]

theorem checkPort_eq_ok_iff {n : ν} {id : NodeId} {direction : Direction} {port : Nat} {p : Port} :
    checkPort n id direction port = .ok p ↔ NodeModel.port? n direction port = some p := by
  rw [checkPort]
  split <;> simp [*]

theorem outputType?_eq_some_iff {g : StageGraph ν} {id : NodeId} {port : Nat} {type : PortType} :
    g.outputType? id port = some type ↔
      ∃ n, g.node? id = some n ∧ ∃ p, NodeModel.port? n .output port = some p ∧ p.type = type := by
  simp [outputType?, NodeModel.portType?, Option.bind_eq_some_iff]

theorem inputPort?_eq_some_iff {g : StageGraph ν} {id : NodeId} {port : Nat} {p : Port} :
    g.inputPort? id port = some p ↔ ∃ n, g.node? id = some n ∧ NodeModel.port? n .input port = some p := by
  simp [inputPort?, Option.bind_eq_some_iff]

theorem inRange_iff {g : StageGraph ν} {e : Edge} :
    g.inRange e = true ↔
      (∃ type, g.outputType? e.source e.output = some type) ∧ ∃ p, g.inputPort? e.target e.input = some p := by
  simp [inRange, Option.isSome_iff_exists]

theorem isSound_iff {g : StageGraph ν} {e : Edge} :
    g.isSound e = true ↔ ∃ type, g.outputType? e.source e.output = some type ∧
      ∃ p, g.inputPort? e.target e.input = some p ∧ p.accepts type = true := by
  rw [isSound]
  split
  · rename_i type p hType hPort
    simp [hType, hPort]
  · rename_i hNone
    simp only [Bool.false_eq_true, false_iff, not_exists, not_and]
    exact fun type hType p hPort _ => hNone type p hType hPort

theorem inRange_of_isSound {g : StageGraph ν} {e : Edge} (h : g.isSound e = true) : g.inRange e = true := by
  obtain ⟨type, hType, p, hPort, -⟩ := isSound_iff.mp h
  exact inRange_iff.mpr ⟨⟨type, hType⟩, p, hPort⟩

theorem isSound_congr {g h : StageGraph ν} {e : Edge} (hSource : g.node? e.source = h.node? e.source)
    (hTarget : g.node? e.target = h.node? e.target) : g.isSound e = h.isSound e := by
  simp only [isSound, outputType?, inputPort?, hSource, hTarget]

theorem inRange_congr {g h : StageGraph ν} {e : Edge} (hSource : g.node? e.source = h.node? e.source)
    (hTarget : g.node? e.target = h.node? e.target) : g.inRange e = h.inRange e := by
  simp only [inRange, outputType?, inputPort?, hSource, hTarget]

theorem exists_nodes_of_inRange {g : StageGraph ν} {e : Edge} (h : g.inRange e = true) :
    (∃ n, g.node? e.source = some n) ∧ ∃ n, g.node? e.target = some n := by
  obtain ⟨⟨type, hType⟩, p, hPort⟩ := inRange_iff.mp h
  obtain ⟨source, hSource, -⟩ := outputType?_eq_some_iff.mp hType
  obtain ⟨target, hTarget, -⟩ := inputPort?_eq_some_iff.mp hPort
  exact ⟨⟨source, hSource⟩, target, hTarget⟩

theorem checkEnds_eq_ok_iff {g : StageGraph ν} {stage : Stage} {e : Edge} :
    g.checkEnds stage e = .ok () ↔ g.inRange e = true := by
  simp only [checkEnds, Except.bind_eq_ok_iff, Except.pure_eq_ok_iff, checkNode_eq_ok_iff, checkPort_eq_ok_iff,
    inRange_iff, outputType?_eq_some_iff, inputPort?_eq_some_iff]
  constructor
  · rintro ⟨source, hSource, target, hTarget, p, hOutput, q, hInput, -⟩
    exact ⟨⟨p.type, source, hSource, p, hOutput, rfl⟩, q, target, hTarget, hInput⟩
  · rintro ⟨⟨_, source, hSource, p, hOutput, _⟩, q, target, hTarget, hInput⟩
    exact ⟨source, hSource, target, hTarget, p, hOutput, q, hInput, trivial⟩

theorem checkTypes_eq_ok_iff {g : StageGraph ν} {e : Edge} :
    g.checkTypes e = .ok () ↔ g.isSound e = true := by
  rw [checkTypes, isSound]
  split
  · split <;> simp [*]
  · simp

/-- An edge is accepted when it is sound, its input is free, and its target does not lead to its source. -/
theorem checkEdge_eq_ok_iff {g : StageGraph ν} {stage : Stage} {e : Edge} :
    g.checkEdge stage e = .ok () ↔ g.isSound e = true ∧ g.incoming? e.target e.input = none ∧
      g.closesCycle e.source e.target = false := by
  simp only [checkEdge, Except.bind_unit_eq_ok_iff, checkEnds_eq_ok_iff, checkTypes_eq_ok_iff, Except.throw_bind,
    Except.ite_throw_eq_ok_iff, Option.isSome_iff_ne_none, not_not, Bool.not_eq_true,
    Except.pure_eq_ok_iff, and_true]
  constructor
  · exact fun h => h.2
  · exact fun h => ⟨inRange_of_isSound h.1, h⟩

theorem connect_eq_ok_iff {g g' : StageGraph ν} {stage : Stage} {e : Edge} :
    g.connect stage e = .ok g' ↔
      g.checkEdge stage e = .ok () ∧ { g with edges := g.edges ++ [e] } = g' := by
  simp only [connect, Except.bind_unit_eq_ok_iff, Except.pure_eq_ok_iff]

theorem join_eq_ok_iff {g g' : StageGraph ν} {stage : Stage} {e : Edge} :
    g.join stage e = .ok g' ↔ g.inRange e = true ∧
      { g with edges := g.edges.filter (!·.feeds e.target e.input) ++ [e] } = g' := by
  simp only [join, Except.bind_unit_eq_ok_iff, checkEnds_eq_ok_iff, Except.pure_eq_ok_iff]

end StageGraph

namespace Design

theorem graph_withGraph (d : Design ν) (stage stage' : Stage) (g : StageGraph ν) :
    (d.withGraph stage g).graph stage' = if stage' = stage then g else d.graph stage' := by
  split
  · rename_i hStage
    subst hStage
    exact PerStage.get_set_self d.stages stage' g
  · rename_i hStage
    exact PerStage.get_set_of_ne d.stages g hStage

@[simp] theorem graph_withGraph_self (d : Design ν) (stage : Stage) (g : StageGraph ν) :
    (d.withGraph stage g).graph stage = g := by
  rw [graph_withGraph, if_pos rfl]

theorem withGraph_withGraph (d : Design ν) (stage : Stage) (g g' : StageGraph ν) :
    (d.withGraph stage g).withGraph stage g' = d.withGraph stage g' := by
  cases stage <;> rfl

@[simp] theorem mode_withGraph (d : Design ν) (stage : Stage) (g : StageGraph ν) :
    (d.withGraph stage g).mode = d.mode := rfl

theorem setOption_eq_ok_iff {d d' : Design ν} {group : String} {option : Nat} :
    d.setOption group option = .ok d' ↔ d.mode.hasOption group option = true ∧
      { d with settings := { d.settings with options := d.settings.options.insert group option } } = d' := by
  rw [setOption]
  split <;> simp [*]

theorem setFlag_eq_ok_iff {d d' : Design ν} {flag : String} {on : Bool} :
    d.setFlag flag on = .ok d' ↔ d.mode.hasFlag flag = true ∧
      { d with settings := if on then d.settings.enable flag else d.settings.disable flag } = d' := by
  rw [setFlag]
  split <;> simp [*]

theorem remove_eq_ok_iff {d d' : Design ν} {stage : Stage} {id : NodeId} :
    d.remove stage id = .ok d' ↔ id ≠ .output ∧ (∃ n, (d.graph stage).node? id = some n) ∧
      d.withGraph stage ((d.graph stage).erase id) = d' := by
  simp only [remove, Except.throw_bind, Except.ite_throw_eq_ok_iff, Except.bind_eq_ok_iff,
    Except.pure_eq_ok_iff, StageGraph.checkNode_eq_ok_iff, exists_and_right, ne_eq]

theorem move_eq_ok_iff {d d' : Design ν} {stage : Stage} {id : NodeId} {position : Position} :
    d.move stage id position = .ok d' ↔ (∃ n, (d.graph stage).node? id = some n) ∧
      d.withGraph stage ((d.graph stage).modify id fun n => { n with position }) = d' := by
  simp only [move, Except.bind_eq_ok_iff, Except.pure_eq_ok_iff, StageGraph.checkNode_eq_ok_iff,
    exists_and_right]

variable [NodeModel ν]

theorem add_eq_ok_iff {d d' : Design ν} {stage : Stage} {id : NodeId} {position : Position} {n : ν} :
    d.add stage id position n = .ok d' ↔
      NodeId.firstUser ≤ id ∧ (d.graph stage).contains id = false ∧
      NodeModel.isPermitted n d.mode stage = true ∧
      ∃ m, d.named (NodeModel.bind d.mode stage n) = .ok m ∧
        d.withGraph stage ((d.graph stage).insert id ⟨m, position, .empty⟩) = d' := by
  simp only [add, Except.throw_bind, Except.ite_throw_eq_ok_iff, Except.bind_eq_ok_iff, Except.pure_eq_ok_iff,
    UInt32.not_lt, Bool.not_eq_true, Bool.not_eq_false, Bool.not_eq_eq_eq_not, Bool.not_true]

theorem setParam_eq_ok_iff {d d' : Design ν} {stage : Stage} {id : NodeId} {name : String}
    {value : ParamValue} :
    d.setParam stage id name value = .ok d' ↔
      ∃ n, (d.graph stage).node? id = some n ∧
      ∃ m, NodeModel.applyParam n name (d.resolve stage id name value) = .ok m ∧
        d.withGraph stage (((d.graph stage).modify id fun placed =>
          { placed with node := NodeModel.bind d.mode stage m }.prune).pruneEdges id) = d' := by
  simp only [setParam, Except.bind_eq_ok_iff, Except.pure_eq_ok_iff, StageGraph.checkNode_eq_ok_iff,
    Except.mapError_eq_ok_iff]

theorem setDefault_eq_ok_iff {d d' : Design ν} {stage : Stage} {id : NodeId} {port : Nat}
    {value : PortValue} :
    d.setDefault stage id port value = .ok d' ↔
      (∃ n, (d.graph stage).node? id = some n ∧ NodeModel.portType? n .input port = some value.type) ∧
      (∃ literal, value.literal = .ok literal) ∧
      d.withGraph stage ((d.graph stage).modify id fun placed =>
        { placed with overrides := placed.overrides.insert port value }) = d' := by
  simp only [setDefault, Except.throw_bind, Except.ite_throw_eq_ok_iff, Except.bind_eq_ok_iff,
    Except.pure_eq_ok_iff, StageGraph.checkNode_eq_ok_iff, StageGraph.checkPort_eq_ok_iff,
    Except.mapError_eq_ok_iff, NodeModel.portType?, Option.map_eq_some_iff, ne_eq, not_not]
  constructor
  · rintro ⟨n, hNode, p, hPort, hType, literal, hLiteral, hResult⟩
    exact ⟨⟨n, hNode, p, hPort, hType⟩, ⟨literal, hLiteral⟩, hResult⟩
  · rintro ⟨⟨n, hNode, p, hPort, hType⟩, ⟨literal, hLiteral⟩, hResult⟩
    exact ⟨n, hNode, p, hPort, hType, literal, hLiteral, hResult⟩

theorem connect_eq_ok_iff {d d' : Design ν} {stage : Stage} {e : Edge} :
    d.connect stage e = .ok d' ↔
      ∃ g, (d.graph stage).connect stage e = .ok g ∧ d.withGraph stage g = d' := by
  simp only [connect, Except.bind_eq_ok_iff, Except.pure_eq_ok_iff]

theorem join_eq_ok_iff {d d' : Design ν} {stage : Stage} {e : Edge} :
    d.join stage e = .ok d' ↔
      ∃ g, (d.graph stage).join stage e = .ok g ∧ d.withGraph stage g = d' := by
  simp only [join, Except.bind_eq_ok_iff, Except.pure_eq_ok_iff]

end Design

end ShadeGraph
