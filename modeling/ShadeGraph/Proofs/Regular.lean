import ShadeGraph.Proofs.Names
import ShadeGraph.Proofs.Reachable
import ShadeGraph.Proofs.Slots

/-!
# Regular designs

The shape that every reachable design has: each stage starts with its terminal, all other nodes are bound to their
mode and stage, uniforms have names of their own, overrides have literals, which away from the terminals are of the
type of their port, and the render settings belong to the mode.
-/

namespace ShadeGraph

/-! ## Parameters and names -/

namespace UniformNode

open ParamSlot in
theorem put_cases {n m : UniformNode} {slot : ParamSlot UniformNode} {value : ParamValue} (hSlot : slot ∈ n.slots)
    (hPut : slot.put value = .ok m) : m.isPermitted = n.isPermitted ∧
      ((slot.spec.name ≠ uniformNameParam ∧ m.name = n.name) ∨
        (slot.spec.name = uniformNameParam ∧ ∃ text, value = .text text ∧ m.name = UniformName.sanitize text)) := by
  have hWrites : ∀ slot ∈ n.slots, slot.Writes fun value m => m.isPermitted = n.isPermitted ∧
      ((slot.spec.name ≠ uniformNameParam ∧ m.name = n.name) ∨
        (slot.spec.name = uniformNameParam ∧ ∃ text, value = .text text ∧ m.name = UniformName.sanitize text)) := by
    have hType : "texture_type" ≠ uniformNameParam := by decide
    have hDefault : "color_default" ≠ uniformNameParam := by decide
    have hTexture : "texture" ≠ uniformNameParam := by decide
    have hCubeMap : "cube_map" ≠ uniformNameParam := by decide
    cases n with
    | value u =>
      exact List.forall_mem_singleton.mpr (.map _ (writes_text fun text => ⟨rfl, .inr ⟨rfl, text, rfl, rfl⟩⟩))
    | texture u =>
      refine List.forall_mem_cons.mpr ⟨.map _ (writes_text fun text => ⟨rfl, .inr ⟨rfl, text, rfl, rfl⟩⟩), ?_⟩
      refine List.forall_mem_cons.mpr ⟨.map _ (writes_choice fun _ => ⟨rfl, .inl ⟨hType, rfl⟩⟩), ?_⟩
      refine List.forall_mem_cons.mpr ⟨.map _ (writes_choice fun _ => ⟨rfl, .inl ⟨hDefault, rfl⟩⟩), ?_⟩
      exact List.forall_mem_singleton.mpr (.map _ (writes_resource fun _ => ⟨rfl, .inl ⟨hTexture, rfl⟩⟩))
    | cubeMap u =>
      refine List.forall_mem_cons.mpr ⟨.map _ (writes_text fun text => ⟨rfl, .inr ⟨rfl, text, rfl, rfl⟩⟩), ?_⟩
      refine List.forall_mem_cons.mpr ⟨.map _ (writes_choice fun _ => ⟨rfl, .inl ⟨hType, rfl⟩⟩), ?_⟩
      refine List.forall_mem_cons.mpr ⟨.map _ (writes_choice fun _ => ⟨rfl, .inl ⟨hDefault, rfl⟩⟩), ?_⟩
      exact List.forall_mem_singleton.mpr (.map _ (writes_resource fun _ => ⟨rfl, .inl ⟨hCubeMap, rfl⟩⟩))
  exact hWrites slot hSlot value m hPut

end UniformNode

namespace StandardNode

/-- Of a node that is no uniform a parameter makes no uniform. -/
theorem uniformName?_put {n m : StandardNode} {slot : ParamSlot StandardNode} {value : ParamValue}
    (hName : n.uniformName? = none) (hSlot : slot ∈ n.slots) (hPut : slot.put value = .ok m) :
    m.uniformName? = none := by
  cases n with
  | uniform => cases hName
  | output | formula => cases hSlot
  | _ =>
    obtain ⟨inner, -, rfl⟩ := List.mem_map.mp hSlot
    obtain ⟨_, -, rfl⟩ := ParamSlot.put_map_eq_ok_iff.mp hPut
    rfl

theorem applyParam_uniform {u : UniformNode} {m : StandardNode} {name : String} {value : ParamValue}
    (h : NodeModel.applyParam (uniform u) name value = .ok m) : ∃ u', m = uniform u' ∧ u'.isPermitted = u.isPermitted ∧
      ((name ≠ uniformNameParam ∧ u'.name = u.name) ∨
        (name = uniformNameParam ∧ ∃ text, value = .text text ∧ u'.name = UniformName.sanitize text)) := by
  obtain ⟨slot, hSlot, rfl, hPut⟩ := exists_slot_of_applyParam h
  obtain ⟨inner, hInner, rfl⟩ := List.mem_map.mp hSlot
  obtain ⟨u', hInnerPut, rfl⟩ := ParamSlot.put_map_eq_ok_iff.mp hPut
  exact ⟨u', rfl, UniformNode.put_cases hInner hInnerPut⟩

theorem uniformName?_bind (mode : Mode) (stage : Stage) (n : StandardNode) :
    NodeModel.uniformName? (NodeModel.bind mode stage n) = NodeModel.uniformName? n := by
  cases n <;> rfl

theorem bind_bind (mode mode' : Mode) (stage : Stage) (n : StandardNode) :
    NodeModel.bind mode stage (NodeModel.bind mode' stage n) = NodeModel.bind mode stage n := by
  cases n <;> rfl

theorem isPermitted_bind (mode : Mode) (stage : Stage) (n : StandardNode) :
    NodeModel.isPermitted (NodeModel.bind mode stage n) = NodeModel.isPermitted n := by
  cases n <;> rfl

/-- The mode gives a node that is no terminal other outputs at most. -/
theorem inputs_bind {n : StandardNode} (h : n.isTerminal = false) (mode : Mode) (stage : Stage) :
    NodeModel.inputs (NodeModel.bind mode stage n) = NodeModel.inputs n := by
  cases n with
  | output => cases h
  | _ => rfl

end StandardNode

namespace Design

variable {d d' : Design StandardNode}

theorem mem_uniformNames_iff {apart : Option Site} {name : String} :
    name ∈ d.uniformNames apart ↔ ∃ stage id n, d.placed? stage id = some n ∧ apart ≠ some ⟨stage, id⟩ ∧
      NodeModel.uniformName? n.node = some name := by
  simp only [uniformNames, List.mem_flatMap, List.mem_filterMap]
  constructor
  · rintro ⟨stage, -, ⟨id, n⟩, hMem, hName⟩
    split at hName
    · cases hName
    · rename_i hApart
      exact ⟨stage, id, n, Table.get?_eq_some_iff.mpr hMem, hApart, hName⟩
  · rintro ⟨stage, id, n, hPlaced, hApart, hName⟩
    exact ⟨stage, stage.mem_all, (id, n), Table.get?_eq_some_iff.mp hPlaced, by rw [if_neg hApart, hName]⟩

theorem isName_uniformNameFor (d : Design StandardNode) (apart : Option Site) (wanted : String) :
    UniformName.IsName (d.uniformNameFor apart wanted) :=
  UniformName.isName_unique (UniformName.isName_sanitize wanted) _

theorem uniformNameFor_not_mem (d : Design StandardNode) (apart : Option Site) (wanted : String) :
    d.uniformNameFor apart wanted ∉ d.uniformNames apart :=
  UniformName.unique_not_mem _ _

/-- Naming changes nothing but the name, which becomes one that no other uniform has. -/
theorem of_named {n m : StandardNode} (hUsable : n.IsUsable) (h : d.named n = .ok m) :
    m.IsUsable ∧ m.isTerminal = n.isTerminal ∧
      (∀ mode stage, NodeModel.bind mode stage n = n → NodeModel.bind mode stage m = m) ∧
      NodeModel.isPermitted m = NodeModel.isPermitted n ∧
      ∀ name, NodeModel.uniformName? m = some name → UniformName.IsName name ∧ name ∉ d.uniformNames none := by
  cases n with
  | uniform u =>
    have hIsName := d.isName_uniformNameFor none u.name
    have hFree := d.uniformNameFor_not_mem none u.name
    simp only [named, NodeModel.uniformName?, StandardNode.uniformName?] at h
    split at h
    · rename_i hSame
      cases h
      rw [hSame] at hIsName hFree
      refine ⟨hUsable, rfl, fun _ _ => id, rfl, ?_⟩
      rintro name hName
      cases hName
      exact ⟨hIsName, hFree⟩
    · rw [Except.mapError_eq_ok_iff] at h
      obtain ⟨u', rfl, hPermitted, hCases⟩ := StandardNode.applyParam_uniform h
      rcases hCases with ⟨hOther, -⟩ | ⟨-, text, hText, hName⟩
      · exact absurd rfl hOther
      · cases hText
        rw [UniformName.sanitize_of_isName hIsName] at hName
        refine ⟨trivial, rfl, fun _ _ _ => rfl, ?_, ?_⟩
        · funext mode stage
          exact congrFun hPermitted mode
        · rintro name hSome
          cases hSome
          rw [hName]
          exact ⟨hIsName, hFree⟩
  | _ =>
    cases h
    exact ⟨hUsable, rfl, fun _ _ => id, rfl, fun _ hName => by cases hName⟩

/-- A parameter keeps the name of a uniform, or gives it one that no other uniform has. -/
theorem uniformName?_applyParam {n m : StandardNode} {stage : Stage} {id : NodeId} {name : String} {value : ParamValue}
    (h : NodeModel.applyParam n name (d.resolve stage id name value) = .ok m) :
    NodeModel.uniformName? m = NodeModel.uniformName? n ∨
      ∃ name, NodeModel.uniformName? m = some name ∧ UniformName.IsName name ∧
        name ∉ d.uniformNames (some ⟨stage, id⟩) := by
  cases n with
  | uniform u =>
    obtain ⟨u', rfl, -, ⟨-, hName⟩ | ⟨rfl, text, hText, hName⟩⟩ := StandardNode.applyParam_uniform h
    · exact .inl (congrArg some hName)
    · right
      cases value with
      | text wanted =>
        rw [resolve, if_pos rfl] at hText
        cases hText
        have hIsName := d.isName_uniformNameFor (some ⟨stage, id⟩) wanted
        rw [UniformName.sanitize_of_isName hIsName] at hName
        exact ⟨_, congrArg some hName, hIsName, d.uniformNameFor_not_mem _ wanted⟩
      | _ => cases hText
  | _ =>
    obtain ⟨slot, hSlot, -, hPut⟩ := StandardNode.exists_slot_of_applyParam h
    exact .inl (StandardNode.uniformName?_put rfl hSlot hPut)

end Design

/-! ## Nodes -/

/-- An override that a document can hold. The ports of a terminal change with the mode. -/
def StandardNode.Overrides (n : StandardNode) (port : Nat) (value : PortValue) : Prop :=
  port < Text.indexBound ∧ (n.isTerminal = false → NodeModel.portType? n .input port = some value.type) ∧
    ∃ text, value.literal = .ok text

structure PlacedNode.IsRegular (n : PlacedNode StandardNode) (mode : Mode) (stage : Stage) : Prop where
  isUsable : n.node.IsUsable
  bind_eq : NodeModel.bind mode stage n.node = n.node
  isName : ∀ name, NodeModel.uniformName? n.node = some name → UniformName.IsName name
  overrides : ∀ port value, n.overrides.get? port = some value → n.node.Overrides port value

namespace Design

variable {d d' : Design StandardNode}

/-- Every stage starts with its terminal, all other nodes are regular, and no two uniforms share a name. -/
structure NodesRegular (d : Design StandardNode) : Prop where
  first : ∀ stage, (d.graph stage).nodes.keys.head? = some .output
  terminal : ∀ stage n, d.placed? stage .output = some n → n.node = .output ⟨d.mode, stage⟩
  user : ∀ stage id n, d.placed? stage id = some n → id ≠ .output → NodeId.firstUser ≤ id ∧ n.IsRegular d.mode stage
  names : ∀ stage id n stage' id' n' name, d.placed? stage id = some n → d.placed? stage' id' = some n' →
    NodeModel.uniformName? n.node = some name → NodeModel.uniformName? n'.node = some name →
      (⟨stage, id⟩ : Site) = ⟨stage', id'⟩

/-- What may stand at a site after a step. -/
structure Admits (d : Design StandardNode) (site : Site) (n : PlacedNode StandardNode) : Prop where
  terminal : site.id = .output → ∃ old, d.placed? site.stage site.id = some old ∧ n.node = old.node
  user : site.id ≠ .output → NodeId.firstUser ≤ site.id ∧ n.IsRegular d.mode site.stage
  name : ∀ name, NodeModel.uniformName? n.node = some name →
    (∃ old, d.placed? site.stage site.id = some old ∧ NodeModel.uniformName? old.node = some name) ∨
      name ∉ d.uniformNames (some site)

/-- Two designs that differ in what stands at one site. -/
structure ChangesAt (d d' : Design StandardNode) (site : Site) : Prop where
  mode : d'.mode = d.mode
  first : ∀ stage, (d.graph stage).nodes.keys.head? = some .output → (d'.graph stage).nodes.keys.head? = some .output
  other : ∀ stage id, ⟨stage, id⟩ ≠ site → d'.placed? stage id = d.placed? stage id
  here : ∀ n, d'.placed? site.stage site.id = some n → d.Admits site n

theorem NodesRegular.isName_of_placed (h : d.NodesRegular) {stage : Stage} {id : NodeId} {n : PlacedNode StandardNode}
    {name : String} (hPlaced : d.placed? stage id = some n) (hName : NodeModel.uniformName? n.node = some name) :
    UniformName.IsName name := by
  by_cases hId : id = .output
  · subst hId
    rw [h.terminal stage n hPlaced] at hName
    cases hName
  · exact (h.user stage id n hPlaced hId).2.isName name hName

theorem NodesRegular.isUsable (h : d.NodesRegular) {stage : Stage} {id : NodeId} {n : PlacedNode StandardNode}
    (hPlaced : d.placed? stage id = some n) : n.node.IsUsable := by
  by_cases hId : id = .output
  · subst hId
    rw [h.terminal stage n hPlaced]
    trivial
  · exact (h.user stage id n hPlaced hId).2.isUsable

theorem NodesRegular.bind_eq (h : d.NodesRegular) {stage : Stage} {id : NodeId} {n : PlacedNode StandardNode}
    (hPlaced : d.placed? stage id = some n) : NodeModel.bind d.mode stage n.node = n.node := by
  by_cases hId : id = .output
  · subst hId
    rw [h.terminal stage n hPlaced]
    rfl
  · exact (h.user stage id n hPlaced hId).2.bind_eq

theorem NodesRegular.eq_output (h : d.NodesRegular) {stage : Stage} {id : NodeId} {n : PlacedNode StandardNode}
    (hPlaced : d.placed? stage id = some n) (hTerminal : n.node.isTerminal = true) :
    n.node = .output ⟨d.mode, stage⟩ :=
  (h.bind_eq hPlaced).symm.trans (StandardNode.bind_of_isTerminal hTerminal d.mode stage)

theorem NodesRegular.portType?_of_override (h : d.NodesRegular) {stage : Stage} {id : NodeId}
    {n : PlacedNode StandardNode} (hPlaced : d.placed? stage id = some n) (hUser : n.node.isTerminal = false)
    {port : Nat} {value : PortValue} (hGet : n.overrides.get? port = some value) :
    NodeModel.portType? n.node .input port = some value.type := by
  have hId : id ≠ .output := by
    rintro rfl
    rw [h.terminal stage n hPlaced] at hUser
    cases hUser
  exact ((h.user stage id n hPlaced hId).2.overrides port value hGet).2.1 hUser

theorem NodesRegular.of_changesAt (h : d.NodesRegular) {site : Site} (hChange : ChangesAt d d' site) :
    d'.NodesRegular := by
  -- the name of the node at the site belongs to no other node
  have hApart : ∀ {n stage id n' name}, d'.placed? site.stage site.id = some n → ⟨stage, id⟩ ≠ site →
      d'.placed? stage id = some n' → NodeModel.uniformName? n.node = some name →
        NodeModel.uniformName? n'.node = some name → False := by
    intro n stage id n' name hHere hNe hOther hName hName'
    rw [hChange.other stage id hNe] at hOther
    rcases (hChange.here n hHere).name name hName with ⟨old, hOld, hOldName⟩ | hFree
    · exact hNe (h.names _ _ _ _ _ _ _ hOther hOld hName' hOldName)
    · refine hFree (mem_uniformNames_iff.mpr ⟨stage, id, n', hOther, ?_, hName'⟩)
      exact fun hSame => hNe (Option.some.inj hSame).symm
  refine ⟨fun stage => hChange.first stage (h.first stage), ?_, ?_, ?_⟩
  · intro stage n hPlaced
    rw [hChange.mode]
    by_cases hSite : ⟨stage, .output⟩ = site
    · subst hSite
      obtain ⟨old, hOld, hNode⟩ := (hChange.here n hPlaced).terminal rfl
      rw [hNode]
      exact h.terminal stage old hOld
    · exact h.terminal stage n (hChange.other stage _ hSite ▸ hPlaced)
  · intro stage id n hPlaced hId
    rw [hChange.mode]
    by_cases hSite : ⟨stage, id⟩ = site
    · subst hSite
      exact (hChange.here n hPlaced).user hId
    · exact h.user stage id n (hChange.other stage id hSite ▸ hPlaced) hId
  · intro stage id n stage' id' n' name hPlaced hPlaced' hName hName'
    by_cases hSite : ⟨stage, id⟩ = site
    · subst hSite
      by_contra hNe
      exact hApart hPlaced (Ne.symm hNe) hPlaced' hName hName'
    · by_cases hSite' : ⟨stage', id'⟩ = site
      · subst hSite'
        exact (hApart hPlaced' hSite hPlaced hName' hName).elim
      · rw [hChange.other stage id hSite] at hPlaced
        rw [hChange.other stage' id' hSite'] at hPlaced'
        exact h.names _ _ _ _ _ _ _ hPlaced hPlaced' hName hName'

theorem placed?_withGraph (d : Design StandardNode) (stage : Stage) (g : StageGraph StandardNode) (stage' : Stage)
    (id : NodeId) : (d.withGraph stage g).placed? stage' id =
      if stage' = stage then g.placed? id else d.placed? stage' id := by
  rw [placed?, graph_withGraph]
  split <;> rfl

theorem ChangesAt.withGraph {stage : Stage} {id : NodeId} {g : StageGraph StandardNode}
    (hFirst : (d.graph stage).nodes.keys.head? = some .output → g.nodes.keys.head? = some .output)
    (hOther : ∀ id', id' ≠ id → g.placed? id' = (d.graph stage).placed? id')
    (hHere : ∀ n, g.placed? id = some n → d.Admits ⟨stage, id⟩ n) : ChangesAt d (d.withGraph stage g) ⟨stage, id⟩ := by
  refine ⟨rfl, ?_, ?_, ?_⟩
  · intro stage' hOld
    rw [graph_withGraph]
    split
    · rename_i hStage
      subst hStage
      exact hFirst hOld
    · exact hOld
  · intro stage' id' hSite
    rw [placed?_withGraph]
    split
    · rename_i hStage
      subst hStage
      exact hOther id' fun hId => hSite (by rw [hId])
    · rfl
  · intro n hPlaced
    rw [placed?_withGraph, if_pos rfl] at hPlaced
    exact hHere n hPlaced

theorem NodesRegular.admits (h : d.NodesRegular) {site : Site} {n n' : PlacedNode StandardNode}
    (hPlaced : d.placed? site.stage site.id = some n) (hNode : n'.node = n.node)
    (hOverrides : (∀ port value, n.overrides.get? port = some value → n.node.Overrides port value) →
      ∀ port value, n'.overrides.get? port = some value → n.node.Overrides port value) : d.Admits site n' := by
  refine ⟨fun _ => ⟨n, hPlaced, hNode⟩, ?_, ?_⟩
  · intro hId
    obtain ⟨hFirst, hRegular⟩ := h.user site.stage site.id n hPlaced hId
    refine ⟨hFirst, ?_⟩
    constructor <;> rw [hNode]
    · exact hRegular.isUsable
    · exact hRegular.bind_eq
    · exact hRegular.isName
    · exact hOverrides hRegular.overrides
  · intro name hName
    rw [hNode] at hName
    exact .inl ⟨n, hPlaced, hName⟩

theorem NodesRegular.of_nodes_eq (h : d.NodesRegular) (hMode : d'.mode = d.mode)
    (hNodes : ∀ stage, (d'.graph stage).nodes = (d.graph stage).nodes) : d'.NodesRegular := by
  have hPlaced : d'.placed? = d.placed? := by
    funext stage id
    simp only [placed?, StageGraph.placed?, hNodes]
  refine ⟨?_, ?_, ?_, ?_⟩
  · intro stage
    rw [hNodes]
    exact h.first stage
  · rw [hPlaced, hMode]
    exact h.terminal
  · rw [hPlaced, hMode]
    exact h.user
  · rw [hPlaced]
    exact h.names

theorem NodesRegular.of_withGraph (h : d.NodesRegular) {stage : Stage} {g : StageGraph StandardNode}
    (hNodes : g.nodes = (d.graph stage).nodes) : (d.withGraph stage g).NodesRegular := by
  refine h.of_nodes_eq (mode_withGraph d stage g) ?_
  intro stage'
  rw [graph_withGraph]
  split
  · rename_i hStage
    rw [hNodes, hStage]
  · rfl

theorem exists_placed_of_node? {stage : Stage} {id : NodeId} {n : StandardNode}
    (h : (d.graph stage).node? id = some n) : ∃ placed, d.placed? stage id = some placed ∧ placed.node = n :=
  StageGraph.node?_eq_some_iff.mp h

theorem admits_added {stage : Stage} {id : NodeId} {position : Position} {n m : StandardNode}
    (hFirst : NodeId.firstUser ≤ id) (hUsable : n.IsUsable)
    (hNamed : d.named (NodeModel.bind d.mode stage n) = .ok m) : d.Admits ⟨stage, id⟩ ⟨m, position, .empty⟩ := by
  obtain ⟨hUsable', -, hBound, -, hName⟩ := of_named (StandardNode.isUsable_bind hUsable d.mode stage) hNamed
  refine ⟨?_, ?_, ?_⟩
  · rintro rfl
    exact absurd hFirst (by decide)
  · intro _
    refine ⟨hFirst, hUsable', hBound _ _ (StandardNode.bind_bind _ _ _ _), fun name hSome => (hName name hSome).1, ?_⟩
    intro port value hGet
    cases hGet
  · intro name hSome
    right
    intro hMem
    obtain ⟨stage', id', n', hPlaced, -, hName'⟩ := mem_uniformNames_iff.mp hMem
    exact (hName name hSome).2 (mem_uniformNames_iff.mpr ⟨stage', id', n', hPlaced, by simp, hName'⟩)

/-- The ports of a node may change with a parameter, and then the overrides that do not fit are gone. -/
theorem NodesRegular.admits_setParam (h : d.NodesRegular) {stage : Stage} {id : NodeId} {n : PlacedNode StandardNode}
    {m : StandardNode} {name : String} {value : ParamValue} (hPlaced : d.placed? stage id = some n)
    (hApply : NodeModel.applyParam n.node name (d.resolve stage id name value) = .ok m) :
    d.Admits ⟨stage, id⟩ { n with node := NodeModel.bind d.mode stage m }.prune := by
  have hNode : ({ n with node := NodeModel.bind d.mode stage m }.prune).node = NodeModel.bind d.mode stage m := rfl
  refine ⟨?_, ?_, ?_⟩
  · rintro rfl
    have hTerminal := StandardNode.isTerminal_of_applyParam hApply
    rw [h.terminal stage n hPlaced] at hTerminal
    cases hTerminal
  · intro hId
    obtain ⟨hFirst, hRegular⟩ := h.user stage id n hPlaced hId
    have hUser := StandardNode.isUser_applyParam hRegular.isUsable hApply
    refine ⟨hFirst, ?_⟩
    constructor
    · exact StandardNode.isUsable_bind hUser.isUsable _ _
    · exact StandardNode.bind_bind _ _ _ _
    · intro name' hSome
      rw [hNode, StandardNode.uniformName?_bind] at hSome
      rcases uniformName?_applyParam hApply with hSame | ⟨name'', hNew, hIsName, -⟩
      · exact hRegular.isName name' (hSame ▸ hSome)
      · rw [hNew] at hSome
        cases hSome
        exact hIsName
    · intro port override hGet
      rw [PlacedNode.prune, Table.get?_filter] at hGet
      obtain ⟨hOld, hType⟩ := Option.filter_eq_some_iff.mp hGet
      obtain ⟨hIndexed, -, hLiteral⟩ := hRegular.overrides port override hOld
      exact ⟨hIndexed, fun _ => of_decide_eq_true hType, hLiteral⟩
  · intro name' hSome
    rw [hNode, StandardNode.uniformName?_bind] at hSome
    rcases uniformName?_applyParam hApply with hSame | ⟨name'', hNew, -, hFree⟩
    · exact .inl ⟨n, hPlaced, hSame ▸ hSome⟩
    · rw [hNew] at hSome
      cases hSome
      exact .inr hFree

theorem placed?_setMode {mode : Mode} (h : mode ≠ d.mode) (stage : Stage) (id : NodeId) :
    (d.setMode mode).placed? stage id =
      (d.placed? stage id).map fun n => { n with node := NodeModel.bind mode stage n.node } := by
  rw [setMode, if_neg h]
  simp only [placed?, graph, PerStage.get_ofFn, StageGraph.placed?, rebind, Table.get?_mapValues]

theorem NodesRegular.setMode (h : d.NodesRegular) (mode : Mode) : (d.setMode mode).NodesRegular := by
  by_cases hSame : mode = d.mode
  · rw [Design.setMode, if_pos hSame]
    exact h
  · have hMode : (d.setMode mode).mode = mode := by rw [Design.setMode, if_neg hSame]
    refine ⟨?_, ?_, ?_, ?_⟩
    · intro stage
      have hKeys : ((d.setMode mode).graph stage).nodes.keys = (d.graph stage).nodes.keys := by
        rw [Design.setMode, if_neg hSame]
        simp only [graph, PerStage.get_ofFn, rebind, Table.keys_mapValues]
      rw [hKeys]
      exact h.first stage
    · intro stage n hPlaced
      rw [placed?_setMode hSame, Option.map_eq_some_iff] at hPlaced
      obtain ⟨old, hOld, rfl⟩ := hPlaced
      rw [h.terminal stage old hOld, hMode]
      rfl
    · intro stage id n hPlaced hId
      rw [placed?_setMode hSame, Option.map_eq_some_iff] at hPlaced
      obtain ⟨old, hOld, rfl⟩ := hPlaced
      obtain ⟨hFirst, hRegular⟩ := h.user stage id old hOld hId
      rw [hMode]
      refine ⟨hFirst, StandardNode.isUsable_bind hRegular.isUsable _ _, StandardNode.bind_bind _ _ _ _, ?_, ?_⟩
      · rw [StandardNode.uniformName?_bind]
        exact hRegular.isName
      · intro port value hGet
        obtain ⟨hIndexed, hType, hLiteral⟩ := hRegular.overrides port value hGet
        refine ⟨hIndexed, ?_, hLiteral⟩
        intro hUser
        rw [StandardNode.isTerminal_bind] at hUser
        rw [← hType hUser, NodeModel.portType?, NodeModel.port?, NodeModel.ports, StandardNode.inputs_bind hUser]
        rfl
    · intro stage id n stage' id' n' name hPlaced hPlaced' hName hName'
      rw [placed?_setMode hSame, Option.map_eq_some_iff] at hPlaced hPlaced'
      obtain ⟨old, hOld, rfl⟩ := hPlaced
      obtain ⟨old', hOld', rfl⟩ := hPlaced'
      rw [StandardNode.uniformName?_bind] at hName hName'
      exact h.names _ _ _ _ _ _ _ hOld hOld' hName hName'

theorem ChangesAt.modify {stage : Stage} {id : NodeId} (f : PlacedNode StandardNode → PlacedNode StandardNode)
    {g : StageGraph StandardNode} (hNodes : g.nodes = ((d.graph stage).modify id f).nodes)
    (h : ∀ n, d.placed? stage id = some n → d.Admits ⟨stage, id⟩ (f n)) :
    ChangesAt d (d.withGraph stage g) ⟨stage, id⟩ := by
  have hPlaced (id' : NodeId) : g.placed? id' = ((d.graph stage).modify id f).placed? id' := by
    rw [StageGraph.placed?, hNodes]
    rfl
  apply ChangesAt.withGraph
  · intro hFirst
    rw [hNodes, StageGraph.modify, Table.keys_modify]
    exact hFirst
  · intro id' hId
    rw [hPlaced, StageGraph.placed?_modify, if_neg hId]
  · intro n hNew
    rw [hPlaced, StageGraph.placed?_modify, if_pos rfl, Option.map_eq_some_iff] at hNew
    obtain ⟨old, hOld, rfl⟩ := hNew
    exact h old hOld

theorem NodesRegular.apply (h : d.NodesRegular) {edit : Edit StandardNode} (hEdit : edit.IsWellFormed)
    (hApply : edit.apply d = .ok d') : d'.NodesRegular := by
  cases edit with
  | setMode mode =>
    cases hApply
    exact h.setMode mode
  | add stage id position n =>
    obtain ⟨hFirst, -, -, m, hNamed, rfl⟩ := add_eq_ok_iff.mp hApply
    refine h.of_changesAt (@ChangesAt.withGraph d stage id _ (fun hOld => Table.head?_keys_insert hOld _ _) ?_ ?_)
    · intro id' hId
      rw [StageGraph.placed?_insert, if_neg hId]
    · intro n' hNew
      rw [StageGraph.placed?_insert, if_pos rfl] at hNew
      cases hNew
      exact admits_added hFirst hEdit hNamed
  | remove stage id =>
    obtain ⟨hId, -, rfl⟩ := remove_eq_ok_iff.mp hApply
    refine h.of_changesAt (@ChangesAt.withGraph d stage id _ (fun hOld => Table.head?_keys_erase hOld hId.symm) ?_ ?_)
    · intro id' hId
      rw [StageGraph.placed?_erase, if_neg hId]
    · intro n' hNone
      rw [StageGraph.placed?_erase, if_pos rfl] at hNone
      cases hNone
  | move stage id position =>
    obtain ⟨-, rfl⟩ := move_eq_ok_iff.mp hApply
    refine h.of_changesAt (.modify (fun n => { n with position }) rfl ?_)
    exact fun n hPlaced => h.admits hPlaced rfl fun hOld => hOld
  | setParam stage id name value =>
    obtain ⟨n, hNode, m, hParam, rfl⟩ := setParam_eq_ok_iff.mp hApply
    refine h.of_changesAt
      (.modify (fun placed => { placed with node := NodeModel.bind d.mode stage m }.prune) rfl ?_)
    intro placed hPlaced
    obtain ⟨placed', hPlaced', rfl⟩ := exists_placed_of_node? hNode
    cases hPlaced.symm.trans hPlaced'
    exact h.admits_setParam hPlaced hParam
  | setDefault stage id port value =>
    obtain ⟨⟨n, hNode, hType⟩, hLiteral, rfl⟩ := setDefault_eq_ok_iff.mp hApply
    refine h.of_changesAt
      (.modify (fun placed => { placed with overrides := placed.overrides.insert port value }) rfl ?_)
    intro placed hPlaced
    obtain ⟨placed', hPlaced', rfl⟩ := exists_placed_of_node? hNode
    cases hPlaced.symm.trans hPlaced'
    refine h.admits hPlaced rfl ?_
    intro hOld port' value' hGet
    rw [Table.get?_insert] at hGet
    split at hGet
    · rename_i hPort
      cases hGet
      exact hPort ▸ ⟨hEdit, fun _ => hType, hLiteral⟩
    · exact hOld port' value' hGet
  | clearDefault stage id port =>
    cases hApply
    refine h.of_changesAt
      (.modify (fun placed => { placed with overrides := placed.overrides.erase port }) rfl ?_)
    intro placed hPlaced
    refine h.admits hPlaced rfl ?_
    intro hOld port' value' hGet
    rw [Table.get?_erase] at hGet
    split at hGet
    · cases hGet
    · exact hOld port' value' hGet
  | connect stage e =>
    obtain ⟨g, hConnect, rfl⟩ := connect_eq_ok_iff.mp hApply
    obtain ⟨-, rfl⟩ := StageGraph.connect_eq_ok_iff.mp hConnect
    exact h.of_withGraph rfl
  | disconnect stage e =>
    cases hApply
    exact h.of_withGraph rfl
  | setOption group option =>
    obtain ⟨-, rfl⟩ := setOption_eq_ok_iff.mp hApply
    exact h.of_nodes_eq rfl fun _ => rfl
  | clearOption group =>
    cases hApply
    exact h.of_nodes_eq rfl fun _ => rfl
  | setFlag flag on =>
    obtain ⟨-, rfl⟩ := setFlag_eq_ok_iff.mp hApply
    exact h.of_nodes_eq rfl fun _ => rfl
  | scroll offset =>
    cases hApply
    exact h.of_nodes_eq rfl fun _ => rfl

theorem NodesRegular.step (h : d.NodesRegular) (hStep : Step d d') : d'.NodesRegular := by
  cases hStep with
  | edit edit hEdit hApply => exact h.apply hEdit hApply
  | join stage e _ hJoin =>
    obtain ⟨g, hGraph, rfl⟩ := join_eq_ok_iff.mp hJoin
    obtain ⟨-, rfl⟩ := StageGraph.join_eq_ok_iff.mp hGraph
    exact h.of_withGraph rfl

theorem placed?_empty (mode : Mode) (stage : Stage) (id : NodeId) :
    (empty mode : Design StandardNode).placed? stage id =
      if id = .output then some ⟨.output ⟨mode, stage⟩, StageGraph.terminalPosition, .empty⟩ else none := by
  simp only [placed?, graph, empty, PerStage.get_ofFn, StageGraph.placed?, StageGraph.empty, Table.get?_insert,
    Table.get?_empty]
  rfl

theorem nodesRegular_empty (mode : Mode) : (empty mode : Design StandardNode).NodesRegular := by
  refine ⟨?_, ?_, ?_, ?_⟩
  · intro stage
    simp [graph, empty, StageGraph.empty, Table.keys, Table.insert, Table.empty, Table.put]
  · intro stage n hNode
    rw [placed?_empty, if_pos rfl] at hNode
    cases hNode
    rfl
  · intro stage id n hNode hId
    rw [placed?_empty, if_neg hId] at hNode
    cases hNode
  · intro stage id n stage' id' n' name hNode _ hName _
    rw [placed?_empty] at hNode
    split at hNode
    · cases hNode
      cases hName
    · cases hNode

theorem Reachable.nodesRegular (h : d.Reachable) : d.NodesRegular :=
  h.induction nodesRegular_empty fun _ _ hRegular hStep => hRegular.step hStep

/-! ## Render settings -/

/-- The settings are those of the mode, and no flag is on twice. -/
structure SettingsRegular (d : Design StandardNode) : Prop where
  options : ∀ group option, d.settings.options.get? group = some option → d.mode.hasOption group option = true
  flags : ∀ flag ∈ d.settings.flags, d.mode.hasFlag flag = true
  flags_nodup : d.settings.flags.Nodup

theorem settingsRegular_of_empty (h : d.settings = .empty) : d.SettingsRegular := by
  constructor <;> rw [h]
  · intro group option hGet
    cases hGet
  · intro flag hMem
    cases hMem
  · exact List.nodup_nil

theorem SettingsRegular.of_eq (h : d.SettingsRegular) (hMode : d'.mode = d.mode)
    (hSettings : d'.settings = d.settings) : d'.SettingsRegular := by
  constructor <;> rw [hSettings]
  · rw [hMode]
    exact h.options
  · rw [hMode]
    exact h.flags
  · exact h.flags_nodup

theorem SettingsRegular.enable (h : d.SettingsRegular) {flag : String} (hFlag : d.mode.hasFlag flag = true) :
    SettingsRegular { d with settings := d.settings.enable flag } := by
  by_cases hOn : flag ∈ d.settings.flags
  · rw [RenderSettings.enable, if_pos hOn]
    exact h
  · rw [RenderSettings.enable, if_neg hOn]
    refine ⟨h.options, ?_, ?_⟩
    · exact List.forall_mem_append.mpr ⟨h.flags, List.forall_mem_singleton.mpr hFlag⟩
    · exact List.nodup_append.mpr ⟨h.flags_nodup, List.nodup_singleton flag, by
        intro a hMem b hSingle hSame
        rw [List.mem_singleton] at hSingle
        exact hOn (hSingle ▸ hSame ▸ hMem)⟩

theorem SettingsRegular.apply (h : d.SettingsRegular) {edit : Edit StandardNode} (hApply : edit.apply d = .ok d') :
    d'.SettingsRegular := by
  cases edit with
  | setMode mode =>
    cases hApply
    rw [Design.setMode]
    split
    · exact h
    · exact settingsRegular_of_empty rfl
  | add =>
    obtain ⟨-, -, -, m, -, rfl⟩ := add_eq_ok_iff.mp hApply
    exact h.of_eq rfl rfl
  | remove =>
    obtain ⟨-, -, rfl⟩ := remove_eq_ok_iff.mp hApply
    exact h.of_eq rfl rfl
  | move =>
    obtain ⟨-, rfl⟩ := move_eq_ok_iff.mp hApply
    exact h.of_eq rfl rfl
  | setParam =>
    obtain ⟨-, -, -, -, rfl⟩ := setParam_eq_ok_iff.mp hApply
    exact h.of_eq rfl rfl
  | setDefault =>
    obtain ⟨-, -, rfl⟩ := setDefault_eq_ok_iff.mp hApply
    exact h.of_eq rfl rfl
  | connect =>
    obtain ⟨g, -, rfl⟩ := connect_eq_ok_iff.mp hApply
    exact h.of_eq rfl rfl
  | clearDefault | disconnect | scroll =>
    cases hApply
    exact h.of_eq rfl rfl
  | setOption group option =>
    obtain ⟨hOption, rfl⟩ := setOption_eq_ok_iff.mp hApply
    refine ⟨?_, h.flags, h.flags_nodup⟩
    intro group' option' hGet
    rw [Table.get?_insert] at hGet
    split at hGet
    · rename_i hGroup
      cases hGet
      exact hGroup ▸ hOption
    · exact h.options group' option' hGet
  | clearOption group =>
    cases hApply
    refine ⟨?_, h.flags, h.flags_nodup⟩
    intro group' option' hGet
    rw [clearOption, Table.get?_erase] at hGet
    split at hGet
    · cases hGet
    · exact h.options group' option' hGet
  | setFlag flag on =>
    obtain ⟨hFlag, rfl⟩ := setFlag_eq_ok_iff.mp hApply
    cases on with
    | true => exact h.enable hFlag
    | false => exact ⟨h.options, fun f hMem => h.flags f (List.mem_of_mem_erase hMem), h.flags_nodup.erase flag⟩

theorem SettingsRegular.step (h : d.SettingsRegular) (hStep : Step d d') : d'.SettingsRegular := by
  cases hStep with
  | edit edit _ hApply => exact h.apply hApply
  | join stage e _ hJoin =>
    obtain ⟨g, -, rfl⟩ := join_eq_ok_iff.mp hJoin
    exact h.of_eq rfl rfl

theorem Reachable.settingsRegular (h : d.Reachable) : d.SettingsRegular :=
  h.induction (fun _ => settingsRegular_of_empty rfl) fun _ _ hRegular hStep => hRegular.step hStep

end Design

end ShadeGraph
