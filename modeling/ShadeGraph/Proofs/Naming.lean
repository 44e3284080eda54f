import ShadeGraph.Proofs.Regular
import ShadeGraph.Proofs.Wiring

/-!
# Every uniform has a name of its own

The names of all uniforms are told apart when they are given. So a name that a uniform already has is free for it,
and giving it again changes nothing.
-/

namespace ShadeGraph

namespace StandardNode

/-- Only uniforms have a parameter of that name, and it holds the name. -/
theorem exists_uniform_of_param? {n : StandardNode} {value : ParamValue}
    (h : NodeModel.param? n uniformNameParam = some value) : ∃ u, n = .uniform u ∧ value = .text u.name := by
  cases n with
  | uniform u =>
    refine ⟨u, rfl, ?_⟩
    cases u <;> exact (Option.some.inj h).symm
  | constant n => cases n <;> cases h
  | operator n => cases n <;> cases h
  | function n => cases n <;> cases h
  | logic n => cases n <;> cases h
  | _ => cases h

theorem applyParam_own_name {u : UniformNode} (h : UniformName.IsName u.name) :
    NodeModel.applyParam (uniform u) uniformNameParam (.text u.name) = .ok (uniform u) := by
  have hName := UniformName.sanitize_of_isName h
  cases u with
  | value u =>
    change Except.ok (uniform (.value { u with name := UniformName.sanitize u.name })) = _
    rw [show UniformName.sanitize u.name = u.name from hName]
  | texture u =>
    change Except.ok (uniform (.texture { u with name := UniformName.sanitize u.name })) = _
    rw [show UniformName.sanitize u.name = u.name from hName]
  | cubeMap u =>
    change Except.ok (uniform (.cubeMap { u with name := UniformName.sanitize u.name })) = _
    rw [show UniformName.sanitize u.name = u.name from hName]

end StandardNode

namespace Design

variable {d : Design StandardNode}

theorem NodesRegular.nodup_uniformNames (h : d.NodesRegular) (apart : Option Site) : (d.uniformNames apart).Nodup := by
  have hSite {stage stage' : Stage} {x x' : NodeId × PlacedNode StandardNode} {name : String}
      (hMem : x ∈ (d.graph stage).nodes.entries) (hMem' : x' ∈ (d.graph stage').nodes.entries)
      (hName : name ∈ if apart = some ⟨stage, x.1⟩ then none else NodeModel.uniformName? x.2.node)
      (hName' : name ∈ if apart = some ⟨stage', x'.1⟩ then none else NodeModel.uniformName? x'.2.node) :
      (⟨stage, x.1⟩ : Site) = ⟨stage', x'.1⟩ := by
    split at hName
    · cases hName
    split at hName'
    · cases hName'
    exact h.names _ _ _ _ _ _ name (Table.get?_eq_some_iff.mpr hMem) (Table.get?_eq_some_iff.mpr hMem') hName hName'
  rw [uniformNames, List.nodup_flatMap]
  constructor
  · intro stage _
    rw [List.Nodup, List.pairwise_filterMap]
    refine (List.pairwise_map.mp (d.graph stage).nodes.keys_nodup).imp_of_mem ?_
    rintro x x' hMem hMem' hKeys name hName _ hName' rfl
    exact hKeys (Site.mk.inj (hSite hMem hMem' hName hName')).2
  · have hAll : Stage.all.Nodup := by decide
    refine hAll.imp ?_
    intro stage stage' hStages name hName hName'
    obtain ⟨x, hMem, hSome⟩ := List.mem_filterMap.mp hName
    obtain ⟨x', hMem', hSome'⟩ := List.mem_filterMap.mp hName'
    exact hStages (Site.mk.inj (hSite hMem hMem' hSome hSome')).1

/-- A name that a uniform has is free for it. -/
theorem NodesRegular.uniformNameFor_own (h : d.NodesRegular) {stage : Stage} {id : NodeId}
    {n : PlacedNode StandardNode} {name : String} (hPlaced : d.placed? stage id = some n)
    (hName : NodeModel.uniformName? n.node = some name) : d.uniformNameFor (some ⟨stage, id⟩) name = name := by
  have hFree : name ∉ d.uniformNames (some ⟨stage, id⟩) := by
    intro hMem
    obtain ⟨stage', id', n', hPlaced', hApart, hName'⟩ := mem_uniformNames_iff.mp hMem
    exact hApart (congrArg some (h.names _ _ _ _ _ _ name hPlaced hPlaced' hName hName'))
  rw [uniformNameFor, UniformName.sanitize_of_isName (h.isName_of_placed hPlaced hName),
    UniformName.unique_of_not_mem hFree]

section

variable {stage : Stage} {id : NodeId} {g : StageGraph StandardNode}
  {f : PlacedNode StandardNode → PlacedNode StandardNode} (hNodes : g.nodes = ((d.graph stage).modify id f).nodes)
  (hSame : ∀ n, d.placed? stage id = some n → (f n).node = n.node)

include hNodes hSame

theorem node?_withGraph_of_same (stage' : Stage) (id' : NodeId) :
    (d.withGraph stage g).node? stage' id' = d.node? stage' id' := by
  change ((d.withGraph stage g).placed? stage' id').map PlacedNode.node = (d.placed? stage' id').map PlacedNode.node
  rw [placed?_withGraph]
  split
  · rename_i hStage
    subst hStage
    have hPlaced : g.placed? id' = ((d.graph stage').modify id f).placed? id' := by
      rw [StageGraph.placed?, hNodes]
      rfl
    rw [hPlaced, StageGraph.placed?_modify]
    split
    · rename_i hId
      subst hId
      rw [Option.map_map]
      exact Option.map_congr hSame
    · rfl
  · rfl

theorem uniformNames_withGraph_of_same (apart : Option Site) :
    (d.withGraph stage g).uniformNames apart = d.uniformNames apart := by
  rw [uniformNames, uniformNames]
  refine congrArg (Stage.all.flatMap ·) (funext fun stage' => ?_)
  rw [graph_withGraph]
  split
  · rename_i hStage
    subst hStage
    rw [hNodes, StageGraph.modify, Table.modify, Table.mapValues, List.filterMap_map]
    refine List.filterMap_congr ?_
    rintro ⟨id', n⟩ hMem
    dsimp only [Function.comp_apply]
    by_cases hId : id' = id
    · subst hId
      rw [if_pos rfl, hSame n (Table.get?_eq_some_iff.mpr hMem)]
    · rw [if_neg hId]
  · rfl

end

theorem NodesRegular.setParam_own_name (h : d.NodesRegular) {stage : Stage} {id : NodeId} {value : ParamValue}
    (hValue : d.param? stage id uniformNameParam = some value) :
    ∃ d', d.setParam stage id uniformNameParam value = .ok d' ∧
      (∀ stage' id', d'.node? stage' id' = d.node? stage' id') ∧ d'.uniformNames none = d.uniformNames none := by
  obtain ⟨_, hNode, hParam⟩ := Option.bind_eq_some_iff.mp hValue
  obtain ⟨u, rfl, rfl⟩ := StandardNode.exists_uniform_of_param? hParam
  obtain ⟨placed, hPlaced, hHere⟩ := StageGraph.node?_eq_some_iff.mp hNode
  have hName : NodeModel.uniformName? placed.node = some u.name := by
    rw [hHere]
    rfl
  have hOwn : d.resolve stage id uniformNameParam (.text u.name) = .text u.name := by
    rw [resolve, if_pos rfl, h.uniformNameFor_own hPlaced hName]
  have hApply := StandardNode.applyParam_own_name (h.isName_of_placed hPlaced hName)
  have hSame (n : PlacedNode StandardNode) (hFound : d.placed? stage id = some n) :
      ({ n with node := NodeModel.bind d.mode stage (StandardNode.uniform u) }.prune).node = n.node := by
    cases hFound.symm.trans hPlaced
    exact hHere.symm
  refine ⟨_, setParam_eq_ok_iff.mpr ⟨.uniform u, hNode, .uniform u, by rw [hOwn, hApply], rfl⟩, ?_, ?_⟩
  · exact node?_withGraph_of_same (g := StageGraph.pruneEdges _ id) rfl hSame
  · exact uniformNames_withGraph_of_same (g := StageGraph.pruneEdges _ id) rfl hSame none

/-- In every reachable design the names of the uniforms of all stages are distinct, each is a letter followed by
letters, digits and underscores, and a uniform that is given the name it has keeps it, as do all others. -/
theorem uniform_names_unique_and_stable (hReachable : d.Reachable) :
    (d.uniformNames none).Nodup ∧
    (∀ name ∈ d.uniformNames none, UniformName.IsName name) ∧
    ∀ stage id value, d.param? stage id uniformNameParam = some value →
      ∃ d', d.setParam stage id uniformNameParam value = .ok d' ∧
        (∀ stage' id', d'.node? stage' id' = d.node? stage' id') ∧ d'.uniformNames none = d.uniformNames none := by
  have hRegular := hReachable.nodesRegular
  refine ⟨hRegular.nodup_uniformNames none, ?_, fun stage id value => hRegular.setParam_own_name⟩
  intro name hMem
  obtain ⟨stage, id, n, hPlaced, -, hName⟩ := mem_uniformNames_iff.mp hMem
  exact hRegular.isName_of_placed hPlaced hName

/-- Three uniforms that want the same name, the last of them by a parameter. -/
def namesakes : Design StandardNode :=
  (empty .spatial).edited
    [.add .vertex 2 .origin (.uniform (.value ⟨.scalar, "my mask"⟩)),
      .add .fragment 2 .origin (.uniform (.texture { triplanar := false, name := "my_mask" })),
      .add .light 2 .origin (.uniform (.cubeMap {})),
      .setParam .light 2 uniformNameParam (.text "9 my mask2")]

theorem uniform_names_unique_and_stable_namesakes :
    namesakes.Reachable ∧ namesakes.uniformNames none = ["my_mask", "my_mask2", "my_mask3"] ∧
      ∃ d', namesakes.setParam .light 2 uniformNameParam (.text "my_mask3") = .ok d' ∧
        d'.uniformNames none = ["my_mask", "my_mask2", "my_mask3"] := by
  have hReachable : namesakes.Reachable := .edited (.new .spatial) (by decide)
  have hNames : namesakes.uniformNames none = ["my_mask", "my_mask2", "my_mask3"] := by decide +kernel
  have hHeld : namesakes.param? .light 2 uniformNameParam = some (.text "my_mask3") := by decide +kernel
  obtain ⟨-, -, hAgain⟩ := uniform_names_unique_and_stable hReachable
  obtain ⟨d', hSet, -, hSame⟩ := hAgain .light 2 _ hHeld
  exact ⟨hReachable, hNames, d', hSet, hSame.trans hNames⟩

end Design

end ShadeGraph
