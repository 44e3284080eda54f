import ShadeGraph.Proofs.BagOrder
import ShadeGraph.Proofs.Integrity

/-!
# Which kinds may be added

The kinds that may stand in a place are listed by looking at fresh nodes, and a node that is added is looked at with the
parameters it got. Both agree, since no parameter changes where a node may stand, and a new node that is a uniform
always gets a name.
-/

namespace ShadeGraph

namespace StandardNode

theorem isPermitted_fresh (n : StandardNode) : n.fresh.isPermitted = n.isPermitted := by
  cases n with
  | function n => cases n <;> rfl
  | logic n => cases n <;> rfl
  | uniform n => cases n <;> rfl
  | _ => rfl

theorem fresh_applyAll {n m : StandardNode} {bag : List (String × ParamValue)} (h : NodeModel.applyAll n bag = .ok m) :
    m.fresh = n.fresh := by
  refine Except.foldlM_induction (P := fun m => m.fresh = n.fresh) ?_ rfl h
  intro x _ s s' hFresh hApply
  exact (fresh_applyParam hApply).trans hFresh

/-- A prototype is found under its kind, so no other has the same kind. -/
theorem find?_of_mem_prototypes {n : StandardNode} (h : n ∈ prototypes) : Command.registry.find? n.kind = some n := by
  rw [registry_find?_kind (isUser_of_mem_prototypes h).isTerminal, fresh_of_mem_prototypes n h]

theorem exists_prototype_of_instantiate {kind : String} {bag : ParamBag} {n : StandardNode}
    (h : Command.registry.instantiate kind bag = .ok n) : n.fresh ∈ prototypes ∧ n.fresh.kind = kind := by
  rw [Registry.instantiate] at h
  cases hFind : Command.registry.find? kind with
  | none =>
    rw [hFind] at h
    cases h
  | some start =>
    rw [hFind, Except.mapError_eq_ok_iff] at h
    have hMem : start ∈ prototypes := List.mem_of_find?_eq_some hFind
    have hKind := List.find?_some hFind
    rw [fresh_applyAll h, fresh_of_mem_prototypes start hMem]
    exact ⟨hMem, of_decide_eq_true hKind⟩

theorem isPermitted_iff_listed {kind : String} {bag : ParamBag} {n : StandardNode}
    (h : Command.registry.instantiate kind bag = .ok n) (mode : Mode) (stage : Stage) :
    n.isPermitted mode stage = true ↔ kind ∈ (Command.registry.permitted mode stage).map NodeModel.kind := by
  obtain ⟨hMem, rfl⟩ := exists_prototype_of_instantiate h
  rw [← isPermitted_fresh, List.mem_map]
  constructor
  · intro hPermitted
    exact ⟨n.fresh, List.mem_filter.mpr ⟨hMem, hPermitted⟩, rfl⟩
  · rintro ⟨listed, hListed, hKind⟩
    obtain ⟨hListedMem, hPermitted⟩ := List.mem_filter.mp hListed
    have hFound := find?_of_mem_prototypes hListedMem
    rw [show listed.kind = n.fresh.kind from hKind, find?_of_mem_prototypes hMem] at hFound
    rw [Option.some.inj hFound]
    exact hPermitted

end StandardNode

theorem Design.exists_add_iff {d : Design StandardNode} {stage : Stage} {id : NodeId} {position : Position}
    {n : StandardNode} : (∃ d', d.add stage id position n = .ok d') ↔
      NodeId.firstUser ≤ id ∧ (d.graph stage).contains id = false ∧ NodeModel.isPermitted n d.mode stage = true := by
  constructor
  · rintro ⟨d', hAdd⟩
    obtain ⟨hUser, hFree, hPermitted, -⟩ := add_eq_ok_iff.mp hAdd
    exact ⟨hUser, hFree, hPermitted⟩
  · rintro ⟨hUser, hFree, hPermitted⟩
    obtain ⟨m, hNamed⟩ := d.exists_named (NodeModel.bind d.mode stage n)
    exact ⟨_, add_eq_ok_iff.mpr ⟨hUser, hFree, hPermitted, m, hNamed, rfl⟩⟩

namespace Editor

/-- In every design, a node of a kind, with parameters that it takes and a free number of its own, can be added to a
stage exactly if the kind is listed for the mode of the design and that stage. -/
theorem kind_added_iff_listed (e : Editor StandardNode) {stage : Stage} {kind : String} {bag : ParamBag} {id : NodeId}
    {n : StandardNode} (position : Position) (hBag : Command.registry.instantiate kind bag = .ok n)
    (hUser : NodeId.firstUser ≤ id) (hFree : (e.design.graph stage).contains id = false) :
    (∃ e', (Session.addOfKind Command.registry stage kind bag id position).exec e = (.ok (), e')) ↔
      kind ∈ (Command.registry.permitted e.design.mode stage).map NodeModel.kind := by
  have hServe (e' : Editor StandardNode) :
      (Session.addOfKind Command.registry stage kind bag id position).exec e = (.ok (), e') ↔
        ∃ d', e.design.add stage id position n = .ok d' ∧ Session.after e (.add stage id position n) d' = e' := by
    rw [Session.addOfKind, hBag]
    exact (Session.performs_add e stage id position n).exec_eq_ok_iff
  simp only [hServe]
  rw [← StandardNode.isPermitted_iff_listed hBag]
  constructor
  · rintro ⟨e', d', hAdd, -⟩
    exact (Design.exists_add_iff.mp ⟨d', hAdd⟩).2.2
  · intro hPermitted
    obtain ⟨d', hAdd⟩ := Design.exists_add_iff.mpr ⟨hUser, hFree, hPermitted⟩
    exact ⟨_, d', hAdd, rfl⟩

/-- A texture projected along the axes, whose name is that of another uniform, may stand in spatial shaders only. -/
theorem kind_added_iff_listed_triplanar :
    let masked (mode : Mode) : Editor StandardNode :=
      { design := (Design.empty mode).edited [.add .vertex 2 .origin (.uniform (.value ⟨.scalar, "mask"⟩))] }
    let adds (mode : Mode) : Prop := ∃ e', (Session.addOfKind Command.registry .fragment "texture_uniform_triplanar"
      (.ofList [("uniform_name", .text "mask")]) 2 .origin).exec (masked mode) = (.ok (), e')
    adds .spatial ∧ ¬adds .canvas := by
  intro masked adds
  have hBag : Command.registry.instantiate "texture_uniform_triplanar" (.ofList [("uniform_name", .text "mask")]) =
    .ok (.uniform (.texture { triplanar := true, name := "mask" })) := rfl
  constructor
  · exact (kind_added_iff_listed (masked .spatial) .origin hBag (by decide) rfl).mpr (by decide)
  · intro hAdds
    exact absurd ((kind_added_iff_listed (masked .canvas) .origin hBag (by decide) rfl).mp hAdds) (by decide)

end Editor

end ShadeGraph
