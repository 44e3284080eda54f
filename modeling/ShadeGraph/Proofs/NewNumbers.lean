import ShadeGraph.Proofs.Atomicity
import ShadeGraph.Proofs.Integrity

/-!
# Numbers for new nodes

A graph keeps the greatest number that any of its nodes ever had, so the next number is one that no node ever had. When
the greatest of all numbers has been used there is no next one, and the lowest free number is taken.
-/

namespace ShadeGraph

variable {ν : Type}

namespace NodeId

theorem toNat_max (a b : NodeId) : (max a b).toNat = max a.toNat b.toNat := by
  change (if a ≤ b then b else a).toNat = _
  split
  · rename_i hLe
    exact (Nat.max_eq_right (UInt32.le_iff_toNat_le.mp hLe)).symm
  · rename_i hLt
    exact (Nat.max_eq_left (Nat.le_of_not_le (mt UInt32.le_iff_toNat_le.mpr hLt))).symm

theorem toNat_le_greatest (id : NodeId) : id.toNat ≤ greatest.toNat := Nat.le_of_lt_succ id.toNat_lt

theorem toNat_ofNat_of_le {n : Nat} (h : n ≤ greatest.toNat) : (UInt32.ofNat n).toNat = n :=
  UInt32.toNat_ofNat_of_lt' (Nat.lt_succ_of_le h)

theorem toNat_add_one {id : NodeId} (h : id < greatest) : (id + 1).toNat = id.toNat + 1 := by
  rw [UInt32.toNat_add]
  exact Nat.mod_eq_of_lt (Nat.succ_lt_succ (UInt32.lt_iff_toNat_lt.mp h))

theorem eq_greatest_of_not_lt {id : NodeId} (h : ¬id < greatest) : id = greatest := by
  rw [UInt32.lt_iff_toNat_lt] at h
  exact UInt32.toNat_inj.mp (Nat.le_antisymm (toNat_le_greatest id) (Nat.not_lt.mp h))

/-- The least number for users' nodes that has a property. -/
structure IsLeastUser (P : NodeId → Prop) (id : NodeId) : Prop where
  user : firstUser ≤ id
  holds : P id
  least : ∀ other, firstUser ≤ other → P other → id ≤ other

theorem exists_isLeastUser {P : NodeId → Prop} (h : ∃ id, firstUser ≤ id ∧ P id) : ∃ id, IsLeastUser P id := by
  classical
  have hNat : ∃ n, ∃ id : NodeId, id.toNat = n ∧ firstUser ≤ id ∧ P id := by
    obtain ⟨id, hId⟩ := h
    exact ⟨id.toNat, id, rfl, hId⟩
  obtain ⟨id, hSame, hUser, hHolds⟩ := Nat.find_spec hNat
  refine ⟨id, hUser, hHolds, fun other hOther hAlso => ?_⟩
  rw [UInt32.le_iff_toNat_le, hSame]
  exact Nat.find_le ⟨other, rfl, hOther, hAlso⟩

end NodeId

namespace StageGraph

open NodeId

variable {g g' : StageGraph ν} {ever : List NodeId}

/-! ## The lowest free number -/

/-- A graph in which all users' numbers below some number are used has at least as many nodes. -/
theorem toNat_le_size_add {id : NodeId} (hUsed : ∀ other, firstUser ≤ other → other < id → g.contains other = true) :
    id.toNat ≤ g.nodes.size + firstUser.toNat := by
  let numbers := (List.range (id.toNat - firstUser.toNat)).map (· + firstUser.toNat)
  have hBelow : ∀ n ∈ numbers, firstUser.toNat ≤ n ∧ n < id.toNat := by
    intro n hMem
    obtain ⟨i, hRange, rfl⟩ := List.mem_map.mp hMem
    have hLt := List.mem_range.mp hRange
    omega
  have hNumber : ∀ n ∈ numbers, (UInt32.ofNat n).toNat = n := fun n hMem =>
    toNat_ofNat_of_le (Nat.le_of_lt (Nat.lt_of_lt_of_le (hBelow n hMem).2 (toNat_le_greatest id)))
  have hNodup : (numbers.map UInt32.ofNat).Nodup := by
    refine List.Nodup.map_on ?_ (List.nodup_range.map fun i j hSame => Nat.add_right_cancel hSame)
    intro m hm n hn hSame
    rw [← hNumber m hm, hSame, hNumber n hn]
  have hSubset : numbers.map UInt32.ofNat ⊆ g.nodes.keys := by
    intro other hMem
    obtain ⟨n, hn, rfl⟩ := List.mem_map.mp hMem
    refine Table.contains_iff.mp (hUsed _ ?_ ?_)
    · rw [UInt32.le_iff_toNat_le, hNumber n hn]
      exact (hBelow n hn).1
    · rw [UInt32.lt_iff_toNat_lt, hNumber n hn]
      exact (hBelow n hn).2
  have hLength := (hNodup.subperm hSubset).length_le
  rw [List.length_map, List.length_map, List.length_range, Table.keys, List.length_map] at hLength
  exact Nat.sub_le_iff_le_add.mp hLength

theorem lowestFree?_eq_some {id : NodeId} (h : IsLeastUser (fun id => g.contains id = false) id) :
    g.lowestFree? = some id := by
  have hUser := UInt32.le_iff_toNat_le.mp h.user
  have hUsed : ∀ other, firstUser ≤ other → other < id → g.contains other = true := by
    intro other hOther hLt
    by_contra hNot
    exact UInt32.not_le.mpr hLt (h.least other hOther (Bool.eq_false_iff.mpr hNot))
  have hFind : ((List.range (g.nodes.size + 1)).find? fun i => decide (i + firstUser.toNat ≤ greatest.toNat) &&
      !g.contains (UInt32.ofNat (i + firstUser.toNat))) = some (id.toNat - firstUser.toNat) := by
    rw [List.find?_range_eq_some]
    refine ⟨?_, ?_, ?_⟩
    · rw [Nat.sub_add_cancel hUser, UInt32.ofNat_toNat, h.holds]
      simpa using toNat_le_greatest id
    · have hSize := toNat_le_size_add hUsed
      exact List.mem_range.mpr (by omega)
    · intro i hBelow
      have hNumber : (UInt32.ofNat (i + firstUser.toNat)).toNat = i + firstUser.toNat :=
        toNat_ofNat_of_le (Nat.le_trans (by omega) (toNat_le_greatest id))
      have hBefore : g.contains (UInt32.ofNat (i + firstUser.toNat)) = true := by
        apply hUsed
        · rw [UInt32.le_iff_toNat_le, hNumber]
          exact Nat.le_add_left _ _
        · rw [UInt32.lt_iff_toNat_lt, hNumber]
          omega
      rw [hBefore, Bool.not_true, Bool.and_false, Bool.not_false]
  rw [lowestFree?, List.find?_map]
  change (((List.range (g.nodes.size + 1)).find? fun i => decide (i + firstUser.toNat ≤ greatest.toNat) &&
    !g.contains (UInt32.ofNat (i + firstUser.toNat))).map (· + firstUser.toNat)).map UInt32.ofNat = some id
  rw [hFind, Option.map_some, Option.map_some, Nat.sub_add_cancel hUser, UInt32.ofNat_toNat]

/-! ## The next number -/

/-- After the last of all numbers, the lowest free one comes next. -/
theorem isLeastUser_nextId_of_greatest (hLast : g.lastId = greatest)
    (hFree : ∃ id, firstUser ≤ id ∧ g.contains id = false) :
    IsLeastUser (fun id => g.contains id = false) g.nextId := by
  obtain ⟨id, hLeast⟩ := exists_isLeastUser hFree
  have hNext : g.nextId = id := by
    rw [nextId, hLast, if_neg (UInt32.lt_irrefl _), lowestFree?_eq_some hLeast]
    rfl
  rw [hNext]
  exact hLeast

/-- The numbers that nodes of a graph ever had: the last number is the greatest of them, and those in use are among
them. -/
structure Remembers (g : StageGraph ν) (ever : List NodeId) : Prop where
  last_mem : g.lastId ∈ ever
  le_last : ∀ id ∈ ever, id ≤ g.lastId
  mem : ∀ id, g.contains id = true → id ∈ ever

namespace Remembers

/-- While there is a greater number than the last one, the next number is the first that no node ever had. -/
theorem isLeastUser_nextId (h : g.Remembers ever) (hLast : g.lastId < greatest) :
    IsLeastUser (fun id => ∀ old ∈ ever, old < id) g.nextId := by
  have hNext : g.nextId.toNat = max firstUser.toNat (g.lastId.toNat + 1) := by
    rw [nextId, if_pos hLast, toNat_max, toNat_add_one hLast]
  refine ⟨?_, ?_, ?_⟩
  · rw [UInt32.le_iff_toNat_le, hNext]
    exact Nat.le_max_left _ _
  · intro old hOld
    have hLe := UInt32.le_iff_toNat_le.mp (h.le_last old hOld)
    rw [UInt32.lt_iff_toNat_lt, hNext]
    omega
  · intro other hUser hGreater
    have hLt := UInt32.lt_iff_toNat_lt.mp (hGreater g.lastId h.last_mem)
    have hFirst := UInt32.le_iff_toNat_le.mp hUser
    rw [UInt32.le_iff_toNat_le, hNext]
    omega

theorem greatest_mem_iff (h : g.Remembers ever) : greatest ∈ ever ↔ g.lastId = greatest := by
  constructor
  · intro hMem
    refine eq_greatest_of_not_lt fun hLt => ?_
    exact UInt32.not_le.mpr hLt (h.le_last greatest hMem)
  · intro hLast
    exact hLast ▸ h.last_mem

theorem nextId_free (h : g.Remembers ever) (hFree : ∃ id, firstUser ≤ id ∧ g.contains id = false) :
    firstUser ≤ g.nextId ∧ g.contains g.nextId = false := by
  by_cases hLast : g.lastId < greatest
  · have hLeast := h.isLeastUser_nextId hLast
    refine ⟨hLeast.user, Bool.eq_false_iff.mpr fun hUsed => ?_⟩
    exact UInt32.lt_irrefl _ (hLeast.holds g.nextId (h.mem g.nextId hUsed))
  · have hLeast := isLeastUser_nextId_of_greatest (eq_greatest_of_not_lt hLast) hFree
    exact ⟨hLeast.user, hLeast.holds⟩

theorem insert (h : g.Remembers ever) (id : NodeId) (n : PlacedNode ν) : (g.insert id n).Remembers (ever ++ [id]) := by
  constructor
  · change (if g.lastId ≤ id then id else g.lastId) ∈ ever ++ [id]
    split
    · exact List.mem_append_right _ (List.mem_singleton_self id)
    · exact List.mem_append_left _ h.last_mem
  · refine List.forall_mem_append.mpr ⟨fun old hOld => ?_, List.forall_mem_singleton.mpr (NodeId.le_max_right _ _)⟩
    exact UInt32.le_trans (h.le_last old hOld) (NodeId.le_max_left _ _)
  · intro other hUsed
    obtain ⟨m, hPlaced⟩ := contains_iff.mp hUsed
    rw [placed?_insert] at hPlaced
    split at hPlaced
    · rename_i hSame
      exact List.mem_append_right _ (List.mem_singleton.mpr hSame)
    · exact List.mem_append_left _ (h.mem other (contains_iff.mpr ⟨m, hPlaced⟩))

/-- A number is remembered when its node is gone. -/
theorem erase (h : g.Remembers ever) (id : NodeId) : (g.erase id).Remembers ever := by
  refine ⟨h.last_mem, h.le_last, fun other hUsed => h.mem other ?_⟩
  obtain ⟨m, hPlaced⟩ := contains_iff.mp hUsed
  rw [placed?_erase] at hPlaced
  split at hPlaced
  · cases hPlaced
  · exact contains_iff.mpr ⟨m, hPlaced⟩

theorem of_ids_eq (h : g.Remembers ever) (hLast : g'.lastId = g.lastId) (hIds : g'.ids = g.ids) :
    g'.Remembers ever := by
  refine ⟨hLast ▸ h.last_mem, hLast ▸ h.le_last, fun id hUsed => h.mem id ?_⟩
  have hId : id ∈ g'.ids := Table.contains_iff.mp hUsed
  rw [hIds] at hId
  exact Table.contains_iff.mpr hId

end Remembers

end StageGraph

/-! ## Edits and loads -/

namespace Edit

/-- The number that an edit gives to a new node of a stage. -/
def newIds (stage : Stage) : Edit ν → List NodeId
  | .add stage' id _ _ => if stage' = stage then [id] else []
  | _ => []

/-- What an edit does to the numbers of a stage. -/
inductive Renumbers (edit : Edit ν) (stage : Stage) (g g' : StageGraph ν) : Prop
  | inserts (id : NodeId) (n : PlacedNode ν) (hNew : edit.newIds stage = [id]) (hFree : g.contains id = false)
      (hGraph : g' = g.insert id n)
  | removes (id : NodeId) (hEdit : edit = .remove stage id) (hGraph : g' = g.erase id)
  | keeps (hNew : edit.newIds stage = []) (hLast : g'.lastId = g.lastId) (hIds : g'.ids = g.ids)

theorem renumbers_of_apply [NodeModel ν] {d d' : Design ν} {edit : Edit ν} (h : edit.apply d = .ok d')
    (stage : Stage) : edit.Renumbers stage (d.graph stage) (d'.graph stage) := by
  -- an edit at one node, or at the edges, of a stage
  have hKeeps {stage' : Stage} {g : StageGraph ν} (hNew : edit.newIds stage = [])
      (hLast : g.lastId = (d.graph stage').lastId) (hIds : g.ids = (d.graph stage').ids) :
      edit.Renumbers stage (d.graph stage) ((d.withGraph stage' g).graph stage) := by
    rw [Design.graph_withGraph]
    split
    · rename_i hStage
      subst hStage
      exact .keeps hNew hLast hIds
    · exact .keeps hNew rfl rfl
  cases edit with
  | add stage' id position n =>
    obtain ⟨-, hFree, -, m, -, rfl⟩ := Design.add_eq_ok_iff.mp h
    rw [Design.graph_withGraph]
    split
    · rename_i hStage
      subst hStage
      exact .inserts id _ (if_pos rfl) hFree rfl
    · rename_i hStage
      exact .keeps (if_neg (Ne.symm hStage)) rfl rfl
  | remove stage' id =>
    obtain ⟨-, -, rfl⟩ := Design.remove_eq_ok_iff.mp h
    rw [Design.graph_withGraph]
    split
    · rename_i hStage
      subst hStage
      exact .removes id rfl rfl
    · exact .keeps rfl rfl rfl
  | setMode mode =>
    cases h
    rw [Design.setMode]
    split
    · exact .keeps rfl rfl rfl
    · refine .keeps rfl ?_ ?_
      · simp [Design.graph, Design.rebind]
      · simp [Design.graph, Design.rebind, StageGraph.ids]
  | move stage' id position =>
    obtain ⟨-, rfl⟩ := Design.move_eq_ok_iff.mp h
    exact hKeeps rfl rfl (Table.keys_modify _ _ _)
  | setParam stage' id name value =>
    obtain ⟨n, -, m, -, rfl⟩ := Design.setParam_eq_ok_iff.mp h
    exact hKeeps rfl rfl (Table.keys_modify _ _ _)
  | setDefault stage' id port value =>
    obtain ⟨-, -, rfl⟩ := Design.setDefault_eq_ok_iff.mp h
    exact hKeeps rfl rfl (Table.keys_modify _ _ _)
  | clearDefault stage' id port =>
    cases h
    exact hKeeps rfl rfl (Table.keys_modify _ _ _)
  | connect stage' e =>
    obtain ⟨g, hConnect, rfl⟩ := Design.connect_eq_ok_iff.mp h
    obtain ⟨-, rfl⟩ := StageGraph.connect_eq_ok_iff.mp hConnect
    exact hKeeps rfl rfl rfl
  | disconnect stage' e =>
    cases h
    exact hKeeps rfl rfl rfl
  | setOption group option =>
    obtain ⟨-, rfl⟩ := Design.setOption_eq_ok_iff.mp h
    exact .keeps rfl rfl rfl
  | setFlag flag on =>
    obtain ⟨-, rfl⟩ := Design.setFlag_eq_ok_iff.mp h
    exact .keeps rfl rfl rfl
  | clearOption | scroll =>
    cases h
    exact .keeps rfl rfl rfl

end Edit

namespace Design

theorem remembers_apply [NodeModel ν] {d d' : Design ν} {edit : Edit ν} {stage : Stage} {ever : List NodeId}
    (h : (d.graph stage).Remembers ever) (hApply : edit.apply d = .ok d') :
    (d'.graph stage).Remembers (ever ++ edit.newIds stage) := by
  cases Edit.renumbers_of_apply hApply stage with
  | inserts id n hNew _ hGraph =>
    rw [hGraph, hNew]
    exact h.insert id n
  | removes id hEdit hGraph =>
    rw [hGraph, hEdit]
    simpa [Edit.newIds] using h.erase id
  | keeps hNew hLast hIds =>
    rw [hNew, List.append_nil]
    exact h.of_ids_eq hLast hIds

/-- As long as no node is removed, the numbers in use are all that there ever were. -/
theorem remembers_ids_loadStep {d d' : Design StandardNode} {stage : Stage}
    (h : (d.graph stage).Remembers (d.graph stage).ids) (hStep : LoadStep d d') :
    (d'.graph stage).Remembers (d'.graph stage).ids := by
  cases hStep with
  | edit edit _ hKeeps hApply =>
    have hAll := remembers_apply h hApply
    cases Edit.renumbers_of_apply hApply stage with
    | inserts id n hNew hFree hGraph =>
      have hAbsent : id ∉ (d.graph stage).nodes.keys := fun hMem => by
        rw [StageGraph.contains, Table.contains_iff.mpr hMem] at hFree
        cases hFree
      have hIds : (d'.graph stage).ids = (d.graph stage).ids ++ [id] := by
        rw [hGraph]
        exact Table.keys_insert_of_not_mem n hAbsent
      rwa [hIds, ← hNew]
    | removes id hEdit _ =>
      rw [hEdit] at hKeeps
      exact hKeeps.elim
    | keeps hNew _ hIds => rwa [hNew, List.append_nil, ← hIds] at hAll
  | join stage' e _ hJoin =>
    obtain ⟨g, hGraph, rfl⟩ := join_eq_ok_iff.mp hJoin
    obtain ⟨-, rfl⟩ := StageGraph.join_eq_ok_iff.mp hGraph
    rw [graph_withGraph]
    split
    · rename_i hStage
      subst hStage
      exact h.of_ids_eq rfl rfl
    · exact h

theorem remembers_ids_empty (mode : Mode) (stage : Stage) :
    ((empty mode : Design StandardNode).graph stage).Remembers
      ((empty mode : Design StandardNode).graph stage).ids := by
  have hGraph : (empty mode : Design StandardNode).graph stage = .empty mode stage := PerStage.get_ofFn _ stage
  have hIds : (StageGraph.empty mode stage : StageGraph StandardNode).ids = [.output] := rfl
  rw [hGraph, hIds]
  refine ⟨List.mem_singleton_self _, List.forall_mem_singleton.mpr (UInt32.le_refl _), fun id hUsed => ?_⟩
  exact hIds ▸ Table.contains_iff.mp hUsed

theorem remembers_ids_of_load {d : Design StandardNode} {text : String} (h : load Command.registry text = .ok d)
    (stage : Stage) : (d.graph stage).Remembers (d.graph stage).ids := by
  obtain ⟨mode, hSteps⟩ := loadSteps_of_load h
  clear h
  induction hSteps with
  | refl => exact remembers_ids_empty mode stage
  | tail _ hStep ih => exact remembers_ids_loadStep ih hStep

/-- Under a free number of its own a node is refused only where its kind may not stand. -/
theorem cause_of_add {d : Design StandardNode} {stage : Stage} {id : NodeId} {position : Position} {n : StandardNode}
    {cause : GraphError} (hUser : NodeId.firstUser ≤ id) (hFree : (d.graph stage).contains id = false)
    (h : d.add stage id position n = .error cause) : cause = .notPermitted (NodeModel.kind n) d.mode := by
  obtain ⟨m, hNamed⟩ := d.exists_named (NodeModel.bind d.mode stage n)
  rw [add] at h
  dsimp only at h
  rw [if_neg (UInt32.not_lt.mpr hUser), hFree, if_neg Bool.false_ne_true, hNamed] at h
  split at h
  · cases h
    rfl
  · cases h

end Design

/-! ## Runs -/

namespace Editor

open NodeId

/-- The numbers that nodes of a stage ever had, after one more action. They are counted anew from a load on. -/
def remember [NodeModel ν] [HasTerminal ν] (registry : Registry ν) (stage : Stage) (e : Editor ν) (ever : List NodeId) :
    Action ν → List NodeId
  | .edit edit => match e.apply edit with
    | .ok _ => ever ++ edit.newIds stage
    | .error _ => ever
  | .load text => match Design.load registry text with
    | .ok design => (design.graph stage).ids
    | .error _ => ever
  | .shader | .compile | .preview _ _ _ => ever

/-- The numbers that nodes of a stage ever had, after a run of actions. -/
def everIds [NodeModel ν] [HasTerminal ν] (registry : Registry ν) (stage : Stage) :
    Editor ν → List NodeId → List (Action ν) → List NodeId
  | _, ever, [] => ever
  | e, ever, action :: rest =>
    everIds registry stage (e.perform registry action) (e.remember registry stage ever action) rest

variable {e : Editor StandardNode} {stage : Stage} {ever : List NodeId}

theorem remembers_perform (h : (e.design.graph stage).Remembers ever) (action : Action StandardNode) :
    ((e.perform Command.registry action).design.graph stage).Remembers
      (e.remember Command.registry stage ever action) := by
  cases action with
  | edit edit =>
    rw [perform, remember]
    cases hApply : e.apply edit with
    | ok e' =>
      simp only [Editor.apply, Except.bind_eq_ok_iff, Except.pure_eq_ok_iff] at hApply
      obtain ⟨design, hEdit, rfl⟩ := hApply
      exact Design.remembers_apply h hEdit
    | error => exact h
  | load text =>
    rw [perform, remember]
    cases hLoad : Design.load Command.registry text with
    | ok design => exact Design.remembers_ids_of_load hLoad stage
    | error => exact h
  | shader =>
    simp only [perform, remember, design_shader]
    exact h
  | compile => exact h
  | preview => exact h

theorem remembers_run (h : (e.design.graph stage).Remembers ever) (actions : List (Action StandardNode)) :
    ((actions.foldl (perform Command.registry) e).design.graph stage).Remembers
      (e.everIds Command.registry stage ever actions) := by
  induction actions generalizing e ever with
  | nil => exact h
  | cons action rest ih => exact ih (remembers_perform h action)

/-- After every run of edits and loads, if a number from 2 on is free in a stage, the next number is one, and a node
that is added under it can be refused for its kind only, not for its number. Until the greatest number is given to a
node, the next one is the first after all that nodes of the stage ever had; from then on it is the lowest free one. -/
theorem next_id_fresh_after_actions (mode : Mode) (actions : List (Action StandardNode)) (stage : Stage) :
    let start : Editor StandardNode := { design := Design.empty mode }
    let e := actions.foldl (perform Command.registry) start
    let g := e.design.graph stage
    let ever := start.everIds Command.registry stage (start.design.graph stage).ids actions
    (∃ id, firstUser ≤ id ∧ g.contains id = false) →
      (firstUser ≤ g.nextId ∧ g.contains g.nextId = false) ∧
      (∀ position n cause e', (Session.add stage g.nextId position n).exec e = (.error cause, e') →
        cause = .notPermitted (NodeModel.kind n) e.design.mode) ∧
      (greatest ∉ ever → IsLeastUser (fun id => ∀ old ∈ ever, old < id) g.nextId) ∧
      (greatest ∈ ever → IsLeastUser (fun id => g.contains id = false) g.nextId) := by
  intro start e g ever hFree
  have hRemembers : g.Remembers ever := remembers_run (Design.remembers_ids_empty mode stage) actions
  obtain ⟨hUser, hNew⟩ := hRemembers.nextId_free hFree
  refine ⟨⟨hUser, hNew⟩, ?_, ?_, ?_⟩
  · intro position n cause e' hFails
    exact Design.cause_of_add hUser hNew ((Session.performs_add e stage g.nextId position n).error_of_fails hFails)
  · intro hNever
    refine hRemembers.isLeastUser_nextId (by_contra fun hLast => hNever ?_)
    exact hRemembers.greatest_mem_iff.mpr (eq_greatest_of_not_lt hLast)
  · intro hOnce
    exact StageGraph.isLeastUser_nextId_of_greatest (hRemembers.greatest_mem_iff.mp hOnce) hFree

/-- A number that is in use is refused, and the highest one is given back. -/
def givingBack : List (Action StandardNode) :=
  let n : StandardNode := .constant (.boolean true)
  [.edit (.add .fragment 7 .origin n), .edit (.add .fragment 7 .origin n), .edit (.add .fragment 2 .origin n),
   .edit (.remove .fragment 7)]

/-- The same, with the greatest number of all. -/
def givingBackGreatest : List (Action StandardNode) :=
  givingBack ++
    [.edit (.add .fragment greatest .origin (.constant (.boolean true))), .edit (.remove .fragment greatest)]

theorem next_id_fresh_after_actions_giving_back :
    let run (actions : List (Action StandardNode)) : StageGraph StandardNode :=
      (actions.foldl (perform Command.registry) { design := Design.empty .spatial }).design.graph .fragment
    (IsLeastUser (fun id => ∀ old ∈ [NodeId.output, 7, 2], old < id) (run givingBack).nextId ∧
      (run givingBack).nextId = 8) ∧
    IsLeastUser (fun id => (run givingBackGreatest).contains id = false) (run givingBackGreatest).nextId ∧
      (run givingBackGreatest).nextId = 3 :=
  ⟨⟨(next_id_fresh_after_actions .spatial givingBack .fragment ⟨3, by decide, by decide⟩).2.2.1 (by decide), by decide⟩,
    (next_id_fresh_after_actions .spatial givingBackGreatest .fragment ⟨3, by decide, by decide⟩).2.2.2 (by decide),
    by decide⟩

end Editor

end ShadeGraph
