import ShadeGraph.Proofs.Staleness
import ShadeGraph.Session

/-!
# A failed edit leaves no trace

Edits in place write their changes one by one, and setting a parameter can still fail after its first write. All the
same they end as edits on values do, and one that fails leaves the editor as it found it.
-/

namespace ShadeGraph

namespace InPlace

variable {σ τ ε ε' α β : Type} {s : σ} {write : α → σ}

/-- What a program does at a state is what a result says: it ends in the state that `write` makes of the result, or
it fails as the result does and leaves the state as it was. -/
def Performs (p : InPlace σ ε Unit) (s : σ) (result : Except ε α) (write : α → σ) : Prop :=
  p.exec s = match result with
    | .ok a => (.ok (), write a)
    | .error e => (.error e, s)

theorem performs_writes {p : InPlace σ ε Unit} {a : α} (h : p.exec s = (.ok (), write a)) :
    Performs p s (.ok a) write := h

/-- A state that is found whole is written at once. -/
theorem performs_replace (x : Except ε σ) (s : σ) : Performs (liftM x >>= set) s x id := by
  cases x <;> rfl

namespace Performs

theorem get {f : σ → InPlace σ ε Unit} {x : Except ε α} (h : Performs (f s) s x write) :
    Performs (MonadState.get >>= f) s x write := h

/-- A check reads only, so the program goes on at the same state. -/
theorem check {y : Except ε β} {f : β → InPlace σ ε Unit} {g : β → Except ε α}
    (h : ∀ b, y = .ok b → Performs (f b) s (g b) write) : Performs (liftM y >>= f) s (y >>= g) write := by
  cases y with
  | ok b => exact h b rfl
  | error e => rfl

theorem refuse {c : Prop} [Decidable c] {e : ε} {f : Unit → InPlace σ ε Unit} {g : Unit → Except ε α}
    (h : ¬c → Performs (f ()) s (g ()) write) :
    Performs (if c then throw e >>= f else f ()) s (if c then throw e >>= g else g ()) write := by
  split_ifs with hRefused
  · rfl
  · exact h hRefused

/-- After a write nothing may fail. -/
theorem andThen {p q : InPlace σ ε Unit} {x : Except ε α} {write' : α → σ} (hFirst : Performs p s x write)
    (hThen : ∀ a, x = .ok a → q.exec (write a) = (.ok (), write' a)) :
    Performs (p >>= fun _ => q) s x write' := by
  unfold Performs at hFirst ⊢
  rw [exec_bind, hFirst]
  cases x with
  | ok a => exact hThen a rfl
  | error e => rfl

/-- A part that is put back as it was leaves the whole as it was. -/
theorem onPart {p : InPlace τ ε Unit} {part : τ} {x : Except ε α} {writePart : α → τ}
    (h : Performs p part x writePart) (putBack : τ → σ → σ) (hBack : putBack part s = s) (wrap : ε → ε') :
    Performs (InPlace.onPart part putBack wrap p) s (x.mapError wrap) fun a => putBack (writePart a) s := by
  unfold Performs at h ⊢
  rw [InPlace.onPart, h]
  cases x with
  | ok a => rfl
  | error e =>
    change (_, putBack part s) = _
    rw [hBack]
    rfl

theorem result {p : InPlace σ ε Unit} {x : Except ε β} {f : β → α} (h : Performs p s x fun b => write (f b)) :
    Performs p s (x >>= fun b => pure (f b)) write := by
  cases x <;> exact h

theorem eq_of_fails {p : InPlace σ ε Unit} {s' : σ} {x : Except ε α} {e : ε} (h : Performs p s x write)
    (hFails : p.exec s = (.error e, s')) : s' = s := by
  rw [h] at hFails
  cases x with
  | ok a => cases hFails
  | error e' => exact (Prod.mk.inj hFails).2.symm

theorem error_of_fails {p : InPlace σ ε Unit} {s' : σ} {x : Except ε α} {e : ε} (h : Performs p s x write)
    (hFails : p.exec s = (.error e, s')) : x = .error e := by
  rw [h] at hFails
  cases x with
  | ok a => cases hFails
  | error e' => rw [Except.error.inj (Prod.mk.inj hFails).1]

theorem exec_eq_ok_iff {p : InPlace σ ε Unit} {s' : σ} {x : Except ε α} (h : Performs p s x write) :
    p.exec s = (.ok (), s') ↔ ∃ a, x = .ok a ∧ write a = s' := by
  rw [h]
  cases x <;> simp

end Performs

end InPlace

open InPlace

/-! ## Parameters of a node -/

theorem ParamSlot.assign_map {ν μ : Type} (f : ν → μ) (slots : List (ParamSlot ν)) (nodeKind name : String)
    (value : ParamValue) :
    assign (slots.map (·.map f)) nodeKind name value = (assign slots nodeKind name value).map f := by
  have hFind : find? (slots.map (·.map f)) name = (find? slots name).map (·.map f) := List.find?_map
  rw [assign, assign, hFind]
  cases find? slots name <;> rfl

namespace ExpressionNode

/-- Both lists of ports are checked before either is written. -/
theorem performs_storePorts (n : ExpressionNode) (name held : String) (value : ParamValue)
    (withPorts : List LocalPort → ExpressionNode → ExpressionNode) :
    Performs (storePorts name value withPorts) n ((ParamSlot.checkedText name held fun text =>
      (LocalPort.readAll text >>= fun ports => checked (withPorts ports n)).mapError
        PortListError.message).put value) id := by
  let refused (e : PortListError) : ParamError := .invalid name e.message
  have hPut : (ParamSlot.checkedText name held fun text =>
      (LocalPort.readAll text >>= fun ports => checked (withPorts ports n)).mapError
        PortListError.message).put value =
      value.asText name >>= fun text => ((LocalPort.readAll text).mapError refused) >>= fun ports =>
        ((LocalPort.check [] ((withPorts ports n).inputs ++ (withPorts ports n).outputs)).mapError refused) >>=
          fun _ => .ok (withPorts ports n) := by
    cases value
    case text content =>
      simp only [ParamSlot.checkedText, checked, Except.mapError_mapError, Except.mapError_bind]
      rfl
    all_goals rfl
  rw [hPut, storePorts]
  refine Performs.check fun text _ => ?_
  refine Performs.check fun ports _ => ?_
  refine Performs.get ?_
  exact Performs.check fun _ _ => performs_writes rfl

theorem performs_store (n : ExpressionNode) (name : String) (value : ParamValue) :
    Performs (store name value) n (ParamSlot.assign n.slots "expression" name value) id := by
  rw [store]
  split_ifs with hInputs hOutputs hCode
  · subst hInputs
    exact performs_storePorts n "inputs" (LocalPort.writeAll n.inputs) value fun inputs n => { n with inputs }
  · subst hOutputs
    exact performs_storePorts n "outputs" (LocalPort.writeAll n.outputs) value fun outputs n => { n with outputs }
  · subst hCode
    cases value <;> rfl
  · have hFind : ParamSlot.find? n.slots name = none := by
      simp [ParamSlot.find?, slots, ParamSlot.checkedText, ParamSlot.text, Ne.symm hInputs, Ne.symm hOutputs,
        Ne.symm hCode]
    rw [ParamSlot.assign, hFind]
    rfl

end ExpressionNode

namespace StandardNode

theorem performs_store (n : StandardNode) (name : String) (value : ParamValue) :
    Performs (store name value) n (NodeModel.setParam n name value) id := by
  cases n with
  | expression n =>
    have hAssign : NodeModel.setParam (StandardNode.expression n) name value =
        (ParamSlot.assign n.slots "expression" name value).map StandardNode.expression :=
      ParamSlot.assign_map StandardNode.expression n.slots "expression" name value
    have hPart : Performs (InPlace.onPart n (fun left _ => StandardNode.expression left) id
        (ExpressionNode.store name value)) (StandardNode.expression n) _ _ :=
      (n.performs_store name value).onPart _ rfl id
    unfold Performs at hPart ⊢
    rw [hAssign]
    refine Eq.trans hPart ?_
    cases ParamSlot.assign n.slots "expression" name value <;> rfl
  | _ => exact Performs.get (performs_replace _ _)

theorem performs_storeParam (n : StandardNode) (name : String) (value : ParamValue) :
    Performs (storeParam name value) n (NodeModel.applyParam n name value) id :=
  Performs.get (Performs.check fun _ _ => n.performs_store name value)

end StandardNode

/-! ## Edits -/

namespace Session

/-- The editor after an edit that yields a design. -/
def after {ν : Type} (e : Editor ν) (edit : Edit ν) (design : Design ν) : Editor ν :=
  { e with design, stale := e.stale || edit.outdates e.design }

section

variable {ν : Type} {e : Editor ν} {edit : Edit ν}

theorem after_of_outdates (h : edit.outdates e.design = true) (design : Design ν) :
    after e edit design = { e with design, stale := true } := by
  rw [after, h, Bool.or_true]

theorem after_of_not_outdates (h : edit.outdates e.design = false) (design : Design ν) :
    after e edit design = { e with design } := by
  rw [after, h, Bool.or_false]

/-- Of two writes to a graph the second finds what the first left. -/
theorem exec_onGraph_bind (e : Editor ν) (stage : Stage) (g : StageGraph ν) (f : StageGraph ν → StageGraph ν)
    (p : Unit → Session ν Unit) :
    exec (onGraph stage f >>= p) { e with design := e.design.withGraph stage g } =
      exec (p ()) { e with design := e.design.withGraph stage (f g) } := by
  have hWritten : (e.design.withGraph stage g).withGraph stage (f ((e.design.withGraph stage g).graph stage)) =
      e.design.withGraph stage (f g) := by
    rw [Design.graph_withGraph_self, Design.withGraph_withGraph]
  exact congrArg (fun design => exec (p ()) { e with design }) hWritten

variable [NodeModel ν]

/-- An edit that cannot fail writes only if there is something to change. -/
theorem performs_change {f : Design ν → Design ν} {c : Prop} [Decidable c]
    (hApply : edit.apply e.design = .ok (f e.design)) (hChanges : c ↔ edit.outdates e.design = true)
    (hSame : edit.outdates e.design = false → f e.design = e.design) :
    Performs (if c then do onDesign f; markStale else pure ()) e (edit.apply e.design) (after e edit) := by
  rw [hApply]
  apply performs_writes
  split_ifs with hChange
  · rw [after_of_outdates (hChanges.mp hChange)]
    rfl
  · have hKept : edit.outdates e.design = false := by simpa using mt hChanges.mpr hChange
    rw [after_of_not_outdates hKept, hSame hKept]
    rfl

end

section

variable {ν : Type} [NodeModel ν] (e : Editor ν)

theorem performs_setMode (mode : Mode) :
    Performs (setMode mode) e ((Edit.setMode mode).apply e.design) (after e (.setMode mode)) := by
  refine Performs.get (performs_change rfl (by simp [Edit.outdates]) fun hSame => ?_)
  have hMode : mode = e.design.mode := by simpa [Edit.outdates] using hSame
  rw [Design.setMode, if_pos hMode]

theorem performs_clearDefault (stage : Stage) (id : NodeId) (port : Nat) :
    Performs (clearDefault stage id port) e ((Edit.clearDefault stage id port).apply e.design)
      (after e (.clearDefault stage id port)) :=
  Performs.get (performs_change (f := (·.clearDefault stage id port)) rfl Iff.rfl Design.clearDefault_eq_self)

theorem performs_disconnect (stage : Stage) (edge : Edge) :
    Performs (disconnect stage edge) e ((Edit.disconnect stage edge).apply e.design)
      (after e (.disconnect stage edge)) :=
  Performs.get (performs_change rfl Iff.rfl Design.disconnect_eq_self)

theorem performs_clearOption (group : String) :
    Performs (clearOption group) e ((Edit.clearOption group).apply e.design) (after e (.clearOption group)) :=
  Performs.get (performs_change rfl Iff.rfl Design.clearOption_eq_self)

theorem performs_add (stage : Stage) (id : NodeId) (position : Position) (n : ν) :
    Performs (add stage id position n) e ((Edit.add stage id position n).apply e.design)
      (after e (.add stage id position n)) := by
  rw [Edit.apply, Design.add, add]
  dsimp only
  refine Performs.get (Performs.refuse fun _ => Performs.refuse fun _ => Performs.refuse fun _ => ?_)
  refine Performs.check fun n _ => performs_writes ?_
  rw [after_of_outdates rfl]
  rfl

theorem performs_remove (stage : Stage) (id : NodeId) :
    Performs (remove stage id) e ((Edit.remove stage id).apply e.design) (after e (.remove stage id)) := by
  rw [Edit.apply, Design.remove, remove]
  refine Performs.refuse fun _ => Performs.get ?_
  refine Performs.check fun _ _ => performs_writes ?_
  rw [after_of_outdates rfl]
  rfl

theorem performs_move (stage : Stage) (id : NodeId) (position : Position) :
    Performs (move stage id position) e ((Edit.move stage id position).apply e.design)
      (after e (.move stage id position)) := by
  rw [Edit.apply, Design.move, move]
  refine Performs.get (Performs.check fun _ _ => performs_writes ?_)
  rw [after_of_not_outdates rfl]
  rfl

theorem performs_setDefault (stage : Stage) (id : NodeId) (port : Nat) (value : PortValue) :
    Performs (setDefault stage id port value) e ((Edit.setDefault stage id port value).apply e.design)
      (after e (.setDefault stage id port value)) := by
  rw [Edit.apply, Design.setDefault, setDefault]
  refine Performs.get (Performs.check fun n _ => Performs.check fun p _ => ?_)
  refine Performs.refuse fun _ => Performs.check fun _ _ => performs_writes ?_
  rw [after_of_outdates rfl]
  rfl

theorem performs_connect (stage : Stage) (edge : Edge) :
    Performs (connect stage edge) e ((Edit.connect stage edge).apply e.design) (after e (.connect stage edge)) := by
  have hConnect : e.design.connect stage edge = (e.design.graph stage).checkEdge stage edge >>= fun _ =>
      .ok (e.design.withGraph stage { e.design.graph stage with edges := (e.design.graph stage).edges ++ [edge] }) := by
    rw [Design.connect, StageGraph.connect, bind_assoc]
    rfl
  rw [Edit.apply, hConnect, connect]
  refine Performs.get (Performs.check fun _ _ => performs_writes ?_)
  rw [after_of_outdates rfl]
  rfl

theorem performs_setOption (group : String) (option : Nat) :
    Performs (setOption group option) e ((Edit.setOption group option).apply e.design)
      (after e (.setOption group option)) := by
  refine Performs.get ?_
  by_cases hOption : e.design.mode.hasOption group option = true
  · simp only [Edit.apply, Design.setOption, hOption, if_true, Bool.not_true, Bool.false_eq_true, if_false]
    refine performs_writes ?_
    rw [after_of_outdates rfl]
    rfl
  · simp only [Edit.apply, Design.setOption, hOption, Bool.not_false, if_true]
    rfl

theorem performs_setFlag (flag : String) (on : Bool) :
    Performs (setFlag flag on) e ((Edit.setFlag flag on).apply e.design) (after e (.setFlag flag on)) := by
  refine Performs.get ?_
  by_cases hFlag : e.design.mode.hasFlag flag = true
  · simp only [Edit.apply, Design.setFlag, hFlag, if_true, Bool.not_true, Bool.false_eq_true, if_false]
    refine performs_writes ?_
    by_cases hChange : e.design.settings.flags.contains flag ≠ on
    · rw [after_of_outdates (by simpa [Edit.outdates] using hChange), if_pos hChange]
      rfl
    · rw [after_of_not_outdates (by simpa [Edit.outdates] using hChange), if_neg hChange]
      rfl
  · simp only [Edit.apply, Design.setFlag, hFlag, Bool.not_false, if_true]
    rfl

end

theorem performs_setParam (e : Editor StandardNode) (stage : Stage) (id : NodeId) (name : String) (value : ParamValue) :
    Performs (setParam stage id name value) e ((Edit.setParam stage id name value).apply e.design)
      (after e (.setParam stage id name value)) := by
  rw [Edit.apply, Design.setParam, setParam]
  dsimp only
  refine Performs.get (Performs.check fun n hCheck => ?_)
  have hNode : (e.design.graph stage).node? id = some n := StageGraph.checkNode_eq_ok_iff.mp hCheck
  refine Performs.result (Performs.andThen ((n.performs_storeParam name _).onPart _ ?_ GraphError.param) fun m _ => ?_)
  · rw [StageGraph.modify_own_node hNode, Design.withGraph_graph]
  · rw [onPlaced, exec_onGraph_bind, onPlaced, exec_onGraph_bind, exec_onGraph_bind, StageGraph.modify_modify,
      StageGraph.modify_modify, after_of_outdates rfl]
    rfl

theorem performs_run (e : Editor StandardNode) (edit : Edit StandardNode) :
    Performs (run edit) e (edit.apply e.design) (after e edit) := by
  cases edit with
  | setMode mode => exact performs_setMode e mode
  | add stage id position n => exact performs_add e stage id position n
  | remove stage id => exact performs_remove e stage id
  | move stage id position => exact performs_move e stage id position
  | setParam stage id name value => exact performs_setParam e stage id name value
  | setDefault stage id port value => exact performs_setDefault e stage id port value
  | clearDefault stage id port => exact performs_clearDefault e stage id port
  | connect stage edge => exact performs_connect e stage edge
  | disconnect stage edge => exact performs_disconnect e stage edge
  | setOption group option => exact performs_setOption e group option
  | clearOption group => exact performs_clearOption e group
  | setFlag flag on => exact performs_setFlag e flag on
  | scroll offset =>
    refine performs_writes ?_
    rw [after_of_not_outdates rfl]
    rfl

end Session

namespace Editor

/-- What a request yields on values: a new editor or an error. -/
def serve {ν : Type} [NodeModel ν] (e : Editor ν) : Request ν → Except GraphError (Editor ν)
  | .edit edit => e.apply edit
  | .addOfKind registry stage kind bag id position => do
    let n ← registry.instantiate kind bag
    e.apply (.add stage id position n)

theorem performs_run (e : Editor StandardNode) (edit : Edit StandardNode) :
    Performs (Session.run edit) e (e.apply edit) id := by
  have hRun := Session.performs_run e edit
  unfold Performs at hRun ⊢
  rw [hRun, apply]
  cases edit.apply e.design <;> rfl

theorem performs_serve (e : Editor StandardNode) (request : Request StandardNode) :
    Performs (Session.serve request) e (e.serve request) id := by
  cases request with
  | edit edit => exact performs_run e edit
  | addOfKind registry stage kind bag id position =>
    exact Performs.check fun n _ => performs_run e (.add stage id position n)

/-- A request that fails leaves the whole editor as it was: the design, whether it is stale and the last shader. One
that succeeds leaves the editor that the request yields on values. -/
theorem failed_request_changes_nothing (e : Editor StandardNode) (request : Request StandardNode) :
    (∀ cause e', (Session.serve request).exec e = (.error cause, e') → e' = e) ∧
    ∀ e', (Session.serve request).exec e = (.ok (), e') ↔ e.serve request = .ok e' := by
  have hServe := performs_serve e request
  refine ⟨fun cause e' hFails => hServe.eq_of_fails hFails, fun e' => ?_⟩
  rw [hServe.exec_eq_ok_iff]
  simp

/-- A compiled design with an expression in its fragment stage that has an input `a`. -/
def jotted : Editor StandardNode :=
  let d : Design StandardNode := .empty .spatial
  let n : StandardNode := .expression { inputs := [⟨.scalar, "a"⟩] }
  let e : Editor StandardNode := { design := d.withGraph .fragment ((d.graph .fragment).insert 2 ⟨n, .origin, .empty⟩) }
  e.compile.2

/-- An output of the same name is read and then refused. -/
theorem failed_request_changes_nothing_jotted :
    (Session.serve (.edit (.setParam .fragment 2 "outputs" (.text "vec3 a")))).exec jotted =
      (.error (.param (.invalid "outputs" "port name `a` is used twice")), jotted) := by
  have hError : ((Session.serve (.edit (.setParam .fragment 2 "outputs" (.text "vec3 a")))).exec jotted).1 =
      .error (.param (.invalid "outputs" "port name `a` is used twice")) := by decide +kernel
  exact Prod.ext hError ((failed_request_changes_nothing jotted _).1 _ _ (Prod.ext hError rfl))

end Editor

end ShadeGraph
