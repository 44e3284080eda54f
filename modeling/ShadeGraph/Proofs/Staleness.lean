import ShadeGraph.Document.Load
import ShadeGraph.Editor
import ShadeGraph.Proofs.Likeness

/-!
# The last compile is never out of date

An edit that does not outdate the last compile changes nothing that a compile reads. So along every run of
what users do with an editor, a shader that is not stale is the shader of the design.
-/

namespace ShadeGraph

variable {ν : Type} [NodeModel ν]

namespace Design

omit [NodeModel ν] in
theorem withGraph_graph (d : Design ν) (stage : Stage) : d.withGraph stage (d.graph stage) = d := by
  have hStages : d.stages.set stage (d.stages.get stage) = d.stages := by cases stage <;> rfl
  rw [withGraph, graph, hStages]

omit [NodeModel ν] in
theorem clearDefault_eq_self {d : Design ν} {stage : Stage} {id : NodeId} {port : Nat}
    (h : (d.placed? stage id).any (·.overrides.contains port) = false) : d.clearDefault stage id port = d := by
  have hModify : (d.graph stage).modify id (fun n => { n with overrides := n.overrides.erase port }) =
      d.graph stage := by
    rw [StageGraph.modify, Table.modify, Table.mapValues_eq_self]
    intro id' n hEntry
    split
    · rename_i hId
      subst hId
      have hPlaced : d.placed? stage id' = some n := Table.get?_eq_some_iff.mpr hEntry
      rw [hPlaced, Option.any_some] at h
      have hAbsent : port ∉ n.overrides.keys := fun hMem => by simp [Table.contains_iff.mpr hMem] at h
      rw [Table.erase_eq_self hAbsent]
    · rfl
  rw [clearDefault, hModify, withGraph_graph]

omit [NodeModel ν] in
theorem disconnect_eq_self {d : Design ν} {stage : Stage} {e : Edge}
    (h : (d.graph stage).edges.contains e = false) : d.disconnect stage e = d := by
  have hAbsent : e ∉ (d.graph stage).edges := by simpa using h
  rw [disconnect, StageGraph.disconnect, List.erase_of_not_mem hAbsent, withGraph_graph]

omit [NodeModel ν] in
theorem clearOption_eq_self {d : Design ν} {group : String} (h : d.settings.options.contains group = false) :
    d.clearOption group = d := by
  have hAbsent : group ∉ d.settings.options.keys := fun hMem => by simp [Table.contains_iff.mpr hMem] at h
  rw [clearOption, Table.erase_eq_self hAbsent]

/-- A position is not read by a compile. -/
theorem alike_move (d : Design ν) (stage : Stage) (id : NodeId) (position : Position) :
    d.Alike (d.withGraph stage ((d.graph stage).modify id fun n => { n with position })) where
  mode := rfl
  settings := rfl
  graph stage' := by
    rw [graph_withGraph]
    split
    · rename_i hStage
      subst hStage
      refine ⟨rfl, fun id' n => if id' = id then { n with position } else n, rfl, ?_⟩
      intro id' n _
      dsimp only
      split <;> exact ⟨.refl _, rfl⟩
    · exact ⟨rfl, fun _ n => n, (Table.mapValues_eq_self fun _ _ _ => rfl).symm, fun _ n _ => ⟨.refl _, rfl⟩⟩

end Design

omit [NodeModel ν] in
theorem RenderSettings.toggle_eq_self {r : RenderSettings} {flag : String} {on : Bool}
    (h : r.flags.contains flag = on) : (if on then r.enable flag else r.disable flag) = r := by
  cases on with
  | true =>
    rw [if_pos rfl, enable, if_pos (List.contains_iff_mem.mp h)]
  | false =>
    have hAbsent : flag ∉ r.flags := by simpa using h
    rw [if_neg Bool.false_ne_true, disable, List.erase_of_not_mem hAbsent]

/-- An edit that does not outdate the last compile leaves it as it was. -/
theorem Edit.compile_eq_of_not_outdates {d d' : Design ν} {edit : Edit ν} (h : edit.apply d = .ok d')
    (hOutdates : edit.outdates d = false) : d'.compile = d.compile := by
  cases edit with
  | setMode mode =>
    cases h
    have hMode : mode = d.mode := by simpa [outdates] using hOutdates
    rw [Design.setMode, if_pos hMode]
  | move stage id position =>
    obtain ⟨-, rfl⟩ := Design.move_eq_ok_iff.mp h
    exact (d.alike_move stage id position).compile_eq
  | clearDefault stage id port =>
    cases h
    rw [Design.clearDefault_eq_self hOutdates]
  | disconnect stage e =>
    cases h
    rw [Design.disconnect_eq_self hOutdates]
  | clearOption group =>
    cases h
    rw [Design.clearOption_eq_self hOutdates]
  | setFlag flag on =>
    obtain ⟨-, rfl⟩ := Design.setFlag_eq_ok_iff.mp h
    have hSame : d.settings.flags.contains flag = on := by simpa [outdates] using hOutdates
    rw [RenderSettings.toggle_eq_self hSame]
  | scroll offset =>
    cases h
    rfl
  | add | remove | setParam | setDefault | connect | setOption => cases hOutdates

/-- What users do with an editor. -/
inductive Action (ν : Type)
  | edit (edit : Edit ν)
  | load (text : String)
  | shader
  | compile
  | preview (stage : Stage) (id : NodeId) (port : Nat)

namespace Editor

/-- The editor after an action: an edit or a load that fails changes nothing, a load that succeeds makes a
new editor, and a preview is made without one. -/
def perform [HasTerminal ν] (registry : Registry ν) (e : Editor ν) : Action ν → Editor ν
  | .edit edit => match e.apply edit with
    | .ok e' => e'
    | .error _ => e
  | .load text => match Design.load registry text with
    | .ok design => { design }
    | .error _ => e
  | .shader => e.shader.2
  | .compile => e.compile.2
  | .preview _ _ _ => e

/-- A shader that is not stale is the one of the design. -/
def UpToDate (e : Editor ν) : Prop := e.stale = false → e.last? = some e.design.compile

theorem upToDate_new (design : Design ν) : UpToDate { design } := by
  intro hStale
  cases hStale

theorem upToDate_compile (e : Editor ν) : UpToDate e.compile.2 := fun _ => rfl

theorem UpToDate.apply {e e' : Editor ν} {edit : Edit ν} (h : e.UpToDate) (hApply : e.apply edit = .ok e') :
    e'.UpToDate := by
  simp only [Editor.apply, Except.bind_eq_ok_iff, Except.pure_eq_ok_iff] at hApply
  obtain ⟨design, hEdit, rfl⟩ := hApply
  intro hStale
  simp only [Bool.or_eq_false_iff] at hStale
  change e.last? = some design.compile
  rw [h hStale.1, edit.compile_eq_of_not_outdates hEdit hStale.2]

theorem shader_cases (e : Editor ν) :
    (∃ last, e.stale = false ∧ e.last? = some last ∧ e.shader = (last, e)) ∨ e.shader = e.compile := by
  rw [shader]
  split
  · rename_i last hStale hLast
    exact .inl ⟨last, hStale, hLast, rfl⟩
  · exact .inr rfl

theorem UpToDate.perform [HasTerminal ν] (registry : Registry ν) {e : Editor ν} (h : e.UpToDate)
    (action : Action ν) : (e.perform registry action).UpToDate := by
  cases action with
  | edit edit =>
    simp only [Editor.perform]
    split
    · rename_i e' hApply
      exact h.apply hApply
    · exact h
  | load text =>
    simp only [Editor.perform]
    split
    · rename_i design _
      exact upToDate_new design
    · exact h
  | shader =>
    rcases e.shader_cases with ⟨last, -, -, hShader⟩ | hShader
    · simpa only [Editor.perform, hShader] using h
    · simpa only [Editor.perform, hShader] using e.upToDate_compile
  | compile => exact e.upToDate_compile
  | preview stage id port => exact h

theorem UpToDate.run [HasTerminal ν] (registry : Registry ν) {e : Editor ν} (h : e.UpToDate)
    (actions : List (Action ν)) : (actions.foldl (Editor.perform registry) e).UpToDate := by
  induction actions generalizing e with
  | nil => exact h
  | cons action rest ih => exact ih (h.perform registry action)

theorem UpToDate.shader_eq {e : Editor ν} (h : e.UpToDate) : e.shader.1 = e.design.compile := by
  rcases e.shader_cases with ⟨last, hStale, hLast, hShader⟩ | hShader
  · have hSame : some last = some e.design.compile := hLast.symm.trans (h hStale)
    rw [hShader]
    exact Option.some.inj hSame
  · rw [hShader]
    rfl

/-- After every run of actions, a shader that is not stale is the one of the design, and so is the one that
the editor hands out. -/
theorem shader_upToDate_after_actions [HasTerminal ν] (registry : Registry ν) (mode : Mode)
    (actions : List (Action ν)) :
    let e := actions.foldl (perform registry) { design := Design.empty mode }
    (e.stale = false → e.last? = some e.design.compile) ∧ e.shader.1 = e.design.compile := by
  intro e
  have hUpToDate : e.UpToDate := UpToDate.run registry (upToDate_new _) actions
  exact ⟨hUpToDate, hUpToDate.shader_eq⟩

end Editor

end ShadeGraph
