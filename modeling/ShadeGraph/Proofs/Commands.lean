import ShadeGraph.Proofs.Regular

/-!
# Compiling by command

A compile switches the design it loads to the mode of the settings, and then to the mode that was asked for. Leaving a
mode drops what belongs to it, so a design that already is in the mode asked for comes back without its render settings
and its edges at input and output nodes, if the settings take it through another mode. In every other case the mode
asked for is all that counts.
-/

namespace ShadeGraph

theorem StandardNode.isBuiltin_bind (mode : Mode) (stage : Stage) (n : StandardNode) :
    Design.isBuiltin (NodeModel.bind mode stage n) = Design.isBuiltin n := by
  cases n <;> rfl

namespace Design

/-- An edge that another mode leaves alone: the ports at both its ends do not follow the mode. -/
def stays (g : StageGraph StandardNode) (e : Edge) : Bool :=
  !(g.node? e.source).any isBuiltin && !(g.node? e.target).any isBuiltin

/-! ## Two switches in a row -/

theorem stays_rebind (g : StageGraph StandardNode) (mode : Mode) (stage : Stage) :
    stays (rebind g mode stage) = stays g := by
  have hNode (id : NodeId) : ((rebind g mode stage).node? id).any isBuiltin = (g.node? id).any isBuiltin := by
    have hBind : (rebind g mode stage).node? id = (g.node? id).map (NodeModel.bind mode stage) := by
      simp only [StageGraph.node?, StageGraph.placed?, rebind, Table.get?_mapValues, Option.map_map]
      rfl
    rw [hBind]
    cases g.node? id with
    | none => rfl
    | some n => exact StandardNode.isBuiltin_bind mode stage n
  funext e
  rw [stays, stays, hNode, hNode]

theorem rebind_rebind (g : StageGraph StandardNode) (mode mode' : Mode) (stage : Stage) :
    rebind (rebind g mode' stage) mode stage = rebind g mode stage := by
  have hNodes : (rebind (rebind g mode' stage) mode stage).nodes = (rebind g mode stage).nodes := by
    apply Table.ext_entries
    simp [rebind, Table.mapValues, StandardNode.bind_bind]
  have hEdges : (rebind (rebind g mode' stage) mode stage).edges = (rebind g mode stage).edges := by
    change (g.edges.filter (stays g)).filter (stays (rebind g mode' stage)) = g.edges.filter (stays g)
    rw [stays_rebind, List.filter_filter]
    simp only [Bool.and_self]
  exact congrArg₂ (fun nodes edges => StageGraph.mk nodes edges g.lastId) hNodes hEdges

/-- What becomes of a design that is switched to a mode from another one. -/
def rebound (d : Design StandardNode) (mode : Mode) : Design StandardNode :=
  { d with mode, settings := .empty, stages := .ofFn fun stage => rebind (d.graph stage) mode stage }

/-- The design without its render settings and without the edges that another mode would not leave alone. -/
def detached (d : Design StandardNode) : Design StandardNode :=
  { d with
    settings := .empty
    stages := .ofFn fun stage => { d.graph stage with edges := (d.graph stage).edges.filter (stays (d.graph stage)) } }

variable {d : Design StandardNode}

theorem setMode_self (d : Design StandardNode) : d.setMode d.mode = d := if_pos rfl

theorem setMode_of_ne {mode : Mode} (h : mode ≠ d.mode) : d.setMode mode = d.rebound mode := if_neg h

theorem rebound_rebound (d : Design StandardNode) (mode mode' : Mode) :
    (d.rebound mode').rebound mode = d.rebound mode := by
  simp only [rebound, graph, PerStage.get_ofFn, rebind_rebind]

/-- A way through other modes than the present one ends where the last of them begins. -/
theorem setMode_setMode {mode mode' : Mode} (h : mode ≠ d.mode) : (d.setMode mode').setMode mode = d.setMode mode := by
  by_cases hOther : mode' = d.mode
  · rw [hOther, setMode_self]
  · rw [setMode_of_ne hOther, setMode_of_ne h]
    by_cases hSame : mode = mode'
    · subst hSame
      exact setMode_self (d.rebound mode)
    · exact (setMode_of_ne hSame).trans (rebound_rebound d mode mode')

theorem NodesRegular.rebound_eq_detached (h : d.NodesRegular) : d.rebound d.mode = d.detached := by
  have hGraph (stage : Stage) : rebind (d.graph stage) d.mode stage =
      { d.graph stage with edges := (d.graph stage).edges.filter (stays (d.graph stage)) } := by
    have hNodes : (rebind (d.graph stage) d.mode stage).nodes = (d.graph stage).nodes := by
      simp only [rebind]
      apply Table.mapValues_eq_self
      intro id n hEntry
      rw [h.bind_eq (Table.get?_eq_some_iff.mpr hEntry)]
    exact congrArg (fun nodes => StageGraph.mk nodes _ (d.graph stage).lastId) hNodes
  simp only [rebound, detached, hGraph]

/-- A way out of the present mode and back. -/
theorem NodesRegular.setMode_setMode_self (h : d.NodesRegular) {mode : Mode} (hOther : mode ≠ d.mode) :
    (d.setMode mode).setMode d.mode = d.detached := by
  rw [setMode_of_ne hOther, setMode_of_ne (Ne.symm hOther), rebound_rebound, h.rebound_eq_detached]

end Design

namespace Command

/-- The design is in the mode asked for, and the settings take it through another one. -/
def Detours (settings : Settings) (mode : Mode) (d : Design StandardNode) : Prop :=
  d.mode = mode ∧ ∃ other, settings.mode = some other ∧ other ≠ mode

variable {settings : Settings} {mode : Mode} {d : Design StandardNode}

theorem switch_eq_setMode (h : ¬Detours settings mode d) : switch settings (some mode) d = d.setMode mode := by
  cases hMode : settings.mode with
  | none => simp only [switch, hMode, Option.elim]
  | some other =>
    simp only [switch, hMode, Option.elim]
    by_cases hSame : d.mode = mode
    · have hOther : other = mode := by
        by_contra hNe
        exact h ⟨hSame, other, hMode, hNe⟩
      rw [hOther, ← hSame, Design.setMode_self, Design.setMode_self]
    · exact Design.setMode_setMode (Ne.symm hSame)

theorem switch_eq_detached (hRegular : d.NodesRegular) (h : Detours settings mode d) :
    switch settings (some mode) d = d.detached := by
  obtain ⟨rfl, other, hMode, hOther⟩ := h
  simp only [switch, hMode, Option.elim]
  exact hRegular.setMode_setMode_self hOther

/-! ## Runs -/

section

variable {σ : Type} {files : FileAccess (StateM σ)} {s : σ} {input text : String}

theorem run_loadDesign (hRead : (files.read input).run s = (.ok text, s)) (hLoad : Design.load registry text = .ok d) :
    (loadDesign files input).run.run s = (.ok d, s) := by
  have hAccess : (liftM (files.read input) : ExceptT CommandError (StateM σ) (Except ReadFailure String)).run.run s =
      (.ok (.ok text), s) := by
    change (Except.ok <$> files.read input).run s = _
    rw [StateT.run_map, hRead]
    rfl
  rw [loadDesign, ExceptT.run_bind, StateT.run_bind, hAccess]
  simp only [bind, hLoad]
  rfl

theorem run_compile (hRead : (files.read input).run s = (.ok text, s)) (hLoad : Design.load registry text = .ok d)
    (settings : Settings) (out? : Option String) (mode? : Option Mode) :
    (perform files settings (.compile input out? mode?)).run.run s =
      (finish files settings input out? (switch settings mode? d).compile).run.run s := by
  rw [perform, ExceptT.run_bind, StateT.run_bind, run_loadDesign hRead hLoad]
  rfl

end

/-! ## The mode that counts -/

/-- A compile that is asked for a mode does what is done with the shader of the design in that mode, whatever mode the
settings have, but for a detour: then it is the shader of the design without its render settings and without the edges
at input and output nodes. So settings that differ in their mode only do the same if both or none of them is a
detour. -/
theorem explicit_mode_decides {σ : Type} {files : FileAccess (StateM σ)} {s : σ} {input text : String}
    (hRead : (files.read input).run s = (.ok text, s)) (hLoad : Design.load registry text = .ok d)
    (settings : Settings) (mode : Mode) (out? : Option String) :
    let run (settings : Settings) := (perform files settings (.compile input out? (some mode))).run.run s
    (¬Detours settings mode d → run settings = (finish files settings input out? (d.setMode mode).compile).run.run s) ∧
      (Detours settings mode d → run settings = (finish files settings input out? d.detached.compile).run.run s) ∧
      ∀ mode? : Option Mode, (Detours settings mode d ↔ Detours { settings with mode := mode? } mode d) →
        run settings = run { settings with mode := mode? } := by
  intro run
  have hRun (settings : Settings) :
      run settings = (finish files settings input out? (switch settings (some mode) d).compile).run.run s :=
    run_compile hRead hLoad settings out? (some mode)
  have hRegular : d.NodesRegular := (Design.Reachable.load text hLoad).nodesRegular
  refine ⟨?_, ?_, ?_⟩
  · intro hDirect
    rw [hRun, switch_eq_setMode hDirect]
  · intro hDetour
    rw [hRun, switch_eq_detached hRegular hDetour]
  · intro mode? hSame
    rw [hRun, hRun]
    -- Apart from the switch, the mode of the settings is not looked at.
    by_cases hDetour : Detours settings mode d
    · rw [switch_eq_detached hRegular hDetour, switch_eq_detached hRegular (hSame.mp hDetour)]
      rfl
    · rw [switch_eq_setMode hDetour, switch_eq_setMode (mt hSame.mpr hDetour)]
      rfl

/-- A light that is as bright as the time. -/
def lamp : String := "nodes/light/2 = input\nnode_connections/light = [2,0,0,0]"

theorem explicit_mode_decides_lamp :
    let t : FileTree := FileTree.addFiles {} [("lamp.vsg", lamp)]
    let run (settings : Settings) :=
      (perform FileTree.access settings (.compile "lamp.vsg" none (some .particles))).run.run t
    ∃ d, Design.load registry lamp = .ok d ∧ d.mode = .spatial ∧ run { mode := some .canvas } = run {} ∧
      run {} = (finish FileTree.access {} "lamp.vsg" none (d.setMode .particles).compile).run.run t := by
  intro t run
  obtain ⟨d, hLoad, hMode⟩ : ∃ d, Design.load registry lamp = .ok d ∧ d.mode = .spatial :=
    Except.exists_ok_of_decide (by decide +kernel)
  have hRead : (FileTree.access.read "lamp.vsg").run t = (.ok lamp, t) := by
    have hFile : t.read "lamp.vsg" = .ok lamp := rfl
    exact congrArg (·, t) hFile
  have hDirect (settings : Settings) : ¬Detours settings .particles d := by
    rintro ⟨hParticles, -⟩
    rw [hMode] at hParticles
    cases hParticles
  obtain ⟨hShader, -, hSame⟩ := explicit_mode_decides hRead hLoad {} .particles none
  exact ⟨d, hLoad, hMode, (hSame (some .canvas) (iff_of_false (hDirect _) (hDirect _))).symm, hShader (hDirect _)⟩

/-- On the way through a canvas the edge into the light is lost, though the shader is spatial before and after. -/
theorem explicit_mode_loses_edge :
    ∃ d, Design.load registry lamp = .ok d ∧
      bodyText ((switch {} (some .spatial) d).emit false .light .output) =
        "\t// Input:2\n\tfloat n2_0;\n\t\x7b\n\t\tn2_0 = TIME;\n\t\x7d\n" ++
          "\t// Output:0\n\t\x7b\n\t\tDIFFUSE_LIGHT = vec3(n2_0);\n\t\x7d\n" ∧
      bodyText ((switch { mode := some .canvas } (some .spatial) d).emit false .light .output) = "" ∧
      (switch {} (some .spatial) d).compile = (d.setMode .spatial).compile ∧
      (switch { mode := some .canvas } (some .spatial) d).compile.source ≠ (d.setMode .spatial).compile.source :=
  Except.exists_ok_of_decide (by decide +kernel)

end Command

end ShadeGraph
