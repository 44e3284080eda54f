import ShadeGraph.Proofs.Contributions
import ShadeGraph.Proofs.LeastOrder
import ShadeGraph.Proofs.Mentions
import ShadeGraph.Proofs.Overrides

/-!
# What the terminal writes

The terminal assigns a built-in for each of its ports that is given something, in the order of the table. A port is
given what an edge brings, and without an edge what an override says, for overrides of the terminal are taken like those
of any other node.
-/

namespace ShadeGraph

/-! ## Lines -/

namespace Text

theorem cutAt_of_not_mem {separator : Char} {text : List Char} (h : separator ∉ text) :
    cutAt separator text = none := by
  cases hCut : cutAt separator text with
  | none => rfl
  | some parts =>
    rw [eq_append_of_cutAt hCut] at h
    simp at h

theorem newline_not_mem_of_digits {digits : List Char} (h : ∀ c ∈ digits, c.isDigit = true) : '\n' ∉ digits := by
  intro hMem
  exact absurd (h _ hMem) (by decide)

end Text

theorem newline_not_mem_outputVariable (id : NodeId) (port : Nat) : '\n' ∉ (outputVariable id port).toList := by
  have hRepr (n : Nat) : '\n' ∉ (Nat.repr n).toList := Text.newline_not_mem_of_digits fun _ => Text.isDigit_of_mem_repr
  rw [toList_outputVariable]
  simp only [List.cons_append, List.mem_cons, List.mem_append, not_or]
  exact ⟨by decide, hRepr _, by decide, hRepr _⟩

theorem outputVariable_ne_empty (id : NodeId) (port : Nat) : outputVariable id port ≠ "" := by
  rw [ne_eq, ← String.toList_inj, toList_outputVariable]
  simp

theorem Single.newline_not_mem_literal {x : Single} {text : String} (h : x.literal = .ok text) :
    '\n' ∉ text.toList := by
  have hMagnitude (n m : Nat) : '\n' ∉ Nat.toDigits 10 n ++ '.' :: Text.lastDigits 6 m := by
    have hWhole : '\n' ∉ Nat.toDigits 10 n := Text.newline_not_mem_of_digits fun _ hMem =>
      Nat.isDigit_of_mem_toDigits (by decide) (by decide) hMem
    have hRest : '\n' ∉ Text.lastDigits 6 m := Text.newline_not_mem_of_digits fun _ => Text.isDigit_of_mem_lastDigits
    simp [hWhole, hRest]
  rw [literal] at h
  split at h
  · cases h
    rw [fixed, signed, String.toList_ofList]
    split
    · rw [List.mem_cons, not_or]
      exact ⟨by decide, hMagnitude _ _⟩
    · exact hMagnitude _ _
  · cases h

theorem Vec3.newline_not_mem_components {v : Vec3} {text : String} (h : v.components = .ok text) :
    '\n' ∉ text.toList := by
  simp only [components, Except.bind_eq_ok_iff, Except.pure_eq_ok_iff] at h
  obtain ⟨x, hx, y, hy, z, hz, rfl⟩ := h
  simp [String.toList_append, Single.newline_not_mem_literal hx, Single.newline_not_mem_literal hy,
    Single.newline_not_mem_literal hz]

theorem PortValue.newline_not_mem_literal {v : PortValue} {text : String} (h : v.literal = .ok text) :
    '\n' ∉ text.toList := by
  cases v with
  | scalar x => exact Single.newline_not_mem_literal h
  | vector3 v =>
    simp only [literal, Vec3.literal, Except.bind_eq_ok_iff, Except.pure_eq_ok_iff] at h
    obtain ⟨components, hComponents, rfl⟩ := h
    simp [String.toList_append, Vec3.newline_not_mem_components hComponents]
  | boolean value =>
    cases h
    cases value <;> decide
  | transform t =>
    simp only [literal, Transform.literal, Except.bind_eq_ok_iff, Except.pure_eq_ok_iff] at h
    obtain ⟨x, hx, y, hy, z, hz, w, hw, rfl⟩ := h
    simp [String.toList_append, Vec3.newline_not_mem_components hx, Vec3.newline_not_mem_components hy,
      Vec3.newline_not_mem_components hz, Vec3.newline_not_mem_components hw]

namespace Statement

/-- The text of a statement without the break at its end. -/
def lineText (s : Statement) : List Char := s.render.toList.dropLast

/-- A statement that is one line of text. -/
structure IsLine (s : Statement) : Prop where
  render : s.render.toList = s.lineText ++ ['\n']
  ne_nil : s.lineText ≠ []
  newline : '\n' ∉ s.lineText
  last : s.lineText.getLast? ≠ some '\r'

theorem isLine_assign {target value : String} (hTarget : '\n' ∉ target.toList) (hValue : '\n' ∉ value.toList) :
    (assign 0 target value).IsLine := by
  have hRender : (assign 0 target value).render.toList =
      (target.toList ++ " = ".toList ++ value.toList ++ [';']) ++ ['\n'] := by
    simp [render, indent, String.toList_append]
  have hLine : (assign 0 target value).lineText = target.toList ++ " = ".toList ++ value.toList ++ [';'] := by
    rw [lineText, hRender, List.dropLast_concat]
  constructor
  · rw [hRender, hLine]
  · simp [hLine]
  · rw [hLine]
    simp [hTarget, hValue]
  · rw [hLine, List.getLast?_concat]
    decide

theorem lines_renderAll {code : List Statement} (h : ∀ s ∈ code, s.IsLine) :
    Text.lines (renderAll code).toList = code.map lineText := by
  have hText : (renderAll code).toList = (code.map lineText).flatMap (· ++ ['\n']) := by
    rw [renderAll, Text.toList_concat, List.flatMap_map, List.flatMap_map]
    exact List.flatMap_congr fun s hMem => (h s hMem).render
  rw [hText]
  apply Text.lines_flatMap
  intro text hText
  obtain ⟨s, hMem, rfl⟩ := List.mem_map.mp hText
  exact ⟨(h s hMem).newline, (h s hMem).last⟩

end Statement

theorem Emission.scopedLine_lineText {s : Statement} (h : s.IsLine) : scopedLine s.lineText = "\t\t" ++ s.render := by
  have hText : String.ofList s.lineText ++ "\n" = s.render := by
    rw [← String.toList_inj, h.render]
    simp [String.toList_append]
  rw [scopedLine, if_neg (by simpa using h.ne_nil), String.append_assoc, hText]

/-- The block of a node without variables whose statements are lines. -/
theorem Emission.block_of_lines {e : Emission} (hLocals : e.locals = []) (hLines : ∀ s ∈ e.code, s.IsLine) :
    e.block = if e.code = [] then "" else "\t// " ++ e.caption ++ ":" ++ e.id.text ++ "\n\t\x7b\n" ++
      Text.concat (e.code.map fun s => "\t\t" ++ s.render) ++ "\t\x7d\n" := by
  cases hCode : e.code with
  | nil =>
    rw [block, hLocals, hCode]
    rfl
  | cons s rest =>
    rw [hCode] at hLines
    have hSome : (Statement.renderAll (s :: rest)).isEmpty = false := by
      rw [Bool.eq_false_iff, ne_eq, String.isEmpty_iff, ← String.toList_inj, Statement.renderAll, List.map_cons,
        Text.concat_cons, String.toList_append, (hLines s List.mem_cons_self).render]
      simp
    have hText : (s :: rest).map (scopedLine ∘ Statement.lineText) = (s :: rest).map fun s => "\t\t" ++ s.render :=
      List.map_congr_left fun s hMem => scopedLine_lineText (hLines s hMem)
    have hEmpty : Text.concat ([].map LocalVariable.declaration) = "" := rfl
    have hOpening : "\n\t\x7b\n" = "\n" ++ "\t\x7b\n" := rfl
    simp only [block, scope, hLocals, hCode, hSome, Statement.lines_renderAll hLines, List.map_map, hText]
    rw [if_neg (by simp), if_neg Bool.false_ne_true, if_neg (List.cons_ne_nil _ _), hEmpty, String.append_empty,
      hOpening]
    simp only [String.append_assoc]

/-- An assignment of a built-in. Behind a colon its target says which components of the value are taken. -/
inductive StageBuiltin.IsAssigned (target : StageBuiltin) (value : String) : Statement → Prop
  | whole (h : ':' ∉ target.expression.toList) : IsAssigned target value (.assign 0 target.expression value)
  | components {name components : String} (h : target.expression = name ++ ":" ++ components)
      (hName : ':' ∉ name.toList) : IsAssigned target value (.assign 0 name (value ++ "." ++ components))

theorem StageBuiltin.IsAssigned.isLine {target : StageBuiltin} {value : String} {statement : Statement}
    (h : target.IsAssigned value statement) (hTarget : '\n' ∉ target.expression.toList) (hValue : '\n' ∉ value.toList) :
    statement.IsLine := by
  cases h with
  | whole => exact Statement.isLine_assign hTarget hValue
  | components hText =>
    rw [hText] at hTarget
    simp only [String.toList_append, List.mem_append, not_or] at hTarget
    refine Statement.isLine_assign hTarget.1.1 ?_
    simp [String.toList_append, hValue, hTarget.2]

/-- What the tables say of all that is written: it has a value, and its name stands on one line. -/
theorem StageBuiltin.of_mem_outputs {mode : Mode} {stage : Stage} {target : StageBuiltin}
    (h : target ∈ outputs mode stage) : target.type.isSampler = false ∧ '\n' ∉ target.expression.toList := by
  have hAll : ∀ target ∈ outputs mode stage, target.type.isSampler = false ∧ '\n' ∉ target.expression.toList := by
    cases mode <;> cases stage <;> decide
  exact hAll target h

/-! ## Bodies -/

namespace OutputNode

/-- The ports that are given something, and what, in order. -/
def rows (n : OutputNode) (values : List String) : List (Nat × String) :=
  ((n.targets.zip values).zipIdx.filter fun x => !x.1.2.isEmpty).map fun x => (x.2, x.1.2)

variable {n : OutputNode} {values : List String}

theorem port?_of_row {port : Nat} {target : StageBuiltin} (h : n.targets[port]? = some target) :
    NodeModel.port? (StandardNode.output n) .input port = some (Port.input target.name target.type).broadcast := by
  change n.inputs[port]? = _
  rw [inputs, List.getElem?_map, h]
  rfl

theorem isAssigned_assignment (target : StageBuiltin) (value : String) :
    target.IsAssigned value (assignment target value) := by
  by_cases hColon : ':' ∈ target.expression.toList
  · obtain ⟨name, components, hText, hName⟩ := List.eq_append_cons_of_mem hColon
    rw [assignment, hText, Text.cutAt_append components hName]
    refine .components ?_ (by rwa [String.toList_ofList])
    rw [← String.toList_inj, hText]
    simp
  · rw [assignment, Text.cutAt_of_not_mem hColon]
    exact .whole hColon

theorem pairwise_rows (n : OutputNode) (values : List String) : ((n.rows values).map Prod.fst).Pairwise (· < ·) := by
  have hSub : ((n.rows values).map Prod.fst).Sublist ((n.targets.zip values).zipIdx.map Prod.snd) := by
    rw [rows, List.map_map]
    exact List.filter_sublist.map Prod.snd
  rw [List.zipIdx_map_snd] at hSub
  exact List.Pairwise.sublist hSub (List.pairwise_lt_range' 1)

theorem mem_rows_iff {port : Nat} {value : String} :
    (port, value) ∈ n.rows values ↔
      ∃ target, n.targets[port]? = some target ∧ values[port]? = some value ∧ value ≠ "" := by
  simp only [rows, List.mem_map, List.mem_filter, List.mem_zipIdx_iff_getElem?, List.getElem?_zip_eq_some]
  constructor
  · rintro ⟨⟨⟨target, _⟩, _⟩, ⟨⟨hTarget, hValue⟩, hText⟩, hSame⟩
    cases hSame
    exact ⟨target, hTarget, hValue, by simpa using hText⟩
  · rintro ⟨target, hTarget, hValue, hText⟩
    exact ⟨((target, value), port), ⟨⟨hTarget, hValue⟩, by simpa using hText⟩, rfl⟩

theorem body_eq (n : OutputNode) (values : List String) : n.body values =
    ((n.targets.zip values).zipIdx.filter fun x => !x.1.2.isEmpty).map fun x => assignment x.1.1 x.1.2 := by
  conv_lhs => rw [body, ← List.zipIdx_map_fst 0 (n.targets.zip values), List.filter_map, List.map_map]
  rfl

/-- One assignment for each row. -/
theorem forall₂_rows (n : OutputNode) (values : List String) :
    List.Forall₂ (fun (row : Nat × String) statement =>
        ∃ target, n.targets[row.1]? = some target ∧ target.IsAssigned row.2 statement)
      (n.rows values) (n.body values) := by
  rw [body_eq, rows, List.forall₂_map_left_iff, List.forall₂_map_right_iff, List.forall₂_same]
  intro x hMem
  have hZip := List.mem_zipIdx_iff_getElem?.mp (List.mem_filter.mp hMem).1
  exact ⟨x.1.1, (List.getElem?_zip_eq_some.mp hZip).1, isAssigned_assignment _ _⟩

theorem isLine_of_mem_body (h : ∀ row ∈ n.rows values, '\n' ∉ row.2.toList) {s : Statement} (hMem : s ∈ n.body values) :
    s.IsLine := by
  rw [body_eq] at hMem
  obtain ⟨x, hRow, rfl⟩ := List.mem_map.mp hMem
  have hZip := List.mem_zipIdx_iff_getElem?.mp (List.mem_filter.mp hRow).1
  have hTarget := List.mem_of_getElem? (List.getElem?_zip_eq_some.mp hZip).1
  exact (isAssigned_assignment _ _).isLine (StageBuiltin.of_mem_outputs hTarget).2 (h _ (List.mem_map_of_mem hRow))

end OutputNode

namespace Design

variable {d : Design StandardNode} {preview : Bool} {stage : Stage} {port : Nat}

/-! ## Ports of the terminal -/

/-- An edge feeds a port of the terminal. -/
def IsFed (d : Design StandardNode) (stage : Stage) (port : Nat) : Prop :=
  ∃ e ∈ (d.graph stage).edges, e.target = .output ∧ e.input = port

def IsOverridden (d : Design StandardNode) (stage : Stage) (port : Nat) : Prop :=
  ∃ n value, d.placed? stage .output = some n ∧ n.overrides.get? port = some value

/-- What a port of the terminal is given: the variable at the source of its edge, spread over a vector if a scalar feeds
it, or the literal of its override if no edge feeds it. -/
inductive Gives (d : Design StandardNode) (stage : Stage) (port : Nat) : String → Prop
  | edge {e : Edge} {type : PortType} {target : StageBuiltin} (hEdge : e ∈ (d.graph stage).edges)
      (hTarget : e.target = .output) (hInput : e.input = port)
      (hType : (d.graph stage).outputType? e.source e.output = some type)
      (hRow : (StageBuiltin.outputs d.mode stage)[port]? = some target) :
      Gives d stage port
        (if type = .scalar ∧ target.type = .vector3 then "vec3(" ++ outputVariable e.source e.output ++ ")"
          else outputVariable e.source e.output)
  | override {n : PlacedNode StandardNode} {value : PortValue} {text : String} (hUnfed : ¬d.IsFed stage port)
      (hPlaced : d.placed? stage .output = some n) (hOverride : n.overrides.get? port = some value)
      (hText : value.literal = .ok text) : Gives d stage port text

theorem Reachable.exists_gives_iff (h : d.Reachable) (hPort : port < (StageBuiltin.outputs d.mode stage).length) :
    (∃ value, d.Gives stage port value) ↔ d.IsFed stage port ∨ d.IsOverridden stage port := by
  constructor
  · rintro ⟨_, hGives⟩
    cases hGives with
    | edge hEdge hTarget hInput => exact .inl ⟨_, hEdge, hTarget, hInput⟩
    | override _ hPlaced hOverride => exact .inr ⟨_, _, hPlaced, hOverride⟩
  · intro hSource
    by_cases hFed : d.IsFed stage port
    · obtain ⟨e, hEdge, hTarget, hInput⟩ := hFed
      obtain ⟨⟨type, hType⟩, -⟩ := StageGraph.inRange_iff.mp ((h.wired stage).inRange e hEdge)
      exact ⟨_, .edge hEdge hTarget hInput hType (List.getElem?_eq_getElem hPort)⟩
    · obtain ⟨n, value, hPlaced, hOverride⟩ := hSource.resolve_left hFed
      obtain ⟨text, hText⟩ := h.encodes stage .output n hPlaced port value hOverride
      exact ⟨text, .override hFed hPlaced hOverride hText⟩

theorem Gives.newline_not_mem {value : String} (h : d.Gives stage port value) : '\n' ∉ value.toList := by
  cases h with
  | edge =>
    split
    · simp [String.toList_append, newline_not_mem_outputVariable]
    · exact newline_not_mem_outputVariable _ _
  | override _ _ _ hText => exact PortValue.newline_not_mem_literal hText

section

variable {n : PlacedNode StandardNode} {target : StageBuiltin} {operand : Operand} {value : String}

theorem Reachable.text_wired_iff (h : d.Reachable) (hRow : (StageBuiltin.outputs d.mode stage)[port]? = some target)
    {e : Edge} (hReading : (d.graph stage).reading? .output port = some e) {ctx : EmitContext}
    (hWired : (d.graph stage).wired ctx (Port.input target.name target.type).broadcast e = .ok operand) :
    operand.text = value ∧ value ≠ "" ↔ d.Gives stage port value := by
  have hValue : target.type.isSampler = false := (StageBuiltin.of_mem_outputs (List.mem_of_getElem? hRow)).1
  obtain ⟨hEdge, hTarget, hInput⟩ := (h.wired stage).reading?_eq_some_iff.mp hReading
  obtain ⟨⟨type, hType⟩, -⟩ := StageGraph.inRange_iff.mp ((h.wired stage).inRange e hEdge)
  obtain ⟨-, rfl⟩ := StageGraph.wired_eq_ok hWired hType hValue
  have hText :
      (Operand.wire e (type = .scalar && (Port.input target.name target.type).broadcast.type = .vector3)).text =
        if type = .scalar ∧ target.type = .vector3 then "vec3(" ++ outputVariable e.source e.output ++ ")"
          else outputVariable e.source e.output := by
    simp only [Operand.text, Bool.and_eq_true, decide_eq_true_eq]
    rfl
  constructor
  · rintro ⟨rfl, -⟩
    rw [hText]
    exact .edge hEdge hTarget hInput hType hRow
  · intro hGives
    cases hGives with
    | edge hEdge' hTarget' hInput' hType' hRow' =>
      -- No other edge feeds the port.
      have hSame := (h.wired stage).reading?_eq_some_iff.mpr ⟨hEdge', hTarget', hInput'⟩
      cases hReading.symm.trans hSame
      cases hType.symm.trans hType'
      cases hRow.symm.trans hRow'
      refine ⟨hText, ?_⟩
      split
      · simp
      · exact outputVariable_ne_empty _ _
    | override hUnfed => exact absurd ⟨e, hEdge, hTarget, hInput⟩ hUnfed

theorem text_unwired_iff (hUnfed : ¬d.IsFed stage port) (hPlaced : d.placed? stage .output = some n)
    {terminal : OutputNode} (hNode : n.node = .output terminal) {ctx : EmitContext}
    (hUnwired : StageGraph.unwired n ctx port (Port.input target.name target.type).broadcast = .ok operand) :
    operand.text = value ∧ value ≠ "" ↔ d.Gives stage port value := by
  have hGives : d.Gives stage port value ↔ ∃ v, n.overrides.get? port = some v ∧ v.literal = .ok value := by
    constructor
    · intro hGives
      cases hGives with
      | edge hEdge hTarget hInput => exact absurd ⟨_, hEdge, hTarget, hInput⟩ hUnfed
      | override _ hPlaced' hOverride hText =>
        cases hPlaced.symm.trans hPlaced'
        exact ⟨_, hOverride, hText⟩
    · rintro ⟨v, hOverride, hText⟩
      exact .override hUnfed hPlaced hOverride hText
  rw [hGives]
  simp only [StageGraph.unwired, Port.broadcast, Port.input, Option.filter_none,
    PlacedNode.default?_of_output hNode] at hUnwired
  cases hOverride : n.overrides.get? port with
  | none =>
    simp only [hOverride] at hUnwired
    cases hUnwired
    simp [Operand.text, eq_comm]
  | some v =>
    simp only [hOverride, Except.mapError_eq_ok_iff, Except.map_eq_ok_iff] at hUnwired
    obtain ⟨text, hText, rfl⟩ := hUnwired
    have hNe := PortValue.literal_ne_nil hText
    simp only [Operand.text, Option.some.injEq, exists_eq_left', hText, Except.ok.injEq]
    constructor
    · exact fun hSame => hSame.1
    · rintro rfl
      exact ⟨rfl, hNe⟩

/-- The operand of a port of the terminal is what the port is given, and empty if that is nothing. -/
theorem Reachable.text_operandAt_iff (h : d.Reachable) (hPlaced : d.placed? stage .output = some n)
    (hNode : n.node = .output ⟨d.mode, stage⟩) (hRow : (StageBuiltin.outputs d.mode stage)[port]? = some target)
    (hAt : (d.graph stage).operandAt n ⟨d.mode, stage, .output, preview⟩ port
      (Port.input target.name target.type).broadcast = .ok operand) :
    operand.text = value ∧ value ≠ "" ↔ d.Gives stage port value := by
  rw [StageGraph.operandAt] at hAt
  cases hReading : (d.graph stage).reading? .output port with
  | some e =>
    simp only [hReading] at hAt
    exact h.text_wired_iff hRow hReading hAt
  | none =>
    simp only [hReading] at hAt
    refine text_unwired_iff ?_ hPlaced hNode hAt
    rintro ⟨e, hEdge⟩
    cases hReading.symm.trans ((h.wired stage).reading?_eq_some_iff.mpr hEdge)

end

/-! ## The last emission -/

/-- What a root reads from is emitted before it, and the root once. -/
theorem emit_eq_append_root {root : NodeId} (hRoot : d.IsRoot stage root) {emissions : List Emission}
    (hEmit : d.emit preview stage root = .ok emissions) :
    ∃ before e, emissions = before ++ [e] ∧ d.Emits preview stage root (some e) ∧ ∀ s ∈ before, s.id ≠ root := by
  obtain ⟨order, hOrder, all, hAll, rfl⟩ := emit_eq_ok_iff.mp hEmit
  have ⟨n, hNode, _⟩ := hRoot
  obtain ⟨placed, hPlaced, -⟩ := StageGraph.node?_eq_some_iff.mp hNode
  have hContains : (d.graph stage).contains root = true := StageGraph.contains_iff.mpr ⟨placed, hPlaced⟩
  have hNodup := StageGraph.nodup_order hOrder
  obtain ⟨first, rfl⟩ := (StageGraph.isOrder_of_order hOrder).exists_append_root hContains
  -- The lists are taken from their ends.
  have hBack := List.forall₂_reverse_iff.mpr hAll
  rw [List.reverse_append, List.reverse_singleton, List.singleton_append] at hBack
  obtain ⟨last, rest, hLast, hRest, hAllBack⟩ := List.forall₂_cons_left_iff.mp hBack
  obtain ⟨e, rfl⟩ := hRoot.exists_emission hLast
  have hSplit : all = rest.reverse ++ [some e] := by
    rw [← List.reverse_reverse all, hAllBack, List.reverse_cons]
  have hBefore : List.Forall₂ (d.Emits preview stage) first rest.reverse := by
    rw [← List.forall₂_reverse_iff, List.reverse_reverse]
    exact hRest
  refine ⟨rest.reverse.filterMap fun e => e, e, by rw [hSplit, List.filterMap_append]; rfl, hLast, ?_⟩
  rintro s hMem rfl
  have hFirst := (ids_sublist_order hBefore).subset (List.mem_map_of_mem hMem)
  exact (List.nodup_append.mp hNodup).2.2 s.id hFirst s.id List.mem_cons_self rfl

/-! ## The code of the terminal -/

theorem Reachable.mem_rows_iff (h : d.Reachable) {e : Emission} (hEmits : d.Emits preview stage .output (some e))
    (port : Nat) (value : String) :
    (port, value) ∈ OutputNode.rows ⟨d.mode, stage⟩ (e.operands.map Operand.text) ↔
      port < (StageBuiltin.outputs d.mode stage).length ∧ d.Gives stage port value := by
  obtain ⟨-, placed, hPlaced, hOperands, -⟩ := StageGraph.emitNode_eq_ok_some hEmits
  have hNode := h.nodesRegular.terminal stage placed hPlaced
  have hAt {target : StageBuiltin} (hRow : (StageBuiltin.outputs d.mode stage)[port]? = some target) :
      ∃ operand, e.operands[port]? = some operand ∧
        (operand.text = value ∧ value ≠ "" ↔ d.Gives stage port value) := by
    have hPort : NodeModel.port? placed.node .input port = some (Port.input target.name target.type).broadcast := by
      rw [hNode]
      exact OutputNode.port?_of_row hRow
    obtain ⟨operand, hGet, hAt⟩ := StageGraph.operands_getElem? hOperands hPort
    exact ⟨operand, hGet, h.text_operandAt_iff hPlaced hNode hRow hAt⟩
  rw [OutputNode.mem_rows_iff]
  constructor
  · rintro ⟨target, hRow, hValue, hText⟩
    obtain ⟨operand, hGet, hGives⟩ := hAt hRow
    rw [List.getElem?_map, hGet, Option.map_some, Option.some_inj] at hValue
    exact ⟨(List.getElem?_eq_some_iff.mp hRow).1, hGives.mp ⟨hValue, hText⟩⟩
  · rintro ⟨hPort, hValue⟩
    have hRow := List.getElem?_eq_getElem hPort
    obtain ⟨operand, hGet, hGives⟩ := hAt hRow
    obtain ⟨hSame, hText⟩ := hGives.mpr hValue
    exact ⟨_, hRow, by rw [List.getElem?_map, hGet, Option.map_some, hSame], hText⟩

theorem Reachable.terminal_emission (h : d.Reachable) {e : Emission}
    (hEmits : d.Emits preview stage .output (some e)) :
    e.locals = [] ∧ e.code = OutputNode.body ⟨d.mode, stage⟩ (e.operands.map Operand.text) := by
  obtain ⟨-, placed, hPlaced, -, hLocals, hBody⟩ := StageGraph.emitNode_eq_ok_some hEmits
  rw [h.nodesRegular.terminal stage placed hPlaced] at hLocals hBody
  exact ⟨hLocals, (Except.ok.inj hBody).symm⟩

/-- In every stage that is emitted the terminal comes last. Its code has one assignment for each of its ports that is
given something, in the order of the table, and no others; of a value only the components are taken that the table says.
A port is given something exactly if an edge feeds it or an override is set for it. Without any such port there is no
block. -/
theorem terminal_writes_what_is_given (hReachable : d.Reachable) {emissions : List Emission}
    (hEmit : d.emit preview stage .output = .ok emissions) :
    ∃ before e rows, emissions = before ++ [e] ∧ e.id = .output ∧ (∀ s ∈ before, s.id ≠ .output) ∧
      (rows.map Prod.fst).Pairwise (· < ·) ∧
      (∀ port value, (port, value) ∈ rows ↔
        port < (StageBuiltin.outputs d.mode stage).length ∧ d.Gives stage port value) ∧
      List.Forall₂ (fun (row : Nat × String) statement =>
        ∃ target, (StageBuiltin.outputs d.mode stage)[row.1]? = some target ∧ target.IsAssigned row.2 statement)
        rows e.code ∧
      (e.block = if e.code = [] then "" else "\t// " ++ e.caption ++ ":" ++ e.id.text ++ "\n\t\x7b\n" ++
        Text.concat (e.code.map fun s => "\t\t" ++ s.render) ++ "\t\x7d\n") ∧
      ∀ port < (StageBuiltin.outputs d.mode stage).length,
        (∃ value, (port, value) ∈ rows) ↔ d.IsFed stage port ∨ d.IsOverridden stage port := by
  obtain ⟨before, e, rfl, hEmits, hBefore⟩ := emit_eq_append_root (hReachable.isRoot_output stage) hEmit
  obtain ⟨hLocals, hCode⟩ := hReachable.terminal_emission hEmits
  have hRows := hReachable.mem_rows_iff hEmits
  have hAssigned := OutputNode.forall₂_rows ⟨d.mode, stage⟩ (e.operands.map Operand.text)
  rw [← hCode] at hAssigned
  refine ⟨before, e, _, rfl, hEmits.id_eq, hBefore, OutputNode.pairwise_rows _ _, hRows, hAssigned, ?_, ?_⟩
  · apply Emission.block_of_lines hLocals
    rw [hCode]
    exact fun s => OutputNode.isLine_of_mem_body fun row hRow => ((hRows row.1 row.2).mp hRow).2.newline_not_mem
  · intro port hPort
    rw [← hReachable.exists_gives_iff hPort]
    exact exists_congr fun value => (hRows port value).trans (and_iff_right hPort)

/-- Coordinates are handed through, and the roughness is overridden. -/
def sheet : Design StandardNode :=
  (empty .spatial).edited
    [.add .vertex 2 .origin (.input { name := "uv" }), .connect .vertex ⟨2, 0, .output, 4⟩,
      .setDefault .vertex .output 8 (.scalar .half)]

theorem reachable_sheet : sheet.Reachable := .edited (.new .spatial) (by decide)

theorem terminal_writes_what_is_given_sheet :
    sheet.Reachable ∧ ∃ before e, ∃ rows : List (Nat × String), sheet.emit false .vertex .output = .ok (before ++ [e]) ∧
      e.id = .output ∧ e.code = [.assign 0 "UV" "n2_0.xy", .assign 0 "ROUGHNESS" "0.500000"] ∧
      List.Forall₂ (fun (row : Nat × String) statement =>
        ∃ target, (StageBuiltin.outputs .spatial .vertex)[row.1]? = some target ∧ target.IsAssigned row.2 statement)
        rows e.code ∧
      (∃ value, (4, value) ∈ rows) ∧ (∃ value, (8, value) ∈ rows) ∧ ¬∃ value, (0, value) ∈ rows := by
  have hCode : (sheet.emit false .vertex .output).map (·.map Emission.code) =
      .ok [[.assign 0 "n2_0" "vec3(UV, 0.0)"], [.assign 0 "UV" "n2_0.xy", .assign 0 "ROUGHNESS" "0.500000"]] := by
    rfl
  obtain ⟨emissions, hEmit, hMap⟩ := Except.map_eq_ok_iff.mp hCode
  obtain ⟨before, e, rows, rfl, hId, -, -, -, hRows, -, hWritten⟩ := terminal_writes_what_is_given reachable_sheet hEmit
  have hLast : e.code = [.assign 0 "UV" "n2_0.xy", .assign 0 "ROUGHNESS" "0.500000"] := by
    have hGet := congrArg List.getLast? hMap
    rw [List.map_append, List.map_singleton, List.getLast?_concat] at hGet
    exact Option.some_inj.mp hGet
  refine ⟨reachable_sheet, before, e, rows, hEmit, hId, hLast, hRows, ?_, ?_, ?_⟩
  · exact (hWritten 4 (by decide)).mpr (.inl ⟨⟨2, 0, .output, 4⟩, List.mem_cons_self, rfl, rfl⟩)
  · exact (hWritten 8 (by decide)).mpr (.inr ⟨_, .scalar .half, rfl, rfl⟩)
  · rw [hWritten 0 (by decide)]
    rintro (⟨e, hEdge, -, hInput⟩ | ⟨n, value, hPlaced, hOverride⟩)
    · cases List.mem_singleton.mp hEdge
      cases hInput
    · cases hPlaced
      cases hOverride

/-- No edge is there, and still a built-in is written. -/
theorem unfed_port_written :
    dimmed.Reachable ∧ (∀ port, ¬dimmed.IsFed .fragment port) ∧
      (dimmed.emit false .fragment .output).map (·.map Emission.code) = .ok [[.assign 0 "METALLIC" "0.500000"]] := by
  refine ⟨reachable_dimmed, ?_, by rfl⟩
  rintro port ⟨e, hEdge, -⟩
  cases hEdge

end Design

end ShadeGraph
