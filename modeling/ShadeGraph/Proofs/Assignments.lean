import ShadeGraph.Proofs.Literals
import ShadeGraph.Proofs.Text

/-!
# Bodies assign what they promise

A node that is given an operand for each input and a name for each output has a body, unless it is a constant with a
number that has no literal. The body assigns to the name of every output that holds a value. Samplers are not variables
and are assigned to nowhere.
-/

namespace ShadeGraph

/-! ## Statements -/

namespace Statement

/-- Whether a statement fills lines of its own. -/
def isWhole : Statement → Bool
  | .pasted _ => false
  | _ => true

def assignedName? : Statement → Option String
  | .assign _ target _ => some target
  | _ => none

/-- The names that code assigns to. Lines of the user's own are not looked into. -/
def assignedNames (code : List Statement) : List String := code.filterMap assignedName?

/-- Code of whole lines, some of which assign to the names. -/
structure Assigns (code : List Statement) (names : List String) : Prop where
  whole : ∀ s ∈ code, s.isWhole = true
  mem : ∀ name ∈ names, name ∈ assignedNames code

namespace Assigns

variable {s : Statement} {body rest : List Statement} {names names' : List String}

theorem nil : Assigns [] [] := ⟨by simp, by simp⟩

theorem skip (hWhole : s.isWhole = true) (h : Assigns rest names) : Assigns (s :: rest) names := by
  refine ⟨List.forall_mem_cons.mpr ⟨hWhole, h.whole⟩, fun name hName => ?_⟩
  obtain ⟨t, hMem, hAssigned⟩ := List.mem_filterMap.mp (h.mem name hName)
  exact List.mem_filterMap.mpr ⟨t, List.mem_cons_of_mem s hMem, hAssigned⟩

theorem assign (depth : Nat) (target value : String) (h : Assigns rest names) :
    Assigns (.assign depth target value :: rest) (target :: names) := by
  have hRest : Assigns (.assign depth target value :: rest) names := h.skip rfl
  refine ⟨hRest.whole, List.forall_mem_cons.mpr ⟨?_, hRest.mem⟩⟩
  exact List.mem_filterMap.mpr ⟨_, List.mem_cons_self, rfl⟩

theorem append (hBody : Assigns body names) (hRest : Assigns rest names') :
    Assigns (body ++ rest) (names ++ names') := by
  refine ⟨List.forall_mem_append.mpr ⟨hBody.whole, hRest.whole⟩, List.forall_mem_append.mpr ⟨?_, ?_⟩⟩
  · intro name hName
    rw [assignedNames, List.filterMap_append]
    exact List.mem_append_left _ (hBody.mem name hName)
  · intro name hName
    rw [assignedNames, List.filterMap_append]
    exact List.mem_append_right _ (hRest.mem name hName)

theorem scope (h : Assigns body names) : Assigns (scope body) names := by
  have hClosed : Assigns (body ++ [closing]) (names ++ []) := h.append (nil.skip rfl)
  rw [List.append_nil] at hClosed
  exact hClosed.skip rfl

theorem of_whole (h : ∀ s ∈ body, s.isWhole = true) : Assigns body [] := ⟨h, by simp⟩

theorem mono (h : Assigns body names) (hSubset : names' ⊆ names) : Assigns body names' :=
  ⟨h.whole, fun name hName => h.mem name (hSubset hName)⟩

theorem flatMap {α : Type} (xs : List α) {f : α → List Statement} {target : α → String}
    (h : ∀ x, Assigns (f x) [target x]) : Assigns (xs.flatMap f) (xs.map target) := by
  induction xs with
  | nil => exact nil
  | cons x xs ih => exact (h x).append ih

theorem map {α : Type} (xs : List α) {f : α → Statement} {target : α → String} (h : ∀ x, Assigns [f x] [target x]) :
    Assigns (xs.map f) (xs.map target) := by
  have hFlat := flatMap xs h
  rwa [← List.map_eq_flatMap] at hFlat

end Assigns

/-- A statement of a text assigns to a name. It begins where a line begins. -/
def AssignsIn (text name : String) : Prop :=
  ∃ before depth value after, text = before ++ (assign depth name value).render ++ after ∧
    (before = "" ∨ ∃ lines, before = lines ++ "\n")

theorem exists_line_of_isWhole {s : Statement} (h : s.isWhole = true) : ∃ line, s.render = line ++ "\n" := by
  have hEnd : ";\n" = ";" ++ "\n" := by rfl
  cases s with
  | assign depth target value => exact ⟨_, by rw [render, hEnd, ← String.append_assoc]⟩
  | define depth type name value => exact ⟨_, by rw [render, hEnd, ← String.append_assoc]⟩
  | line depth text => exact ⟨_, rfl⟩
  | pasted text => cases h

theorem renderAll_append (first second : List Statement) :
    renderAll (first ++ second) = renderAll first ++ renderAll second := by
  rw [renderAll, List.map_append, Text.concat_append]
  rfl

theorem renderAll_nil : renderAll [] = "" := rfl

theorem renderAll_cons (s : Statement) (rest : List Statement) :
    renderAll (s :: rest) = s.render ++ renderAll rest := by
  rw [renderAll, List.map_cons, Text.concat_cons]
  rfl

theorem renderAll_ends_line {code : List Statement} (h : ∀ s ∈ code, s.isWhole = true) :
    renderAll code = "" ∨ ∃ lines, renderAll code = lines ++ "\n" := by
  rcases List.eq_nil_or_concat code with rfl | ⟨rest, last, rfl⟩
  · exact .inl rfl
  · right
    rw [List.concat_eq_append] at h ⊢
    obtain ⟨line, hLine⟩ := exists_line_of_isWhole (h last (List.mem_append_right _ (List.mem_singleton_self last)))
    refine ⟨renderAll rest ++ line, ?_⟩
    have hLast : renderAll [last] = line ++ "\n" := by rw [renderAll_cons, hLine, renderAll_nil, String.append_empty]
    rw [renderAll_append, hLast, String.append_assoc]

theorem Assigns.assignsIn {code : List Statement} {names : List String} (h : Assigns code names) {name : String}
    (hName : name ∈ names) : AssignsIn (renderAll code) name := by
  obtain ⟨s, hMem, hAssigned⟩ := List.mem_filterMap.mp (h.mem name hName)
  obtain ⟨depth, value, rfl⟩ : ∃ depth value, s = .assign depth name value := by
    cases s with
    | assign depth target value =>
      cases hAssigned
      exact ⟨depth, value, rfl⟩
    | _ => cases hAssigned
  obtain ⟨before, after, rfl⟩ := List.append_of_mem hMem
  refine ⟨renderAll before, depth, value, renderAll after, ?_, ?_⟩
  · rw [renderAll_append, renderAll_cons, String.append_assoc]
  · exact renderAll_ends_line fun s hBefore => h.whole s (List.mem_append_left _ hBefore)

end Statement

open Statement (Assigns)

/-! ## Nodes -/

/-- The names of the outputs that hold values. -/
def valueNames (ports : List Port) (results : List String) : List String :=
  ((ports.zip results).filter (!·.1.type.isSampler)).map Prod.snd

theorem valueNames_subset (ports : List Port) (results : List String) : valueNames ports results ⊆ results := by
  intro out hMem
  obtain ⟨⟨p, _⟩, hZip, rfl⟩ := List.mem_map.mp hMem
  exact (List.of_mem_zip (List.mem_filter.mp hZip).1).2

theorem mem_valueNames {ports : List Port} {results : List String} {k : Nat} {p : Port} {out : String}
    (hPort : ports[k]? = some p) (hValue : p.type.isSampler = false) (hResult : results[k]? = some out) :
    out ∈ valueNames ports results := by
  have hZip : (ports.zip results)[k]? = some (p, out) := List.getElem?_zip_eq_some.mpr ⟨hPort, hResult⟩
  refine List.mem_map.mpr ⟨(p, out), List.mem_filter.mpr ⟨List.mem_of_getElem? hZip, ?_⟩, rfl⟩
  rw [hValue]
  rfl

/-- Whether a blend treats the channels one by one. -/
def ColorOperator.isByChannel : ColorOperator → Bool
  | .overlay | .softLight | .hardLight => true
  | _ => false

/-- What is assigned to for an output: the variable, or each of its components. -/
def StandardNode.components (n : StandardNode) (out : String) : List String :=
  match n with
  | .operator (.color op) => if op.isByChannel then ["x", "y", "z"].map fun axis => out ++ "." ++ axis else [out]
  | _ => [out]

section

variable {operands results : List String} {code : List Statement}

theorem InputNode.assigns_body {n : InputNode} {ctx : EmitContext} (hResults : results.length = n.outputs.length)
    (h : n.body ctx results = .ok code) : Assigns code (valueNames n.outputs results) := by
  obtain ⟨out, rfl⟩ := List.length_eq_one_iff.mp hResults
  rw [body] at h
  split at h
  · rename_i hSampler
    cases h
    have hNames : valueNames n.outputs [out] = [] := by simp [valueNames, outputs, Port.output, hSampler]
    rw [hNames]
    exact .nil
  · rename_i hValue
    cases h
    have hNames : valueNames n.outputs [out] = [out] := by simp [valueNames, outputs, Port.output, hValue]
    rw [hNames]
    exact .assign _ _ _ .nil

theorem Constant.assigns_body {c : Constant} (hResults : results.length = c.outputs.length)
    (h : c.body results = .ok code) : Assigns code (valueNames c.outputs results) := by
  simp only [body, Except.bind_eq_ok_iff] at h
  obtain ⟨out, hOut, h⟩ := h
  cases c with
  | boolean value =>
    obtain ⟨out, rfl⟩ := List.length_eq_one_iff.mp hResults
    cases hOut
    cases h
    exact .assign _ _ _ .nil
  | color value =>
    obtain ⟨out, alpha, rfl⟩ := List.length_eq_two.mp hResults
    simp only [Except.bind_eq_ok_iff, Except.pure_eq_ok_iff] at h
    obtain ⟨_, -, out', hAlpha, rfl⟩ := h
    cases hOut
    cases hAlpha
    exact .assign _ _ _ (.assign _ _ _ .nil)
  | scalar value | vector value | transform value =>
    obtain ⟨out, rfl⟩ := List.length_eq_one_iff.mp hResults
    simp only [Except.bind_eq_ok_iff, Except.pure_eq_ok_iff] at h
    obtain ⟨text, -, rfl⟩ := h
    cases hOut
    exact .assign _ _ _ .nil

theorem Operator.assigns_channel (out a b low high axis : String) :
    Assigns (channel out a b low high axis) [out ++ "." ++ axis] := by
  refine .scope (.skip rfl (.skip rfl (.skip rfl (.assign _ _ _ ?_))))
  exact .skip rfl (.skip rfl (.skip rfl .nil))

theorem Operator.assigns_body {o : Operator} (hResults : results.length = o.outputs.length)
    (h : o.body operands results = .ok code) :
    Assigns code ((valueNames o.outputs results).flatMap (StandardNode.operator o).components) := by
  obtain ⟨out, rfl⟩ := List.length_eq_one_iff.mp (hResults.trans (by cases o <;> rfl))
  simp only [body, Except.bind_eq_ok_iff] at h
  obtain ⟨out, hOut, a, -, b, -, h⟩ := h
  cases hOut
  cases o with
  | color op =>
    cases h
    cases op with
    | overlay | softLight | hardLight => exact .flatMap _ fun axis => assigns_channel _ _ _ _ _ axis
    | _ => exact .assign _ _ _ .nil
  | scalar op | vector op | transform op | transformVector op =>
    cases h
    exact .assign _ _ _ .nil

theorem FunctionNode.assigns_statements (n : FunctionNode) (out a : String) : Assigns (n.statements out a) [out] := by
  cases n with
  | vector f =>
    rw [statements, vectorBody]
    split
    · exact .assign _ _ _ .nil
    · split
      · exact .scope (.skip rfl (.skip rfl (.skip rfl (.skip rfl (.skip rfl (.skip rfl (.assign _ _ _ .nil)))))))
      · exact .scope (.skip rfl (.skip rfl (.skip rfl (.assign _ _ _ .nil))))
  | color f =>
    cases f with
    | grayscale => exact .scope (.skip rfl (.skip rfl (.skip rfl (.assign _ _ _ .nil))))
    | sepia => exact .scope (.skip rfl (.skip rfl (.skip rfl (.skip rfl (.assign _ _ _ .nil)))))
  | transform f => cases f <;> exact .assign _ _ _ .nil
  | scalar f | scalarDerivative f | vectorDerivative f => exact .assign _ _ _ .nil

theorem FunctionNode.assigns_body {n : FunctionNode} (hResults : results.length = n.outputs.length)
    (h : n.body operands results = .ok code) : Assigns code (valueNames n.outputs results) := by
  obtain ⟨out, rfl⟩ := List.length_eq_one_iff.mp hResults
  simp only [body, Except.bind_eq_ok_iff, Except.pure_eq_ok_iff] at h
  obtain ⟨out, hOut, a, -, rfl⟩ := h
  cases hOut
  exact (n.assigns_statements _ a).mono (valueNames_subset _ _)

theorem Formula.assigns_body {f : Formula} (hResults : results.length = f.outputPorts.length) :
    Assigns (f.body operands results) (valueNames f.outputPorts results) := by
  have hAll : Assigns (f.body operands results) ((f.outputs.zip results).map Prod.snd) :=
    .map _ fun _ => .assign _ _ _ .nil
  rw [outputPorts, List.length_map] at hResults
  rw [List.map_snd_zip hResults.le] at hAll
  exact hAll.mono (valueNames_subset _ _)

theorem Comparison.assigns_body {c : Comparison} {out : String} (h : c.body operands [out] = .ok code) :
    Assigns code [out] := by
  simp only [body, Except.bind_eq_ok_iff] at h
  obtain ⟨out, hOut, h⟩ := h
  cases hOut
  split at h
  · cases h
    exact .assign _ _ _ .nil
  · simp only [Except.bind_eq_ok_iff] at h
    obtain ⟨a, -, b, -, h⟩ := h
    split at h
    · cases h
      exact .scope (.skip rfl (.assign _ _ _ .nil))
    · split at h
      · simp only [Except.bind_eq_ok_iff, Except.pure_eq_ok_iff] at h
        obtain ⟨near, -, rfl⟩ := h
        exact .assign _ _ _ .nil
      · cases h
        exact .assign _ _ _ .nil

theorem LogicNode.assigns_body {n : LogicNode} (hResults : results.length = n.outputs.length)
    (h : n.body operands results = .ok code) : Assigns code (valueNames n.outputs results) := by
  obtain ⟨out, rfl⟩ := List.length_eq_one_iff.mp (hResults.trans (by cases n <;> rfl))
  refine Statement.Assigns.mono ?_ (valueNames_subset _ _)
  cases n with
  | compare c => exact Comparison.assigns_body h
  | order =>
    simp only [body, Except.bind_eq_ok_iff, Except.pure_eq_ok_iff] at h
    obtain ⟨_, hOut, _, -, _, -, _, -, _, -, _, -, _, -, rfl⟩ := h
    cases hOut
    exact .skip rfl (.assign _ _ _ (.skip rfl (.skip rfl (.skip rfl (.skip rfl (.skip rfl .nil))))))
  | vectorSwitch | scalarSwitch =>
    simp only [body, Except.bind_eq_ok_iff, Except.pure_eq_ok_iff] at h
    obtain ⟨_, hOut, _, -, _, -, _, -, rfl⟩ := h
    cases hOut
    exact .skip rfl (.assign _ _ _ (.skip rfl (.skip rfl (.skip rfl .nil))))
  | floatTest tested =>
    simp only [body, Except.bind_eq_ok_iff, Except.pure_eq_ok_iff] at h
    obtain ⟨_, hOut, _, -, rfl⟩ := h
    cases hOut
    exact .assign _ _ _ .nil
  | fresnel =>
    simp only [body, Except.bind_eq_ok_iff, Except.pure_eq_ok_iff] at h
    obtain ⟨_, hOut, _, -, _, -, _, -, _, -, rfl⟩ := h
    cases hOut
    exact .assign _ _ _ .nil

theorem Sampling.assigns_readInto (name value color alpha : String) :
    Assigns (readInto name value color alpha) [color, alpha] :=
  .skip rfl (.assign _ _ _ (.assign _ _ _ .nil))

theorem ValueUniform.assigns_body {u : ValueUniform} (hResults : results.length = u.outputs.length)
    (h : u.body results = .ok code) : Assigns code (valueNames u.outputs results) := by
  obtain ⟨type, name⟩ := u
  simp only [body, Except.bind_eq_ok_iff] at h
  obtain ⟨out, hOut, h⟩ := h
  cases type with
  | color =>
    obtain ⟨out, alpha, rfl⟩ := List.length_eq_two.mp hResults
    simp only [Except.bind_eq_ok_iff, Except.pure_eq_ok_iff] at h
    obtain ⟨_, hAlpha, rfl⟩ := h
    cases hOut
    cases hAlpha
    exact .assign _ _ _ (.assign _ _ _ .nil)
  | scalar | boolean | vector | transform =>
    obtain ⟨out, rfl⟩ := List.length_eq_one_iff.mp hResults
    cases hOut
    cases h
    exact .assign _ _ _ .nil

theorem TextureUniform.assigns_body {u : TextureUniform} (hResults : results.length = u.outputs.length)
    (h : u.body operands results = .ok code) : Assigns code (valueNames u.outputs results) := by
  -- The third name is the sampler's, and it is left alone.
  obtain ⟨color, alpha, sampler, rfl⟩ := List.length_eq_three.mp hResults
  simp only [body, Except.bind_eq_ok_iff, Except.pure_eq_ok_iff] at h
  obtain ⟨_, -, _, -, _, hColor, _, hAlpha, rfl⟩ := h
  cases hColor
  cases hAlpha
  exact Sampling.assigns_readInto _ _ _ _

theorem UniformNode.assigns_body {n : UniformNode} (hResults : results.length = n.outputs.length)
    (h : n.body operands results = .ok code) : Assigns code (valueNames n.outputs results) := by
  cases n with
  | value u => exact ValueUniform.assigns_body hResults h
  | texture u => exact TextureUniform.assigns_body hResults h
  | cubeMap u =>
    obtain ⟨sampler, rfl⟩ := List.length_eq_one_iff.mp hResults
    cases h
    exact .nil

theorem TextureNode.assigns_statements (n : TextureNode) (ctx : EmitContext) (uv lod sampler color alpha : String) :
    Assigns (n.statements ctx uv lod sampler color alpha) [color, alpha] := by
  have hPlaceholder : Assigns (n.placeholder color alpha) [color, alpha] := .assign _ _ _ (.assign _ _ _ .nil)
  rw [statements]
  split
  · exact hPlaceholder
  · split
    · exact Sampling.assigns_readInto _ _ _ _
    · split
      · exact hPlaceholder
      · exact Sampling.assigns_readInto _ _ _ _
    · exact Sampling.assigns_readInto _ _ _ _
    · exact Sampling.assigns_readInto _ _ _ _
    · exact Sampling.assigns_readInto _ _ _ _
    · split
      · exact hPlaceholder
      · exact .skip rfl (.assign _ _ _ (.assign _ _ _ .nil))

theorem TextureNode.assigns_body {n : TextureNode} {ctx : EmitContext} (hResults : results.length = n.outputs.length)
    (h : n.body ctx operands results = .ok code) : Assigns code (valueNames n.outputs results) := by
  obtain ⟨color, alpha, rfl⟩ := List.length_eq_two.mp hResults
  simp only [body, Except.bind_eq_ok_iff, Except.pure_eq_ok_iff] at h
  obtain ⟨_, -, _, -, _, -, _, hColor, _, hAlpha, rfl⟩ := h
  cases hColor
  cases hAlpha
  exact (n.assigns_statements ctx _ _ _ _ _).mono (valueNames_subset _ _)

theorem CubeMapNode.assigns_body {n : CubeMapNode} {ctx : EmitContext} (hResults : results.length = n.outputs.length)
    (h : n.body ctx operands results = .ok code) : Assigns code (valueNames n.outputs results) := by
  obtain ⟨color, alpha, rfl⟩ := List.length_eq_two.mp hResults
  simp only [body, Except.bind_eq_ok_iff, Except.pure_eq_ok_iff] at h
  obtain ⟨_, -, _, -, _, hColor, _, hAlpha, rfl⟩ := h
  cases hColor
  cases hAlpha
  exact Sampling.assigns_readInto _ _ _ _

theorem ExpressionNode.assigns_body {n : ExpressionNode} (hResults : results.length = n.outputPorts.length) :
    Assigns (n.body operands results) (valueNames n.outputPorts results) := by
  -- The user's code runs in a scope and may do anything. What counts are the copies after it.
  have hCopies : Assigns ((n.outputs.zip results).map fun x => Statement.assign 0 x.2 x.1.name)
      ((n.outputs.zip results).map Prod.snd) := .map _ fun _ => .assign _ _ _ .nil
  rw [outputPorts, List.length_map] at hResults
  rw [List.map_snd_zip hResults.le] at hCopies
  have hLines : Assigns ((Text.lines n.code.toList).map codeLine) [] := by
    refine .of_whole fun s hMem => ?_
    obtain ⟨line, -, rfl⟩ := List.mem_map.mp hMem
    rw [codeLine]
    split <;> rfl
  have hLocals :
      Assigns ((n.inputs.zip operands).map (fun x => defineInput x.1 x.2) ++ n.outputs.map defineOutput) [] := by
    refine .of_whole (List.forall_mem_append.mpr ⟨fun s hMem => ?_, fun s hMem => ?_⟩)
    · obtain ⟨x, -, rfl⟩ := List.mem_map.mp hMem
      rfl
    · obtain ⟨p, -, rfl⟩ := List.mem_map.mp hMem
      rfl
  exact ((hLocals.append hLines.scope).append hCopies).mono (valueNames_subset _ _)

theorem OutputNode.assigns_body (n : OutputNode) : Assigns (n.body operands) [] := by
  refine .of_whole fun s hMem => ?_
  obtain ⟨x, -, rfl⟩ := List.mem_map.mp hMem
  dsimp only [assignment]
  split <;> rfl

theorem StandardNode.assigns_body {n : StandardNode} {ctx : EmitContext}
    (hResults : results.length = (NodeModel.outputs n).length) (h : NodeModel.body n ctx operands results = .ok code) :
    Assigns code ((valueNames (NodeModel.outputs n) results).flatMap n.components) := by
  have hPlain {names : List String} (hAssigns : Assigns code names) :
      Assigns code (names.flatMap fun out => [out]) := by
    rwa [List.flatMap_singleton']
  change n.body ctx operands results = .ok code at h
  cases n with
  | output n =>
    cases h
    exact n.assigns_body
  | input n => exact hPlain (InputNode.assigns_body hResults h)
  | constant n => exact hPlain (Constant.assigns_body hResults h)
  | operator n => exact Operator.assigns_body hResults h
  | function n => exact hPlain (FunctionNode.assigns_body hResults h)
  | formula n =>
    cases h
    exact hPlain (Formula.assigns_body hResults)
  | logic n => exact hPlain (LogicNode.assigns_body hResults h)
  | uniform n => exact hPlain (UniformNode.assigns_body hResults h)
  | texture n => exact hPlain (TextureNode.assigns_body hResults h)
  | cubeMap n => exact hPlain (CubeMapNode.assigns_body hResults h)
  | expression n =>
    cases h
    exact hPlain (ExpressionNode.assigns_body hResults)
  | globalExpression n =>
    cases h
    exact .nil

end

namespace StandardNode

/-- A node with an operand for each input and a name for each output lacks a body only if it is a constant with a number
that is not finite, and the literal of that number is all that can fail. The text of a body holds an assignment to every
output that is not a sampler; a blend by channels assigns to the components one by one. -/
theorem body_assigns_outputs {n : StandardNode} {operands results : List String}
    (hOperands : operands.length = (NodeModel.inputs n).length)
    (hResults : results.length = (NodeModel.outputs n).length) (ctx : EmitContext) :
    (∀ failure, NodeModel.body n ctx operands results = .error failure → ∃ cause, failure = .literal cause) ∧
    ((∃ failure, NodeModel.body n ctx operands results = .error failure) ↔
      ∃ c x, n = .constant c ∧ x ∈ c.numbers ∧ x.isFinite = false) ∧
    ∀ code, NodeModel.body n ctx operands results = .ok code → ∀ (k : Nat) (port : Port) (out : String),
      (NodeModel.outputs n)[k]? = some port → port.type.isSampler = false → results[k]? = some out →
      ∀ name ∈ n.components out, Statement.AssignsIn (Statement.renderAll code) name := by
  refine ⟨?_, ?_, ?_⟩
  · intro failure hFails
    rcases body_cases hOperands hResults ctx with ⟨⟨code, hCode⟩, -⟩ | ⟨⟨cause, hCause⟩, -⟩
    · cases hFails.symm.trans hCode
    · cases hFails.symm.trans hCause
      exact ⟨cause, rfl⟩
  · rw [← not_isFinite_iff]
    rcases body_cases hOperands hResults ctx with ⟨⟨code, hCode⟩, hFinite⟩ | ⟨⟨cause, hCause⟩, hInfinite⟩
    · refine iff_of_false ?_ (not_not.mpr hFinite)
      rintro ⟨failure, hFails⟩
      cases hFails.symm.trans hCode
    · exact iff_of_true ⟨_, hCause⟩ hInfinite
  · intro code hCode k port out hPort hValue hResult name hName
    have hMem : out ∈ valueNames (NodeModel.outputs n) results := mem_valueNames hPort hValue hResult
    exact (assigns_body hResults hCode).assignsIn (List.mem_flatMap.mpr ⟨out, hMem, hName⟩)

theorem body_assigns_outputs_overlay :
    ∃ code, NodeModel.body (StandardNode.operator (.color .overlay)) ⟨.spatial, .fragment, 3, false⟩
        ["n2_0", "vec3(0.5)"] ["n3_0"] = .ok code ∧
      ∀ name ∈ ["n3_0.x", "n3_0.y", "n3_0.z"], Statement.AssignsIn (Statement.renderAll code) name := by
  have hOperands : ["n2_0", "vec3(0.5)"].length =
      (NodeModel.inputs (StandardNode.operator (.color .overlay))).length := rfl
  have hResults : ["n3_0"].length = (NodeModel.outputs (StandardNode.operator (.color .overlay))).length := rfl
  obtain ⟨-, -, hAssigns⟩ := body_assigns_outputs hOperands hResults ⟨.spatial, .fragment, 3, false⟩
  exact ⟨_, rfl, hAssigns _ rfl 0 (.output "op" .vector3) "n3_0" rfl rfl rfl⟩

end StandardNode

end ShadeGraph
