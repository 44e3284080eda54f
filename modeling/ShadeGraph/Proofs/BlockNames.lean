import ShadeGraph.Proofs.Mentions

/-!
# The names that blocks define

Nodes define few names in their blocks, and none of them begins like the variables of nodes. The block of an expression
defines the names of its ports, which are the user's.
-/

namespace ShadeGraph

/-- Whether a name begins like the variables of nodes. -/
def isNumbered (name : String) : Bool :=
  match name.toList with
  | 'n' :: c :: _ => c.isDigit
  | _ => false

theorem isNumbered_outputVariable (id : NodeId) (port : Nat) : isNumbered (outputVariable id port) = true := by
  rw [isNumbered, toList_outputVariable]
  cases hDigits : (Nat.repr id.toNat).toList with
  | nil => simp [Nat.repr, Nat.toDigits_ne_nil] at hDigits
  | cons c rest => exact Text.isDigit_of_mem_repr (by rw [hDigits]; exact List.mem_cons_self)

namespace Statement

/-- The name that a statement defines. -/
def definedName? : Statement → Option String
  | .define _ _ name _ => some name
  | _ => none

/-- The names that code defines for itself. Lines of the user's own are not looked into. -/
def definedNames (code : List Statement) : List String := code.filterMap definedName?

@[simp] theorem definedNames_nil : definedNames [] = [] := rfl

@[simp] theorem definedNames_assign (depth : Nat) (target value : String) (rest : List Statement) :
    definedNames (.assign depth target value :: rest) = definedNames rest := rfl

@[simp] theorem definedNames_define (depth : Nat) (type name value : String) (rest : List Statement) :
    definedNames (.define depth type name value :: rest) = name :: definedNames rest := rfl

@[simp] theorem definedNames_line (depth : Nat) (text : String) (rest : List Statement) :
    definedNames (.line depth text :: rest) = definedNames rest := rfl

@[simp] theorem definedNames_append (first second : List Statement) :
    definedNames (first ++ second) = definedNames first ++ definedNames second := List.filterMap_append

@[simp] theorem definedNames_scope (body : List Statement) : definedNames (scope body) = definedNames body := by
  simp [scope, opening, closing]

theorem definedNames_map {α : Type} (xs : List α) (name : α → String) {f : α → Statement}
    (h : ∀ x, (f x).definedName? = some (name x)) : definedNames (xs.map f) = xs.map name := by
  rw [definedNames, List.filterMap_map, ← List.filterMap_eq_map]
  exact congrArg (List.filterMap · xs) (funext h)

theorem definedNames_map_eq_nil {α : Type} (xs : List α) {f : α → Statement}
    (h : ∀ x, (f x).definedName? = none) : definedNames (xs.map f) = [] := by
  refine List.filterMap_eq_nil_iff.mpr fun s hMem => ?_
  obtain ⟨x, -, rfl⟩ := List.mem_map.mp hMem
  exact h x

end Statement

open Statement (definedNames)

section

variable {operands results : List String} {code : List Statement}

theorem OutputNode.definedNames_body (n : OutputNode) : definedNames (n.body operands) = [] := by
  refine Statement.definedNames_map_eq_nil _ fun ⟨target, value⟩ => ?_
  dsimp only [assignment]
  split <;> rfl

theorem InputNode.definedNames_body {n : InputNode} {ctx : EmitContext} (h : n.body ctx results = .ok code) :
    definedNames code = [] := by
  rw [body] at h
  split at h
  · cases h
    rfl
  · simp only [Except.bind_eq_ok_iff, Except.pure_eq_ok_iff] at h
    obtain ⟨out, -, rfl⟩ := h
    rfl

theorem Constant.definedNames_body {c : Constant} (h : c.body results = .ok code) : definedNames code = [] := by
  simp only [body, Except.bind_eq_ok_iff] at h
  obtain ⟨out, -, h⟩ := h
  cases c with
  | boolean value =>
    cases h
    rfl
  | color value =>
    simp only [Except.bind_eq_ok_iff, Except.pure_eq_ok_iff] at h
    obtain ⟨_, -, out', -, rfl⟩ := h
    rfl
  | scalar value | vector value | transform value =>
    simp only [Except.bind_eq_ok_iff, Except.pure_eq_ok_iff] at h
    obtain ⟨text, -, rfl⟩ := h
    rfl

theorem Operator.definedNames_channels (out a b low high : String) :
    definedNames (channels out a b low high) = ["base", "blend", "base", "blend", "base", "blend"] := by
  simp [channels, channel]

theorem Operator.definedNames_body {o : Operator} (h : o.body operands results = .ok code) :
    ∀ name ∈ definedNames code, isNumbered name = false := by
  simp only [body, Except.bind_eq_ok_iff] at h
  obtain ⟨out, -, a, -, b, -, h⟩ := h
  cases o with
  | color op =>
    cases h
    cases op with
    | overlay | softLight | hardLight =>
      rw [blend, definedNames_channels]
      decide
    | _ => simp [blend]
  | scalar op | vector op | transform op | transformVector op =>
    cases h
    simp

theorem FunctionNode.definedNames_body {n : FunctionNode} (h : n.body operands results = .ok code) :
    ∀ name ∈ definedNames code, isNumbered name = false := by
  simp only [body, Except.bind_eq_ok_iff, Except.pure_eq_ok_iff] at h
  obtain ⟨out, -, a, -, rfl⟩ := h
  cases n with
  | vector f =>
    rw [statements, vectorBody]
    split
    · simp
    · split
      · change ∀ name ∈ ["c", "K", "p", "q", "d", "e"], isNumbered name = false
        decide
      · change ∀ name ∈ ["c", "K", "p"], isNumbered name = false
        decide
  | color f =>
    cases f with
    | grayscale =>
      change ∀ name ∈ ["c", "max1", "max2"], isNumbered name = false
      decide
    | sepia =>
      change ∀ name ∈ ["c", "r", "g", "b"], isNumbered name = false
      decide
  | transform f => cases f <;> simp [statements]
  | scalar f | scalarDerivative f | vectorDerivative f => simp [statements]

theorem Formula.definedNames_body (f : Formula) : definedNames (f.body operands results) = [] :=
  Statement.definedNames_map_eq_nil _ fun _ => rfl

theorem Comparison.definedNames_body {c : Comparison} (h : c.body operands results = .ok code) :
    ∀ name ∈ definedNames code, isNumbered name = false := by
  simp only [body, Except.bind_eq_ok_iff] at h
  obtain ⟨out, -, h⟩ := h
  split at h
  · cases h
    simp
  · simp only [Except.bind_eq_ok_iff] at h
    obtain ⟨a, -, b, -, h⟩ := h
    split at h
    · cases h
      change ∀ name ∈ ["_bv"], isNumbered name = false
      decide
    · split at h
      · simp only [Except.bind_eq_ok_iff, Except.pure_eq_ok_iff] at h
        obtain ⟨near, -, rfl⟩ := h
        simp
      · cases h
        simp

theorem LogicNode.definedNames_body {n : LogicNode} (h : n.body operands results = .ok code) :
    ∀ name ∈ definedNames code, isNumbered name = false := by
  cases n with
  | compare c => exact Comparison.definedNames_body h
  | order =>
    simp only [body, Except.bind_eq_ok_iff, Except.pure_eq_ok_iff] at h
    obtain ⟨_, -, _, -, _, -, _, -, _, -, _, -, _, -, rfl⟩ := h
    simp [orderBody]
  | vectorSwitch | scalarSwitch =>
    simp only [body, Except.bind_eq_ok_iff, Except.pure_eq_ok_iff] at h
    obtain ⟨_, -, _, -, _, -, _, -, rfl⟩ := h
    simp [switchBody]
  | floatTest tested =>
    simp only [body, Except.bind_eq_ok_iff, Except.pure_eq_ok_iff] at h
    obtain ⟨_, -, _, -, rfl⟩ := h
    simp
  | fresnel =>
    simp only [body, Except.bind_eq_ok_iff, Except.pure_eq_ok_iff] at h
    obtain ⟨_, -, _, -, _, -, _, -, _, -, rfl⟩ := h
    simp

theorem ValueUniform.definedNames_body {u : ValueUniform} (h : u.body results = .ok code) : definedNames code = [] := by
  simp only [body, Except.bind_eq_ok_iff] at h
  obtain ⟨out, -, h⟩ := h
  split at h
  · simp only [Except.bind_eq_ok_iff, Except.pure_eq_ok_iff] at h
    obtain ⟨_, -, rfl⟩ := h
    rfl
  · cases h
    rfl

theorem TextureUniform.definedNames_body {u : TextureUniform} (h : u.body operands results = .ok code) :
    definedNames code = ["n_tex_read"] := by
  simp only [body, Except.bind_eq_ok_iff, Except.pure_eq_ok_iff] at h
  obtain ⟨_, -, _, -, _, -, _, -, rfl⟩ := h
  rfl

theorem UniformNode.mem_definedNames_iff {u : UniformNode} (h : u.body operands results = .ok code) {name : String} :
    name ∈ definedNames code ↔ name = "n_tex_read" ∧ ∃ t, u = .texture t := by
  cases u with
  | value u => simp [ValueUniform.definedNames_body h]
  | texture u => simp [TextureUniform.definedNames_body h]
  | cubeMap u =>
    cases h
    simp

/-- A texture node defines a name of its own only where it reads a sampler of its own. -/
theorem TextureNode.definedNames_body {n : TextureNode} {ctx : EmitContext}
    (h : n.body ctx operands results = .ok code) :
    ∀ name ∈ definedNames code,
      name = "_tex_read" ∨ name = "_depth" ∨ name = ownSampler ctx ++ "_read" ∧ n.source = .texture := by
  simp only [body, Except.bind_eq_ok_iff, Except.pure_eq_ok_iff] at h
  obtain ⟨_, -, _, -, _, -, _, -, _, -, rfl⟩ := h
  rw [statements]
  split
  · simp [placeholder]
  · cases hSource : n.source with
    | texture | screen | texture2D | normalMap2D => simp [Sampling.readInto]
    | samplerPort =>
      dsimp only
      split <;> simp [placeholder, Sampling.readInto]
    | depth =>
      dsimp only
      split <;> simp [placeholder, readDepth]

theorem TextureNode.ownSampler_not_mem_definedNames {n : TextureNode} {ctx : EmitContext}
    (h : n.body ctx operands results = .ok code) : ownSampler ctx ∉ definedNames code := by
  have hStart : (ownSampler ctx).toList.head? = some 't' := by
    simp [ownSampler, EmitContext.ownName, String.toList_append]
  intro hMem
  rcases definedNames_body h _ hMem with hSame | hSame | ⟨hSame, -⟩
  · rw [hSame] at hStart
    cases hStart
  · rw [hSame] at hStart
    cases hStart
  · have hLength := congrArg String.length hSame
    have hTail : "_read".length = 5 := by decide
    rw [String.length_append, hTail] at hLength
    omega

theorem CubeMapNode.definedNames_body {n : CubeMapNode} {ctx : EmitContext}
    (h : n.body ctx operands results = .ok code) :
    definedNames code = ["_cube_read"] := by
  simp only [body, Except.bind_eq_ok_iff, Except.pure_eq_ok_iff] at h
  obtain ⟨_, -, _, -, _, -, _, -, rfl⟩ := h
  rfl

/-- The block of an expression defines its ports. -/
theorem ExpressionNode.definedNames_body (n : ExpressionNode) (hOperands : operands.length = n.inputs.length) :
    definedNames (n.body operands results) = (n.inputs ++ n.outputs).map LocalPort.name := by
  have hLine (line : List Char) : (codeLine line).definedName? = none := by
    rw [codeLine]
    split <;> rfl
  have hNames : (n.inputs.zip operands).map (LocalPort.name ∘ Prod.fst) = n.inputs.map LocalPort.name := by
    rw [← List.map_map, List.map_fst_zip hOperands.ge]
  rw [body, Statement.definedNames_append, Statement.definedNames_append, Statement.definedNames_append,
    Statement.definedNames_scope, Statement.definedNames_map_eq_nil _ hLine,
    Statement.definedNames_map_eq_nil (n.outputs.zip results) fun _ => rfl,
    Statement.definedNames_map n.outputs LocalPort.name fun _ => rfl,
    Statement.definedNames_map (n.inputs.zip operands) (LocalPort.name ∘ Prod.fst) fun _ => rfl, hNames,
    List.append_nil, List.append_nil, List.map_append]

/-- Only the ports of expressions can be named like the variables of nodes. -/
theorem StandardNode.not_isNumbered_of_mem_definedNames {n : StandardNode} {ctx : EmitContext}
    (hOther : ∀ m, n ≠ .expression m) (h : NodeModel.body n ctx operands results = .ok code) {name : String}
    (hMem : name ∈ definedNames code) : isNumbered name = false := by
  change n.body ctx operands results = .ok code at h
  cases n with
  | output n =>
    cases h
    rw [n.definedNames_body] at hMem
    cases hMem
  | input n =>
    rw [InputNode.definedNames_body h] at hMem
    cases hMem
  | constant n =>
    rw [Constant.definedNames_body h] at hMem
    cases hMem
  | operator n => exact Operator.definedNames_body h name hMem
  | function n => exact FunctionNode.definedNames_body h name hMem
  | formula n =>
    cases h
    rw [Formula.definedNames_body] at hMem
    cases hMem
  | logic n => exact LogicNode.definedNames_body h name hMem
  | uniform n =>
    rw [((UniformNode.mem_definedNames_iff h).mp hMem).1]
    decide
  | texture n =>
    rcases TextureNode.definedNames_body h name hMem with rfl | rfl | ⟨rfl, -⟩
    · decide
    · decide
    · simp [isNumbered, TextureNode.ownSampler, EmitContext.ownName, String.toList_append]
  | cubeMap n =>
    rw [CubeMapNode.definedNames_body h, List.mem_singleton] at hMem
    rw [hMem]
    decide
  | expression n => exact (hOther n rfl).elim
  | globalExpression n =>
    cases h
    cases hMem

end

end ShadeGraph
