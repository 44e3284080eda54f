import ShadeGraph.Proofs.Canonical
import ShadeGraph.Proofs.Regular

/-!
# What has a literal

A value has a literal exactly if all its numbers are finite. The defaults of all ports and the overrides of all
reachable designs have one. So of the nodes that are given what they ask for, only constants can lack a body.
-/

namespace ShadeGraph

/-! ## Values -/

theorem Single.exists_literal_iff {x : Single} : (∃ text, x.literal = .ok text) ↔ x.isFinite = true := by
  rw [Single.literal]
  split
  · simp [*]
  · simp [*]

theorem Vec3.exists_components_iff {v : Vec3} :
    (∃ text, v.components = .ok text) ↔ ∀ x ∈ v.toList, x.isFinite = true := by
  simp only [components, toList, Except.bind_eq_ok_iff, Except.pure_eq_ok_iff, List.forall_mem_cons,
    ← Single.exists_literal_iff, List.not_mem_nil, false_implies, implies_true, and_true]
  constructor
  · rintro ⟨_, x, hx, y, hy, z, hz, -⟩
    exact ⟨⟨x, hx⟩, ⟨y, hy⟩, ⟨z, hz⟩⟩
  · rintro ⟨⟨x, hx⟩, ⟨y, hy⟩, ⟨z, hz⟩⟩
    exact ⟨_, x, hx, y, hy, z, hz, rfl⟩

theorem Vec3.exists_literal_iff {v : Vec3} :
    (∃ text, v.literal = .ok text) ↔ ∀ x ∈ v.toList, x.isFinite = true := by
  rw [← exists_components_iff]
  simp only [literal, Except.bind_eq_ok_iff, Except.pure_eq_ok_iff]
  constructor
  · rintro ⟨_, text, hText, -⟩
    exact ⟨text, hText⟩
  · rintro ⟨text, hText⟩
    exact ⟨_, text, hText, rfl⟩

theorem Color.exists_literals_iff {c : Color} :
    (∃ texts, c.literals = .ok texts) ↔ ∀ x ∈ c.toList, x.isFinite = true := by
  have hNumbers : (∀ x ∈ c.toList, x.isFinite = true) ↔
      (∀ x ∈ c.rgb.toList, x.isFinite = true) ∧ c.a.isFinite = true := by
    simp [toList, rgb, Vec3.toList, and_assoc]
  rw [hNumbers, ← Vec3.exists_literal_iff, ← Single.exists_literal_iff]
  simp only [literals, Except.bind_eq_ok_iff, Except.pure_eq_ok_iff]
  constructor
  · rintro ⟨_, rgb, hRgb, alpha, hAlpha, -⟩
    exact ⟨⟨rgb, hRgb⟩, ⟨alpha, hAlpha⟩⟩
  · rintro ⟨⟨rgb, hRgb⟩, ⟨alpha, hAlpha⟩⟩
    exact ⟨_, rgb, hRgb, alpha, hAlpha, rfl⟩

/-- Columns are written, rows are stored, and their numbers are the same. -/
theorem Transform.exists_literal_iff {t : Transform} :
    (∃ text, t.literal = .ok text) ↔ ∀ x ∈ t.toList, x.isFinite = true := by
  have hNumbers : (∀ x ∈ t.toList, x.isFinite = true) ↔
      (∀ x ∈ t.column0.toList, x.isFinite = true) ∧ (∀ x ∈ t.column1.toList, x.isFinite = true) ∧
        (∀ x ∈ t.column2.toList, x.isFinite = true) ∧ ∀ x ∈ t.origin.toList, x.isFinite = true := by
    simp only [toList, Vec3.toList, column0, column1, column2, List.forall_mem_append, List.forall_mem_cons,
      List.not_mem_nil, false_implies, implies_true, and_true]
    tauto
  rw [hNumbers]
  simp only [← Vec3.exists_components_iff]
  simp only [literal, Except.bind_eq_ok_iff, Except.pure_eq_ok_iff]
  constructor
  · rintro ⟨_, column0, h0, column1, h1, column2, h2, origin, h3, -⟩
    exact ⟨⟨column0, h0⟩, ⟨column1, h1⟩, ⟨column2, h2⟩, ⟨origin, h3⟩⟩
  · rintro ⟨⟨column0, h0⟩, ⟨column1, h1⟩, ⟨column2, h2⟩, ⟨origin, h3⟩⟩
    exact ⟨_, column0, h0, column1, h1, column2, h2, origin, h3, rfl⟩

theorem PortValue.exists_literal_iff {v : PortValue} :
    (∃ text, v.literal = .ok text) ↔ ∀ x ∈ v.numbers, x.isFinite = true := by
  cases v with
  | scalar v => simpa [numbers, literal] using Single.exists_literal_iff
  | vector3 v => exact Vec3.exists_literal_iff
  | boolean v => simp [numbers, literal]
  | transform t => exact Transform.exists_literal_iff

/-! ## Defaults and hints of ports -/

/-- Whether the default, if there is one, has a literal. -/
def Port.isEncodable (p : Port) : Bool := p.default?.all fun value => value.numbers.all Single.isFinite

/-- Whether the default, if there is one, has the type of the port. -/
def Port.isTyped (p : Port) : Bool := p.default?.all fun value => value.type = p.type

/-- The coordinates that vertices and fragments have. -/
def Hint.coordinates : Hint := ⟨"vec3(UV, 0.0)", [.vertex, .fragment]⟩

/-- Whether the hint, if there is one, is that of the coordinates. -/
def Port.isLocated (p : Port) : Bool := p.hint?.all (· = .coordinates)

namespace StandardNode

theorem all_inputs (n : StandardNode) :
    (NodeModel.inputs n).all (fun p => p.isTyped && p.isEncodable && p.isLocated) = true := by
  change n.inputs.all (fun p => p.isTyped && p.isEncodable && p.isLocated) = true
  cases n with
  | input | constant | globalExpression | texture | cubeMap => rfl
  | output n =>
    rw [List.all_eq_true]
    intro p hMem
    obtain ⟨b, -, rfl⟩ := List.mem_map.mp hMem
    rfl
  | operator n => cases n <;> rfl
  | function n => cases n <;> rfl
  | formula n => cases n <;> rfl
  | logic n =>
    cases n with
    | compare c =>
      obtain ⟨type, relation, quantifier⟩ := c
      cases type <;> cases relation <;> rfl
    | _ => rfl
  | uniform n =>
    cases n with
    | texture u =>
      obtain ⟨triplanar, name, texture, unbound, resource⟩ := u
      cases triplanar <;> rfl
    | _ => rfl
  | expression n =>
    rw [List.all_eq_true]
    intro p hMem
    obtain ⟨⟨type, name⟩, -, rfl⟩ := List.mem_map.mp hMem
    cases type <;> rfl

theorem hint?_eq {n : StandardNode} {port : Port} (hMem : port ∈ NodeModel.inputs n) {hint : Hint}
    (h : port.hint? = some hint) : hint = .coordinates := by
  have hAll := List.all_eq_true.mp n.all_inputs port hMem
  simp only [Port.isLocated, h, Option.all_some, Bool.and_eq_true, decide_eq_true_eq] at hAll
  exact hAll.2

end StandardNode

/-! ## Bodies -/

theorem operand_eq_ok {operands : List String} {port : Nat} (h : port < operands.length) :
    operand operands port = .ok (operands.get ⟨port, h⟩) := by
  simp [operand, h]

/-- A body made of one literal is there or not as the literal is. -/
theorem literalOf_bind_cases {α : Type} {literal : Except LiteralError α} {IsFinite : Prop}
    (h : (∃ text, literal = .ok text) ↔ IsFinite) (code : α → List Statement) :
    ((∃ body, (literalOf literal >>= fun text => .ok (code text)) = .ok body) ∧ IsFinite) ∨
      (∃ cause, (literalOf literal >>= fun text => .ok (code text)) = .error (.literal cause)) ∧ ¬IsFinite := by
  rw [← h]
  cases literal with
  | ok text => exact .inl ⟨⟨code text, rfl⟩, text, rfl⟩
  | error cause => exact .inr ⟨⟨cause, rfl⟩, by simp⟩

namespace Constant

def numbers : Constant → List Single
  | .scalar v => [v]
  | .boolean _ => []
  | .color c => c.toList
  | .vector v => v.toList
  | .transform t => t.toList

def IsFinite (c : Constant) : Prop := ∀ x ∈ c.numbers, x.isFinite = true

theorem body_cases {c : Constant} {results : List String} (h : results.length = c.outputs.length) :
    ((∃ code, c.body results = .ok code) ∧ c.IsFinite) ∨
      (∃ cause, c.body results = .error (.literal cause)) ∧ ¬c.IsFinite := by
  cases c with
  | scalar v =>
    obtain ⟨out, rfl⟩ := List.length_eq_one_iff.mp h
    have hFinite : (∃ text, v.literal = .ok text) ↔ (scalar v).IsFinite := by
      simpa [IsFinite, numbers] using Single.exists_literal_iff
    exact literalOf_bind_cases hFinite fun text => [.assign 0 out text]
  | boolean v =>
    obtain ⟨out, rfl⟩ := List.length_eq_one_iff.mp h
    exact .inl ⟨⟨_, rfl⟩, by simp [IsFinite, numbers]⟩
  | color c =>
    obtain ⟨out, alpha, rfl⟩ := List.length_eq_two.mp h
    exact literalOf_bind_cases Color.exists_literals_iff fun texts => [.assign 0 out texts.1, .assign 0 alpha texts.2]
  | vector v =>
    obtain ⟨out, rfl⟩ := List.length_eq_one_iff.mp h
    exact literalOf_bind_cases Vec3.exists_literal_iff fun text => [.assign 0 out text]
  | transform t =>
    obtain ⟨out, rfl⟩ := List.length_eq_one_iff.mp h
    exact literalOf_bind_cases Transform.exists_literal_iff fun text => [.assign 0 out text]

end Constant

theorem Operator.exists_body {n : Operator} {operands results : List String}
    (hOperands : operands.length = n.inputs.length) (hResults : results.length = n.outputs.length) :
    ∃ code, n.body operands results = .ok code := by
  have hTwo : operands.length = 2 := hOperands.trans (by cases n <;> rfl)
  have hOne : results.length = 1 := hResults.trans (by cases n <;> rfl)
  cases n <;> simp [body, operand_eq_ok, hTwo, hOne]

theorem FunctionNode.exists_body {n : FunctionNode} {operands results : List String}
    (hOperands : operands.length = n.inputs.length) (hResults : results.length = n.outputs.length) :
    ∃ code, n.body operands results = .ok code := by
  have hOne : operands.length = 1 := hOperands.trans (by cases n <;> rfl)
  have hOut : results.length = 1 := hResults
  simp [body, operand_eq_ok, hOne, hOut]

/-- The third operand is there where it is read. -/
theorem Comparison.exists_body {c : Comparison} {operands results : List String}
    (hOperands : operands.length = c.inputs.length) (hResults : results.length = 1) :
    ∃ code, c.body operands results = .ok code := by
  have hTwo : 2 ≤ operands.length := by
    rw [hOperands, inputs, List.length_append]
    exact Nat.le_add_right 2 _
  have hThree : c.hasTolerance = true → 2 < operands.length := by
    intro hTolerance
    rw [hOperands, inputs, hTolerance]
    exact Nat.lt_succ_self 2
  have hFirst : 0 < operands.length := by omega
  have hSecond : 1 < operands.length := by omega
  have hOut : 0 < results.length := by omega
  simp only [body, operand_eq_ok hFirst, operand_eq_ok hSecond, operand_eq_ok hOut]
  change ∃ code, (if c.isInvalid = true then _ else _) = _
  split
  · exact ⟨_, rfl⟩
  · split
    · exact ⟨_, rfl⟩
    · split
      · rename_i hTolerance
        rw [operand_eq_ok (hThree hTolerance)]
        exact ⟨_, rfl⟩
      · exact ⟨_, rfl⟩

theorem LogicNode.exists_body {n : LogicNode} {operands results : List String}
    (hOperands : operands.length = n.inputs.length) (hResults : results.length = n.outputs.length) :
    ∃ code, n.body operands results = .ok code := by
  have hOne : results.length = 1 := hResults.trans (by cases n <;> rfl)
  cases n with
  | compare c => exact Comparison.exists_body hOperands hOne
  | _ =>
    simp only [inputs, List.length_cons, List.length_nil] at hOperands
    simp [body, operand_eq_ok, hOperands, hOne]

theorem UniformNode.exists_body {n : UniformNode} {operands results : List String}
    (hOperands : operands.length = n.inputs.length) (hResults : results.length = n.outputs.length) :
    ∃ code, n.body operands results = .ok code := by
  cases n with
  | value u =>
    obtain ⟨type, name⟩ := u
    cases type <;> simp only [outputs, ValueUniform.outputs, List.length_cons, List.length_nil] at hResults <;>
      simp [body, ValueUniform.body, operand_eq_ok, hResults]
  | texture u =>
    have hTwo : operands.length = 2 := by
      rw [hOperands, inputs, TextureUniform.inputs]
      split <;> rfl
    have hOut : results.length = 3 := hResults
    simp [body, TextureUniform.body, operand_eq_ok, hTwo, hOut]
  | cubeMap u => exact ⟨[], rfl⟩

theorem TextureNode.exists_body {n : TextureNode} {operands results : List String}
    (hOperands : operands.length = n.inputs.length) (hResults : results.length = n.outputs.length) (ctx : EmitContext) :
    ∃ code, n.body ctx operands results = .ok code := by
  have hThree : operands.length = 3 := hOperands
  have hOut : results.length = 2 := hResults
  simp [body, operand_eq_ok, hThree, hOut]

theorem CubeMapNode.exists_body {n : CubeMapNode} {operands results : List String}
    (hOperands : operands.length = n.inputs.length) (hResults : results.length = n.outputs.length) (ctx : EmitContext) :
    ∃ code, n.body ctx operands results = .ok code := by
  have hThree : operands.length = 3 := hOperands
  have hOut : results.length = 2 := hResults
  have hSampler : ∃ name, n.sampler ctx operands = .ok name := by
    rw [sampler]
    split <;> simp [operand_eq_ok, hThree]
  obtain ⟨name, hName⟩ := hSampler
  have hRead : ∃ value, readExpression name operands = .ok value := by
    rw [readExpression]
    split <;> simp [operand_eq_ok, hThree]
  obtain ⟨value, hValue⟩ := hRead
  simp [body, hName, hValue, operand_eq_ok, hOut]

namespace StandardNode

/-- Not a constant with a number that is not finite. -/
def IsFinite (n : StandardNode) : Prop := ∀ c, n = .constant c → c.IsFinite

theorem not_isFinite_iff {n : StandardNode} :
    ¬n.IsFinite ↔ ∃ c x, n = .constant c ∧ x ∈ c.numbers ∧ x.isFinite = false := by
  simp [IsFinite, Constant.IsFinite]

/-- A node that is given an operand for each input and a name for each output has a body, unless it is a constant
without a literal. -/
theorem body_cases {n : StandardNode} {operands results : List String}
    (hOperands : operands.length = (NodeModel.inputs n).length)
    (hResults : results.length = (NodeModel.outputs n).length) (ctx : EmitContext) :
    ((∃ code, NodeModel.body n ctx operands results = .ok code) ∧ n.IsFinite) ∨
      (∃ cause, NodeModel.body n ctx operands results = .error (.literal cause)) ∧ ¬n.IsFinite := by
  by_cases hConstant : ∃ c, n = .constant c
  · obtain ⟨c, rfl⟩ := hConstant
    have hFinite : (constant c).IsFinite ↔ c.IsFinite := by simp [IsFinite]
    rw [hFinite]
    exact Constant.body_cases hResults
  · refine .inl ⟨?_, fun c hSame => (hConstant ⟨c, hSame⟩).elim⟩
    cases n with
    | constant c => exact (hConstant ⟨c, rfl⟩).elim
    | output | formula | expression | globalExpression => exact ⟨_, rfl⟩
    | input n =>
      have hOne : results.length = 1 := hResults
      change ∃ code, n.body ctx results = .ok code
      rw [InputNode.body]
      split <;> simp [operand_eq_ok, hOne]
    | operator n => exact Operator.exists_body hOperands hResults
    | function n => exact FunctionNode.exists_body hOperands hResults
    | logic n => exact LogicNode.exists_body hOperands hResults
    | uniform n => exact UniformNode.exists_body hOperands hResults
    | texture n => exact TextureNode.exists_body hOperands hResults ctx
    | cubeMap n => exact CubeMapNode.exists_body hOperands hResults ctx

end StandardNode

/-! ## Properties of single nodes -/

/-- A property of nodes that is kept by all that edits do to a node, apart from changes of the mode. -/
structure PlacedNode.IsStable (P : PlacedNode StandardNode → Prop) : Prop where
  fresh : ∀ node position, P ⟨node, position, .empty⟩
  move : ∀ n position, P n → P { n with position }
  prune : ∀ n node, P n → P { n with node }.prune
  insert : ∀ n port value, P n → NodeModel.portType? n.node .input port = some value.type →
    (∃ text, value.literal = .ok text) → P { n with overrides := n.overrides.insert port value }
  erase : ∀ n port, P n → P { n with overrides := n.overrides.erase port }

namespace Design

variable {d d' : Design StandardNode} {P : PlacedNode StandardNode → Prop}

/-- All nodes of a design have a property. -/
def All (P : PlacedNode StandardNode → Prop) (d : Design StandardNode) : Prop :=
  ∀ stage id n, d.placed? stage id = some n → P n

theorem All.withGraph (h : d.All P) {stage : Stage} {g : StageGraph StandardNode}
    (hGraph : ∀ id n, g.placed? id = some n → P n) : (d.withGraph stage g).All P := by
  intro stage' id n hPlaced
  rw [placed?_withGraph] at hPlaced
  split at hPlaced
  · exact hGraph id n hPlaced
  · exact h stage' id n hPlaced

theorem All.modify (h : d.All P) {stage : Stage} {id : NodeId} {f : PlacedNode StandardNode → PlacedNode StandardNode}
    (hNode : ∀ n, d.placed? stage id = some n → P n → P (f n)) {g : StageGraph StandardNode}
    (hNodes : g.nodes = ((d.graph stage).modify id f).nodes) : (d.withGraph stage g).All P := by
  apply h.withGraph
  intro id' n hPlaced
  rw [StageGraph.placed?, hNodes] at hPlaced
  have hModified : ((d.graph stage).modify id f).placed? id' = some n := hPlaced
  rw [StageGraph.placed?_modify] at hModified
  split at hModified
  · rename_i hId
    subst hId
    obtain ⟨old, hOld, rfl⟩ := Option.map_eq_some_iff.mp hModified
    exact hNode old hOld (h stage id' old hOld)
  · exact h stage id' n hModified

theorem All.apply (hStable : PlacedNode.IsStable P) (h : d.All P) {edit : Edit StandardNode}
    (hEdit : ∀ mode, edit ≠ .setMode mode) (hApply : edit.apply d = .ok d') : d'.All P := by
  cases edit with
  | setMode mode => exact absurd rfl (hEdit mode)
  | add stage id position n =>
    obtain ⟨-, -, -, m, -, rfl⟩ := add_eq_ok_iff.mp hApply
    apply h.withGraph
    intro id' n' hPlaced
    rw [StageGraph.placed?_insert] at hPlaced
    split at hPlaced
    · cases hPlaced
      exact hStable.fresh m position
    · exact h stage id' n' hPlaced
  | remove stage id =>
    obtain ⟨-, -, rfl⟩ := remove_eq_ok_iff.mp hApply
    apply h.withGraph
    intro id' n' hPlaced
    rw [StageGraph.placed?_erase] at hPlaced
    split at hPlaced
    · cases hPlaced
    · exact h stage id' n' hPlaced
  | move stage id position =>
    obtain ⟨-, rfl⟩ := move_eq_ok_iff.mp hApply
    exact h.modify (fun n _ hOld => hStable.move n position hOld) rfl
  | setParam stage id name value =>
    obtain ⟨-, -, m, -, rfl⟩ := setParam_eq_ok_iff.mp hApply
    exact h.modify (fun n _ hOld => hStable.prune n (NodeModel.bind d.mode stage m) hOld) rfl
  | setDefault stage id port value =>
    obtain ⟨⟨n, hNode, hType⟩, hLiteral, rfl⟩ := setDefault_eq_ok_iff.mp hApply
    refine h.modify (fun placed hPlaced hOld => hStable.insert placed port value hOld ?_ hLiteral) rfl
    obtain ⟨placed', hPlaced', rfl⟩ := exists_placed_of_node? hNode
    cases hPlaced.symm.trans hPlaced'
    exact hType
  | clearDefault stage id port =>
    cases hApply
    exact h.modify (fun n _ hOld => hStable.erase n port hOld) rfl
  | connect stage e =>
    obtain ⟨g, hConnect, rfl⟩ := connect_eq_ok_iff.mp hApply
    obtain ⟨-, rfl⟩ := StageGraph.connect_eq_ok_iff.mp hConnect
    exact h.withGraph fun id n hPlaced => h stage id n hPlaced
  | disconnect stage e =>
    cases hApply
    exact h.withGraph fun id n hPlaced => h stage id n hPlaced
  | setOption group option =>
    obtain ⟨-, rfl⟩ := setOption_eq_ok_iff.mp hApply
    exact h
  | setFlag flag on =>
    obtain ⟨-, rfl⟩ := setFlag_eq_ok_iff.mp hApply
    exact h
  | clearOption | scroll =>
    cases hApply
    exact h

theorem All.join (h : d.All P) {stage : Stage} {e : Edge} (hJoin : d.join stage e = .ok d') : d'.All P := by
  obtain ⟨g, hGraph, rfl⟩ := join_eq_ok_iff.mp hJoin
  obtain ⟨-, rfl⟩ := StageGraph.join_eq_ok_iff.mp hGraph
  exact h.withGraph fun id n hPlaced => h stage id n hPlaced

end Design

/-! ## Overrides -/

namespace PlacedNode

/-- All overrides have literals. -/
def Encodes {ν : Type} (n : PlacedNode ν) : Prop :=
  ∀ port value, n.overrides.get? port = some value → ∃ text, value.literal = .ok text

variable {n : PlacedNode StandardNode}

theorem isStable_encodes : IsStable Encodes where
  fresh _ _ port value hGet := by cases hGet
  move _ _ h := h
  prune n node h port value hGet := by
    rw [PlacedNode.prune, Table.get?_filter] at hGet
    exact h port value (Option.filter_eq_some_iff.mp hGet).1
  insert n port value h _ hLiteral port' value' hGet := by
    rw [Table.get?_insert] at hGet
    split at hGet
    · cases hGet
      exact hLiteral
    · exact h port' value' hGet
  erase n port h port' value' hGet := by
    rw [Table.get?_erase] at hGet
    split at hGet
    · cases hGet
    · exact h port' value' hGet

theorem of_inputDefault? {n : StandardNode} {port : Nat} {value : PortValue}
    (h : NodeModel.inputDefault? n port = some value) :
    NodeModel.portType? n .input port = some value.type ∧ ∀ x ∈ value.numbers, x.isFinite = true := by
  obtain ⟨p, hInput, hValue⟩ := Option.bind_eq_some_iff.mp h
  have hAll := List.all_eq_true.mp (StandardNode.all_inputs n) p (List.mem_of_getElem? hInput)
  simp only [Port.isTyped, Port.isEncodable, hValue, Option.all_some, Bool.and_eq_true, decide_eq_true_eq,
    List.all_eq_true] at hAll
  rw [NodeModel.portType?, hInput, Option.map_some, hAll.1.1]
  exact ⟨rfl, hAll.1.2⟩

/-- What an input reads that nothing feeds has a literal. -/
theorem Encodes.exists_literal (h : n.Encodes) {port : Nat} {value : PortValue}
    (hDefault : n.default? port = some value) :
    ∃ text, value.literal = .ok text := by
  rcases Option.or_eq_some_iff.mp hDefault with hOverride | ⟨-, hPort⟩
  · exact h port value hOverride
  · exact PortValue.exists_literal_iff.mpr (of_inputDefault? hPort).2

end PlacedNode

namespace Design

variable {d d' : Design StandardNode}

def Encodes (d : Design StandardNode) : Prop := ∀ stage id n, d.placed? stage id = some n → n.Encodes

theorem Encodes.apply (h : d.Encodes) {edit : Edit StandardNode} (hApply : edit.apply d = .ok d') : d'.Encodes := by
  by_cases hMode : ∃ mode, edit = .setMode mode
  · obtain ⟨mode, rfl⟩ := hMode
    cases hApply
    by_cases hSame : mode = d.mode
    · rw [Design.setMode, if_pos hSame]
      exact h
    · intro stage id n hPlaced
      rw [placed?_setMode hSame, Option.map_eq_some_iff] at hPlaced
      obtain ⟨old, hOld, rfl⟩ := hPlaced
      exact h stage id old hOld
  · exact All.apply PlacedNode.isStable_encodes h (fun mode hEdit => hMode ⟨mode, hEdit⟩) hApply

theorem Encodes.step (h : d.Encodes) (hStep : Step d d') : d'.Encodes := by
  cases hStep with
  | edit edit _ hApply => exact h.apply hApply
  | join stage e _ hJoin => exact All.join h hJoin

theorem encodes_empty (mode : Mode) : (empty mode : Design StandardNode).Encodes := by
  intro stage id n hPlaced
  rw [placed?_empty] at hPlaced
  split at hPlaced
  · cases hPlaced
    exact PlacedNode.isStable_encodes.fresh _ _
  · cases hPlaced

/-- No edit lets in an override that has no literal. -/
theorem Reachable.encodes (h : d.Reachable) : d.Encodes :=
  h.induction encodes_empty fun _ _ hEncodes hStep => hEncodes.step hStep

end Design

end ShadeGraph
