import ShadeGraph.Proofs.Reachable
import ShadeGraph.Proofs.Slots

/-!
# Nodes are rebuilt from their parameters

A document holds the kind of a node and the texts of its parameters. A fresh node of that kind that takes these
texts one after the other becomes the node again, apart from the bits of numbers that are not numbers.
-/

namespace ShadeGraph

namespace ParamSlot

variable {ν μ : Type}

/-- What a document holds of a slot: its name and its text. -/
def saved (slot : ParamSlot ν) : String × String := (slot.spec.name, slot.written)

/-- One node becomes another by texts that its slots take one after the other. -/
inductive Fills (slots : ν → List (ParamSlot ν)) : ν → List (String × String) → ν → Prop
  | done (n : ν) : Fills slots n [] n
  | take {n n' m : ν} {slot : ParamSlot ν} {name text : String} {rest : List (String × String)}
      (hFind : find? (slots n) name = some slot) (hTakes : slot.Takes text n') (hRest : Fills slots n' rest m) :
      Fills slots n ((name, text) :: rest) m

theorem find?_map (f : ν → μ) (slots : List (ParamSlot ν)) (name : String) :
    find? (slots.map (·.map f)) name = (find? slots name).map (·.map f) := by
  rw [find?, List.find?_map]
  rfl

theorem Fills.map {slots : ν → List (ParamSlot ν)} {slots' : μ → List (ParamSlot μ)} (f : ν → μ)
    (hSlots : ∀ n, slots' (f n) = (slots n).map (·.map f)) {n m : ν} {texts : List (String × String)}
    (h : Fills slots n texts m) : Fills slots' (f n) texts (f m) := by
  induction h with
  | done n => exact .done (f n)
  | take hFind hTakes _ ih =>
    refine .take ?_ (hTakes.map f) ih
    rw [hSlots, find?_map, hFind]
    rfl

/-- A node with the slots of a part is rebuilt from its slots as the part is from its own. -/
theorem Fills.lift {slots : ν → List (ParamSlot ν)} {slots' : μ → List (ParamSlot μ)} (f : ν → μ)
    (hSlots : ∀ n, slots' (f n) = (slots n).map (·.map f)) {start n m : ν}
    (h : Fills slots start ((slots n).map saved) m) :
    Fills slots' (f start) ((slots' (f n)).map saved) (f m) := by
  have hSaved : (slots' (f n)).map saved = (slots n).map saved := by
    rw [hSlots, List.map_map]
    rfl
  rw [hSaved]
  exact Fills.map f hSlots h

end ParamSlot

open ParamSlot

/-! ## Constants, operators and functions -/

namespace Constant

def canonical : Constant → Constant
  | .scalar value => .scalar value.canonical
  | .boolean value => .boolean value
  | .color value => .color value.canonical
  | .vector value => .vector value.canonical
  | .transform value => .transform value.canonical

def fresh : Constant → Constant
  | .scalar _ => .scalar .zero
  | .boolean _ => .boolean false
  | .color _ => .color .white
  | .vector _ => .vector .zero
  | .transform _ => .transform .identity

theorem fills_fresh (c : Constant) : Fills slots c.fresh (c.slots.map saved) c.canonical := by
  cases c with
  | scalar v => exact .take rfl (takes_float _ _ v _ _) (.done _)
  | boolean v => exact .take rfl (takes_bool _ _ v _ _) (.done _)
  | color v => exact .take rfl (takes_color _ _ v _ _) (.done _)
  | vector v => exact .take rfl (takes_vector3 _ _ v _ _) (.done _)
  | transform v => exact .take rfl (takes_transform _ _ v _ _) (.done _)

end Constant

namespace Operator

def fresh : Operator → Operator
  | .scalar _ => .scalar .add
  | .vector _ => .vector .add
  | .color _ => .color .screen
  | .transform _ => .transform .ab
  | .transformVector _ => .transformVector .ab

theorem fills_fresh (n : Operator) : Fills slots n.fresh (n.slots.map saved) n := by
  cases n <;> exact .take rfl (takes_choice _ _ _ _ _) (.done _)

end Operator

namespace FunctionNode

def fresh : FunctionNode → FunctionNode
  | .scalar _ => .scalar .sign
  | .vector _ => .vector .normalize
  | .color _ => .color .grayscale
  | .transform _ => .transform .inverse
  | .scalarDerivative _ => .scalarDerivative .sum
  | .vectorDerivative _ => .vectorDerivative .sum

theorem fills_fresh (n : FunctionNode) : Fills slots n.fresh (n.slots.map saved) n := by
  cases n <;> exact .take rfl (takes_choice _ _ _ _ _) (.done _)

end FunctionNode

/-! ## Comparison and selection -/

theorem Comparison.fills (start c : Comparison) : Fills slots start (c.slots.map saved) c :=
  .take rfl (takes_choice _ _ c.type _ _) <| .take rfl (takes_choice _ _ c.relation _ _) <|
    .take rfl (takes_choice _ _ c.quantifier _ _) (.done _)

namespace LogicNode

def fresh : LogicNode → LogicNode
  | .floatTest _ => .floatTest .inf
  | .compare _ => .compare {}
  | n => n

theorem fills_fresh (n : LogicNode) : Fills slots n.fresh (n.slots.map saved) n := by
  cases n with
  | floatTest tested => exact .take rfl (takes_choice _ _ tested _ _) (.done _)
  | compare c => exact Fills.lift compare (fun _ => rfl) (Comparison.fills {} c)
  | _ => exact .done _

end LogicNode

/-! ## Uniforms and textures -/

theorem UniformName.takes_slot {ν μ : Type} (held name : String) (put : String → ν) (put' : String → μ) :
    (slot held put).Takes (slot name put').written (put (sanitize name)) :=
  takes_text uniformNameParam held name _ _

namespace UniformNode

def fresh : UniformNode → UniformNode
  | .value u => .value { type := u.type }
  | .texture u => .texture { triplanar := u.triplanar }
  | .cubeMap _ => .cubeMap {}

/-- The name is made an identifier on the way, so it has to be one. -/
theorem fills_fresh {n : UniformNode} (hName : UniformName.sanitize n.name = n.name) :
    Fills slots n.fresh (n.slots.map saved) n := by
  cases n with
  | value u =>
    have hFills : Fills ValueUniform.slots { type := u.type } (u.slots.map saved)
        { u with name := UniformName.sanitize u.name } :=
      .take rfl (UniformName.takes_slot _ u.name _ _) (.done _)
    rw [show UniformName.sanitize u.name = u.name from hName] at hFills
    exact Fills.lift value (fun _ => rfl) hFills
  | texture u =>
    have hFills : Fills TextureUniform.slots { triplanar := u.triplanar } (u.slots.map saved)
        { u with name := UniformName.sanitize u.name } :=
      .take rfl (UniformName.takes_slot _ u.name _ _) <| .take rfl (takes_choice _ _ u.texture _ _) <|
        .take rfl (takes_choice _ _ u.unbound _ _) <| .take rfl (takes_resource _ _ u.resource _ _) (.done _)
    rw [show UniformName.sanitize u.name = u.name from hName] at hFills
    exact Fills.lift texture (fun _ => rfl) hFills
  | cubeMap u =>
    have hFills : Fills CubeMapUniform.slots {} (u.slots.map saved) { u with name := UniformName.sanitize u.name } :=
      .take rfl (UniformName.takes_slot _ u.name _ _) <| .take rfl (takes_choice _ _ u.texture _ _) <|
        .take rfl (takes_choice _ _ u.unbound _ _) <| .take rfl (takes_resource _ _ u.resource _ _) (.done _)
    rw [show UniformName.sanitize u.name = u.name from hName] at hFills
    exact Fills.lift cubeMap (fun _ => rfl) hFills

end UniformNode

theorem TextureNode.fills (start n : TextureNode) : Fills slots start (n.slots.map saved) n :=
  .take rfl (takes_choice _ _ n.source _ _) <| .take rfl (takes_resource _ _ n.resource _ _) <|
    .take rfl (takes_choice _ _ n.texture _ _) (.done _)

theorem CubeMapNode.fills (start n : CubeMapNode) : Fills slots start (n.slots.map saved) n :=
  .take rfl (takes_choice _ _ n.source _ _) <| .take rfl (takes_resource _ _ n.resource _ _) <|
    .take rfl (takes_choice _ _ n.texture _ _) (.done _)

/-! ## Expressions -/

namespace LocalPort

theorem isPlain_of_isIdentifier {name : String} (h : isIdentifier name = true) : Text.IsPlain name.toList := by
  rw [isIdentifier] at h
  split at h
  · cases h
  · rename_i first rest hName
    simp only [Bool.and_eq_true, Bool.or_eq_true, decide_eq_true_eq, List.all_eq_true] at h
    rw [hName]
    refine ⟨List.cons_ne_nil first rest, ?_⟩
    intro c hMem
    rcases List.mem_cons.mp hMem with rfl | hRest
    · rcases h.1 with hAlpha | rfl
      · simp [Text.isPlainChar, Char.isAlphanum, hAlpha]
      · decide
    · rcases h.2 c hRest with hAlphanum | rfl
      · simp [Text.isPlainChar, hAlphanum]
      · decide

theorem isPlain_keyword (type : PortType) : Text.IsPlain type.keyword.toList := by
  cases type <;> decide

theorem valueType?_keyword {type : PortType} (h : type.isSampler = false) : valueType? type.keyword = some type := by
  cases type
  case sampler2D | samplerCube => cases h
  all_goals rfl

theorem toList_write (p : LocalPort) : p.write.toList = p.type.keyword.toList ++ ' ' :: p.name.toList := by
  simp [write, String.toList_append]

theorem read_write {p : LocalPort} (h : p.isUsable = true) : read p.write.toList = .ok p := by
  simp only [isUsable, Bool.and_eq_true, Bool.not_eq_true'] at h
  have hWords : Text.words p.write.toList = [p.type.keyword.toList, p.name.toList] := by
    rw [toList_write]
    exact (isPlain_keyword p.type).words_pair (isPlain_of_isIdentifier h.2)
  simp only [read, hWords, String.ofList_toList, valueType?_keyword h.1, h.2, if_true]

theorem readAll_writeAll {ports : List LocalPort} (h : ∀ p ∈ ports, p.isUsable = true) :
    readAll (writeAll ports) = .ok ports := by
  have hItems : Text.items (writeAll ports).toList = (ports.map write).map String.toList := by
    apply Text.items_joinWith
    intro text hMem
    obtain ⟨p, hPort, rfl⟩ := List.mem_map.mp hMem
    have hUsable := h p hPort
    simp only [isUsable, Bool.and_eq_true] at hUsable
    have hKeyword := isPlain_keyword p.type
    have hName := isPlain_of_isIdentifier hUsable.2
    rw [toList_write]
    refine ⟨?_, ?_, by simp⟩
    · simp [hKeyword.not_mem (c := ',') (by decide), hName.not_mem (c := ',') (by decide)]
    · rw [← List.singleton_append, ← List.append_assoc]
      exact hKeyword.trimmed.append hName.trimmed hKeyword.ne_nil hName.ne_nil _
  rw [readAll, hItems, Except.mapM_eq_ok_iff, List.forall₂_map_left_iff, List.forall₂_map_left_iff, List.forall₂_same]
  exact fun p hPort => read_write (h p hPort)

theorem check_eq_ok_iff {seen : List String} {ports : List LocalPort} :
    check seen ports = .ok () ↔
      (∀ p ∈ ports, p.isUsable = true) ∧ (∀ p ∈ ports, p.name ∉ seen) ∧ (ports.map name).Nodup := by
  induction ports generalizing seen with
  | nil => simp [check]
  | cons p rest ih =>
    rw [check, List.map_cons, List.nodup_cons]
    by_cases hUsable : p.isUsable = true
    · by_cases hSeen : p.name ∈ seen
      · simp [hUsable, hSeen]
      · have hApart : (∀ q ∈ rest, q.name ∉ p.name :: seen) ↔
            (∀ q ∈ rest, q.name ∉ seen) ∧ p.name ∉ rest.map name := by
          simp only [List.mem_cons, not_or, List.mem_map, not_exists, not_and]
          exact ⟨fun h => ⟨fun q hMem => (h q hMem).2, fun q hMem => (h q hMem).1⟩,
            fun h q hMem => ⟨h.2 q hMem, h.1 q hMem⟩⟩
        simp only [hUsable, Bool.not_true, Bool.false_eq_true, if_false, List.contains_eq_mem, hSeen, decide_false, ih,
          hApart, List.forall_mem_cons, true_and, not_false_iff, and_assoc]
    · simp [hUsable]

theorem isUsable_of_check {seen : List String} {ports : List LocalPort} (h : check seen ports = .ok ()) :
    ∀ p ∈ ports, p.isUsable = true :=
  (check_eq_ok_iff.mp h).1

/-- Fewer ports are no harder to accept. -/
theorem check_of_sublist {seen : List String} {ports more : List LocalPort} (hSublist : ports.Sublist more)
    (h : check seen more = .ok ()) : check seen ports = .ok () := by
  obtain ⟨hUsable, hSeen, hNodup⟩ := check_eq_ok_iff.mp h
  refine check_eq_ok_iff.mpr ⟨?_, ?_, hNodup.sublist (hSublist.map name)⟩
  · exact fun p hMem => hUsable p (hSublist.subset hMem)
  · exact fun p hMem => hSeen p (hSublist.subset hMem)

end LocalPort

namespace ExpressionNode

variable {n : ExpressionNode}

/-- While the inputs are set there are no outputs yet. -/
theorem setInputs_writeAll (h : LocalPort.check [] (n.inputs ++ n.outputs) = .ok ()) :
    setInputs {} (LocalPort.writeAll n.inputs) = .ok { inputs := n.inputs } := by
  have hUsable := LocalPort.isUsable_of_check h
  rw [setInputs, LocalPort.readAll_writeAll fun p hMem => hUsable p (List.mem_append_left _ hMem)]
  refine checked_eq_ok_iff.mpr ⟨?_, rfl⟩
  rw [List.append_nil]
  exact LocalPort.check_of_sublist (List.sublist_append_left _ _) h

theorem setOutputs_writeAll (h : LocalPort.check [] (n.inputs ++ n.outputs) = .ok ()) :
    setOutputs { inputs := n.inputs } (LocalPort.writeAll n.outputs) =
      .ok { inputs := n.inputs, outputs := n.outputs } := by
  have hUsable := LocalPort.isUsable_of_check h
  rw [setOutputs, LocalPort.readAll_writeAll fun p hMem => hUsable p (List.mem_append_right _ hMem)]
  exact checked_eq_ok_iff.mpr ⟨h, rfl⟩

theorem fills (h : LocalPort.check [] (n.inputs ++ n.outputs) = .ok ()) : Fills slots {} (n.slots.map saved) n :=
  .take rfl (takes_checkedText _ _ _ _ (Except.mapError_eq_ok_iff.mpr (setInputs_writeAll h))) <|
    .take rfl (takes_checkedText _ _ _ _ (Except.mapError_eq_ok_iff.mpr (setOutputs_writeAll h))) <|
    .take rfl (takes_text _ _ n.code _ _) (.done _)

end ExpressionNode

theorem GlobalExpression.fills (n : GlobalExpression) : Fills slots {} (n.slots.map saved) n :=
  .take rfl (takes_text _ _ n.code _ _) (.done _)

/-! ## Standard nodes -/

theorem InputNode.fills (n : InputNode) : Fills slots {} (n.slots.map saved) { name := n.name } :=
  .take rfl (takes_text _ _ n.name _ _) (.done _)

namespace StandardNode

/-- A fresh node of the same kind. -/
def fresh : StandardNode → StandardNode
  | .input _ => .input {}
  | .constant n => .constant n.fresh
  | .operator n => .operator n.fresh
  | .function n => .function n.fresh
  | .logic n => .logic n.fresh
  | .uniform n => .uniform n.fresh
  | .texture _ => .texture {}
  | .cubeMap _ => .cubeMap {}
  | .expression _ => .expression {}
  | .globalExpression _ => .globalExpression {}
  | n => n

theorem registry_find?_kind {n : StandardNode} (h : n.isTerminal = false) :
    Command.registry.find? n.kind = some n.fresh := by
  cases n with
  | output => cases h
  | constant n => cases n <;> rfl
  | operator n => cases n <;> rfl
  | function n => cases n <;> rfl
  | logic n => cases n <;> rfl
  | formula n => cases n <;> rfl
  | uniform n =>
    cases n with
    | value u =>
      obtain ⟨type, name⟩ := u
      cases type <;> rfl
    | texture u =>
      obtain ⟨triplanar, name, texture, unbound, resource⟩ := u
      cases triplanar <;> rfl
    | cubeMap u => rfl
  | _ => rfl

theorem registry_find?_eq_none {n : StandardNode} (h : n.isTerminal = true) :
    Command.registry.find? n.kind = none := by
  have hFind : Command.registry.find? "output" = none := by decide
  cases n with
  | output => exact hFind
  | _ => cases h

/-- Numbers that are not numbers lose their bits. Only constants hold numbers. -/
def canonical : StandardNode → StandardNode
  | .constant n => .constant n.canonical
  | n => n

theorem fills_fresh {n : StandardNode} (h : n.IsUser)
    (hName : ∀ name, n.uniformName? = some name → UniformName.sanitize name = name) :
    ∃ m, Fills slots n.fresh (n.slots.map saved) m ∧ ∀ mode stage, bind mode stage m = bind mode stage n.canonical := by
  cases n with
  | output => cases h.isTerminal
  | input n => exact ⟨.input { name := n.name }, Fills.lift input (fun _ => rfl) n.fills, fun _ _ => rfl⟩
  | constant n => exact ⟨.constant n.canonical, Fills.lift constant (fun _ => rfl) n.fills_fresh, fun _ _ => rfl⟩
  | operator n => exact ⟨.operator n, Fills.lift operator (fun _ => rfl) n.fills_fresh, fun _ _ => rfl⟩
  | function n => exact ⟨.function n, Fills.lift function (fun _ => rfl) n.fills_fresh, fun _ _ => rfl⟩
  | formula n => exact ⟨.formula n, .done _, fun _ _ => rfl⟩
  | logic n => exact ⟨.logic n, Fills.lift logic (fun _ => rfl) n.fills_fresh, fun _ _ => rfl⟩
  | uniform n =>
    have hFills := UniformNode.fills_fresh (hName n.name rfl)
    exact ⟨.uniform n, Fills.lift uniform (fun _ => rfl) hFills, fun _ _ => rfl⟩
  | texture n => exact ⟨.texture n, Fills.lift texture (fun _ => rfl) (TextureNode.fills {} n), fun _ _ => rfl⟩
  | cubeMap n => exact ⟨.cubeMap n, Fills.lift cubeMap (fun _ => rfl) (CubeMapNode.fills {} n), fun _ _ => rfl⟩
  | expression n => exact ⟨.expression n, Fills.lift expression (fun _ => rfl) (ExpressionNode.fills h.isUsable),
      fun _ _ => rfl⟩
  | globalExpression n =>
    exact ⟨.globalExpression n, Fills.lift globalExpression (fun _ => rfl) n.fills, fun _ _ => rfl⟩

theorem schema_fresh (n : StandardNode) : NodeModel.schema n.fresh = NodeModel.schema n := by
  cases n with
  | constant n => cases n <;> rfl
  | operator n => cases n <;> rfl
  | function n => cases n <;> rfl
  | logic n => cases n <;> rfl
  | uniform n => cases n <;> rfl
  | _ => rfl

theorem isPlain_kind (n : StandardNode) : Text.IsPlain n.kind.toList := by
  cases n with
  | constant n | operator n | function n | formula n | logic n => cases n <;> exact .ofChars rfl
  | uniform n =>
    cases n with
    | value u =>
      obtain ⟨type, name⟩ := u
      cases type <;> exact .ofChars rfl
    | texture u =>
      obtain ⟨triplanar, name, texture, unbound, resource⟩ := u
      cases triplanar <;> exact .ofChars rfl
    | cubeMap u => exact .ofChars rfl
  | _ => exact .ofChars rfl

end StandardNode

/-- A row of a schema that a document can hold. -/
structure ParamSpec.IsSavable (spec : ParamSpec) : Prop where
  name : Text.IsPlain spec.name.toList
  ne_position : spec.name ≠ "position"
  labels_nodup : spec.kind.labels.Nodup
  label : ∀ label ∈ spec.kind.labels, Text.IsValue label.toList

namespace ParamSpec.IsSavable

theorem unlabelled {name : String} {kind : ParamKind} (hName : Text.IsPlain name.toList) (hNe : name ≠ "position")
    (hKind : kind.labels = []) : IsSavable ⟨name, kind⟩ where
  name := hName
  ne_position := hNe
  labels_nodup := hKind ▸ List.nodup_nil
  label := hKind ▸ List.forall_mem_nil _

theorem choice {ε : Type} [Choice ε] [LawfulChoice ε] {name : String} (hName : Text.IsPlain name.toList)
    (hNe : name ≠ "position") (hLabel : ∀ e : ε, Text.IsValue (Choice.label e).toList) :
    IsSavable ⟨name, .choice (Choice.labels ε)⟩ where
  name := hName
  ne_position := hNe
  labels_nodup := LawfulChoice.labels_nodup
  label := List.forall_mem_map.mpr fun e _ => hLabel e

end ParamSpec.IsSavable

namespace StandardNode

theorem isSavable_schema (n : StandardNode) : ∀ spec ∈ NodeModel.schema n, spec.IsSavable := by
  have hUniform : ParamSpec.IsSavable ⟨uniformNameParam, .text⟩ := .unlabelled (.ofChars rfl) (by decide) rfl
  have hTexture : ParamSpec.IsSavable ⟨"texture", .resource⟩ := .unlabelled (.ofChars rfl) (by decide) rfl
  have hCubeMap : ParamSpec.IsSavable ⟨"cube_map", .resource⟩ := .unlabelled (.ofChars rfl) (by decide) rfl
  have hType : ParamSpec.IsSavable ⟨"texture_type", .choice (Choice.labels TextureType)⟩ :=
    .choice (.ofChars rfl) (by decide) fun e => by cases e <;> exact .ofChars rfl
  have hDefault : ParamSpec.IsSavable ⟨"color_default", .choice (Choice.labels ColorDefault)⟩ :=
    .choice (.ofChars rfl) (by decide) fun e => by cases e <;> exact .ofChars rfl
  cases n with
  | output n | formula n => exact List.forall_mem_nil _
  | input n | globalExpression n => exact List.forall_mem_singleton.mpr (.unlabelled (.ofChars rfl) (by decide) rfl)
  | constant n => cases n <;> exact List.forall_mem_singleton.mpr (.unlabelled (.ofChars rfl) (by decide) rfl)
  | operator n | function n =>
    cases n <;> refine List.forall_mem_singleton.mpr (.choice (.ofChars rfl) (by decide) fun e => ?_) <;>
      cases e <;> exact .ofChars rfl
  | logic n =>
    cases n with
    | floatTest tested =>
      refine List.forall_mem_singleton.mpr (.choice (.ofChars rfl) (by decide) fun e => ?_)
      cases e <;> exact .ofChars rfl
    | compare c =>
      refine List.forall_mem_cons.mpr ⟨.choice (.ofChars rfl) (by decide) fun e => ?_, List.forall_mem_cons.mpr
        ⟨.choice (.ofChars rfl) (by decide) fun e => ?_, List.forall_mem_singleton.mpr
          (.choice (.ofChars rfl) (by decide) fun e => ?_)⟩⟩ <;> cases e <;> exact .ofChars rfl
    | _ => exact List.forall_mem_nil _
  | uniform n =>
    cases n with
    | value u => exact List.forall_mem_singleton.mpr hUniform
    | texture u =>
      exact List.forall_mem_cons.mpr ⟨hUniform, List.forall_mem_cons.mpr ⟨hType, List.forall_mem_cons.mpr
        ⟨hDefault, List.forall_mem_singleton.mpr hTexture⟩⟩⟩
    | cubeMap u =>
      exact List.forall_mem_cons.mpr ⟨hUniform, List.forall_mem_cons.mpr ⟨hType, List.forall_mem_cons.mpr
        ⟨hDefault, List.forall_mem_singleton.mpr hCubeMap⟩⟩⟩
  | texture n =>
    refine List.forall_mem_cons.mpr ⟨.choice (.ofChars rfl) (by decide) fun e => ?_, List.forall_mem_cons.mpr
      ⟨hTexture, List.forall_mem_singleton.mpr hType⟩⟩
    cases e <;> exact .ofChars rfl
  | cubeMap n =>
    refine List.forall_mem_cons.mpr ⟨.choice (.ofChars rfl) (by decide) fun e => ?_, List.forall_mem_cons.mpr
      ⟨hCubeMap, List.forall_mem_singleton.mpr hType⟩⟩
    cases e <;> exact .ofChars rfl
  | expression n =>
    exact List.forall_mem_cons.mpr ⟨.unlabelled (.ofChars rfl) (by decide) rfl, List.forall_mem_cons.mpr
      ⟨.unlabelled (.ofChars rfl) (by decide) rfl, List.forall_mem_singleton.mpr
        (.unlabelled (.ofChars rfl) (by decide) rfl)⟩⟩

theorem isSavable_slot {n : StandardNode} {slot : ParamSlot StandardNode} (hSlot : slot ∈ n.slots) :
    Text.IsPlain slot.spec.name.toList ∧ slot.spec.name ≠ "position" ∧ Text.IsValue slot.written.toList := by
  have hSpec := n.isSavable_schema slot.spec (List.mem_map_of_mem hSlot)
  exact ⟨hSpec.name, hSpec.ne_position, ParamValue.isValue_write hSpec.label slot.value⟩

end StandardNode

/-! ## Loading a node -/

theorem StandardNode.find?_schema {n : StandardNode} {slot : ParamSlot StandardNode} {name : String}
    (hFind : find? n.slots name = some slot) :
    (NodeModel.schema n).find? (fun spec => spec.name = name) = some slot.spec := by
  rw [NodeModel.schema, List.find?_map]
  exact congrArg (Option.map ParamSlot.spec) hFind

theorem StandardNode.applyParam_of_accepts {n m : StandardNode} {slot : ParamSlot StandardNode} {name : String}
    {value : ParamValue} (hFind : find? n.slots name = some slot) (hAccepts : slot.Accepts value m) :
    NodeModel.applyParam n name value = .ok m := by
  rw [NodeModel.applyParam, Except.bind_unit_eq_ok_iff, ParamSpec.validate, find?_schema hFind]
  exact ⟨hAccepts.1, assign_eq_ok_iff.mpr ⟨slot, hFind, hAccepts.2⟩⟩

namespace Design

theorem loadParam_of_takes {n m : StandardNode} {slot : ParamSlot StandardNode} {name text : String}
    (hFind : find? n.slots name = some slot) (hTakes : slot.Takes text m) (kind : String) (line : Nat) :
    loadParam kind n ⟨line, (name, text)⟩ = .ok m := by
  obtain ⟨value, hRead, hAccepts⟩ := hTakes
  simp only [loadParam, malformedOn, refusedOn, Except.bind_eq_ok_iff, Except.mapError_eq_ok_iff,
    Entry.orMalformed_eq_ok_iff]
  exact ⟨slot.spec, StandardNode.find?_schema hFind, value, hRead, StandardNode.applyParam_of_accepts hFind hAccepts⟩

/-- The parameters that a document holds of a node, all on one line. -/
def savedParams (n : StandardNode) : List (OnLine (String × String)) :=
  n.slots.map fun slot => ⟨0, slot.saved⟩

theorem foldlM_loadParam_of_fills {n m : StandardNode} {texts : List (String × String)}
    (h : Fills StandardNode.slots n texts m) (kind : String) :
    (texts.map (OnLine.mk 0)).foldlM (loadParam kind) n = .ok m := by
  induction h with
  | done n => rfl
  | take hFind hTakes _ ih =>
    rw [List.map_cons, List.foldlM_cons, loadParam_of_takes hFind hTakes]
    exact ih

/-- The kind and the parameters of a node make the node again. -/
theorem exists_loaded {n : StandardNode} (h : n.IsUser)
    (hName : ∀ name, n.uniformName? = some name → UniformName.sanitize name = name) :
    ∃ start m, Command.registry.instantiate n.kind .empty = .ok start ∧
      (savedParams n).foldlM (loadParam n.kind) start = .ok m ∧
      ∀ mode stage, NodeModel.bind mode stage m = NodeModel.bind mode stage n.canonical := by
  obtain ⟨m, hFills, hBind⟩ := StandardNode.fills_fresh h hName
  refine ⟨n.fresh, m, ?_, ?_, hBind⟩
  · rw [Registry.instantiate, StandardNode.registry_find?_kind h.isTerminal]
    rfl
  · have hLoad := foldlM_loadParam_of_fills hFills n.kind
    rwa [List.map_map] at hLoad

end Design

end ShadeGraph
