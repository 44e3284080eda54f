import ShadeGraph.Document.Save
import ShadeGraph.Graph.Agreement
import ShadeGraph.Proofs.Entries
import ShadeGraph.Proofs.Likeness
import ShadeGraph.Proofs.Reload

/-!
# Designs up to numbers that are not numbers

A document does not tell apart the numbers that are not numbers, nor does it hold numbers that only removed nodes
had. The design that a document stands for is written and compiled as the design it was saved from, and it agrees
with it if all its numbers are numbers.
-/

namespace ShadeGraph

/-! ## Literals -/

theorem Single.literal_canonical (x : Single) :
    x.canonical.literal.mapError LiteralError.message = x.literal.mapError LiteralError.message := by
  have hText (y : Single) (h : y.isFinite = false) : y.literal.mapError LiteralError.message =
      .error ("cannot encode non-finite value " ++ y.text ++ " as a GLSL literal") := by
    rw [literal, if_neg (by simp [h])]
    rfl
  cases hNaN : x.isNaN with
  | false => rw [canonical_eq_self hNaN]
  -- neither number has a literal, and what is told of it is its text
  | true =>
    have hInfinite : x.isFinite = false := by
      cases hFinite : x.isFinite with
      | false => rfl
      | true => exact absurd hNaN (by simp [isNaN_of_isFinite hFinite])
    have hCanonical : x.canonical.isFinite = false := by
      rw [canonical, if_pos hNaN]
      rfl
    rw [hText x hInfinite, hText _ hCanonical, text_canonical]

theorem Vec3.components_canonical (v : Vec3) :
    v.canonical.components.mapError LiteralError.message = v.components.mapError LiteralError.message := by
  simp only [components, canonical, Except.mapError_bind, Single.literal_canonical]

theorem Vec3.literal_canonical (v : Vec3) :
    v.canonical.literal.mapError LiteralError.message = v.literal.mapError LiteralError.message := by
  simp only [literal, Except.mapError_bind, components_canonical]

theorem Transform.literal_canonical (t : Transform) :
    t.canonical.literal.mapError LiteralError.message = t.literal.mapError LiteralError.message := by
  have h0 : t.canonical.column0 = t.column0.canonical := rfl
  have h1 : t.canonical.column1 = t.column1.canonical := rfl
  have h2 : t.canonical.column2 = t.column2.canonical := rfl
  have hOrigin : t.canonical.origin = t.origin.canonical := rfl
  simp only [literal, h0, h1, h2, hOrigin, Except.mapError_bind, Vec3.components_canonical]

theorem Color.literals_canonical (c : Color) :
    c.canonical.literals.mapError LiteralError.message = c.literals.mapError LiteralError.message := by
  have hRgb : c.canonical.rgb = c.rgb.canonical := rfl
  have hAlpha : c.canonical.a = c.a.canonical := rfl
  simp only [literals, hRgb, hAlpha, Except.mapError_bind, Vec3.literal_canonical, Single.literal_canonical]

/-- Literals that fail with the same message are reported in the same way. -/
theorem literalOf_congr {α : Type} {x y : Except LiteralError α}
    (h : x.mapError LiteralError.message = y.mapError LiteralError.message) :
    (literalOf x).mapError BodyError.report = (literalOf y).mapError BodyError.report := by
  rw [literalOf, literalOf, Except.mapError_mapError, Except.mapError_mapError]
  apply Except.mapError_congr h
  intro e e' hMessage
  simp only [BodyError.report, hMessage]

/-! ## Nodes -/

theorem Constant.body_canonical (c : Constant) (results : List String) :
    (c.canonical.body results).mapError BodyError.report = (c.body results).mapError BodyError.report := by
  cases c with
  | scalar v => simp only [body, canonical, Except.mapError_bind, literalOf_congr v.literal_canonical]
  | boolean v => rfl
  | color v => simp only [body, canonical, Except.mapError_bind, literalOf_congr v.literals_canonical]
  | vector v => simp only [body, canonical, Except.mapError_bind, literalOf_congr v.literal_canonical]
  | transform v => simp only [body, canonical, Except.mapError_bind, literalOf_congr v.literal_canonical]

theorem Constant.saved_canonical (c : Constant) :
    c.canonical.slots.map ParamSlot.saved = c.slots.map ParamSlot.saved := by
  have hText {name text text' : String} (h : text = text') : [(name, text)] = [(name, text')] := by rw [h]
  cases c with
  | scalar v => exact hText v.text_canonical
  | boolean v => rfl
  | color v => exact hText (ValueText.numbers_map_canonical v.toList)
  | vector v => exact hText (ValueText.numbers_map_canonical v.toList)
  | transform v => exact hText (ValueText.numbers_map_canonical v.toList)

namespace StandardNode

theorem alike_canonical (n : StandardNode) : NodeModel.Alike n n.canonical := by
  cases n with
  | constant c =>
    constructor
    case body => exact fun _ _ results => c.body_canonical results
    all_goals cases c <;> rfl
  | _ => exact .refl _

theorem saved_canonical (n : StandardNode) : n.canonical.slots.map ParamSlot.saved = n.slots.map ParamSlot.saved := by
  cases n with
  | constant c =>
    have hSaved (c : Constant) : (constant c).slots.map ParamSlot.saved = c.slots.map ParamSlot.saved := by
      rw [slots, List.map_map]
      rfl
    exact (hSaved _).trans (c.saved_canonical.trans (hSaved c).symm)
  | _ => rfl

end StandardNode

/-! ## Designs -/

def PlacedNode.canonical (n : PlacedNode StandardNode) : PlacedNode StandardNode :=
  { n with node := n.node.canonical, position := n.position.canonical }

/-- What a document keeps of a graph. The last number is the greatest that a node has. -/
def StageGraph.canonical (g : StageGraph StandardNode) : StageGraph StandardNode where
  nodes := g.nodes.mapValues fun _ n => n.canonical
  edges := g.edges
  lastId := g.nodes.keys.foldl max .output

namespace Design

/-- What a document keeps of a design. -/
def canonical (d : Design StandardNode) : Design StandardNode :=
  { d with offset := d.offset.canonical, stages := d.stages.map StageGraph.canonical }

theorem graph_canonical (d : Design StandardNode) (stage : Stage) :
    d.canonical.graph stage = (d.graph stage).canonical :=
  PerStage.get_map StageGraph.canonical d.stages stage

theorem alike_canonical (d : Design StandardNode) : d.Alike d.canonical := by
  refine ⟨rfl, rfl, ?_⟩
  intro stage
  rw [graph_canonical]
  refine ⟨rfl, fun _ n => n.canonical, rfl, ?_⟩
  exact fun _ n _ => ⟨n.node.alike_canonical, rfl⟩

theorem nodeEntries_canonical (site : Site) (n : PlacedNode StandardNode) :
    nodeEntries site n.canonical = (nodeEntries site n).map Entry.canonical := by
  have hParams : n.node.canonical.slots.map
      (fun slot => Entry.param site slot.spec.name (slot.value.write slot.spec.kind)) =
        n.node.slots.map fun slot => .param site slot.spec.name (slot.value.write slot.spec.kind) := by
    have hSaved := congrArg (List.map fun x : String × String => Entry.param site x.1 x.2) n.node.saved_canonical
    rwa [List.map_map, List.map_map] at hSaved
  have hKind : n.node.canonical.kind = n.node.kind := n.node.alike_canonical.kind
  by_cases hOutput : site.id = .output
  · rw [nodeEntries, nodeEntries, if_pos hOutput, if_pos hOutput]
    rfl
  · simp only [nodeEntries, hOutput, if_false, List.map_append, List.map_map, List.map_cons, List.map_nil]
    exact congrArg₂ (fun kind params => [Entry.kind site kind, .position site n.position.canonical] ++ params ++ _)
      hKind hParams

theorem entries_canonical (d : Design StandardNode) : d.canonical.entries = d.entries.map Entry.canonical := by
  have hStage (stage : Stage) : d.canonical.stageEntries stage = (d.stageEntries stage).map Entry.canonical := by
    rw [stageEntries, stageEntries, graph_canonical, List.map_append, List.map_flatMap]
    congr 1
    · simp only [StageGraph.canonical, Table.mapValues, List.flatMap_map, nodeEntries_canonical]
    · rw [apply_ite (List.map Entry.canonical)]
      rfl
  rw [entries, entries, List.map_append, List.map_flatMap, funext hStage]
  rfl

theorem save_canonical (d : Design StandardNode) : d.canonical.save = d.save := by
  have hWrite (e : Entry) : e.canonical.write = e.write := by
    have hLine {value value' : String} (h : value = value') :
        e.key ++ " = " ++ value ++ "\n" = e.key ++ " = " ++ value' ++ "\n" := by rw [h]
    cases e with
    | offset p => exact hLine (ValueText.numbers_map_canonical p.toList)
    | position site p => exact hLine (ValueText.numbers_map_canonical p.toList)
    | _ => rfl
  rw [save, save, entries_canonical, List.map_map]
  congr 1
  exact List.map_congr_left fun e _ => hWrite e

end Design

/-! ## Agreement -/

theorem Position.canonical_eq_self {p : Position} (h : ∀ x ∈ p.toList, x.isNaN = false) : p.canonical = p := by
  simp only [toList, List.forall_mem_cons] at h
  rw [canonical, Single.canonical_eq_self h.1, Single.canonical_eq_self h.2.1]

theorem Position.agrees_self {p : Position} (h : ∀ x ∈ p.toList, x.isNaN = false) : p.agrees p = true := by
  simp only [toList, List.forall_mem_cons] at h
  simp [agrees, Single.agrees_self h.1, Single.agrees_self h.2.1]

theorem Vec3.canonical_eq_self {v : Vec3} (h : ∀ x ∈ v.toList, x.isNaN = false) : v.canonical = v := by
  simp only [toList, List.forall_mem_cons] at h
  rw [canonical, Single.canonical_eq_self h.1, Single.canonical_eq_self h.2.1, Single.canonical_eq_self h.2.2.1]

theorem Vec3.agrees_self {v : Vec3} (h : ∀ x ∈ v.toList, x.isNaN = false) : v.agrees v = true := by
  simp only [toList, List.forall_mem_cons] at h
  simp [agrees, Single.agrees_self h.1, Single.agrees_self h.2.1, Single.agrees_self h.2.2.1]

theorem Color.canonical_eq_self {c : Color} (h : ∀ x ∈ c.toList, x.isNaN = false) : c.canonical = c := by
  simp only [toList, List.forall_mem_cons] at h
  rw [canonical, Single.canonical_eq_self h.1, Single.canonical_eq_self h.2.1, Single.canonical_eq_self h.2.2.1,
    Single.canonical_eq_self h.2.2.2.1]

theorem Color.agrees_self {c : Color} (h : ∀ x ∈ c.toList, x.isNaN = false) : c.agrees c = true := by
  simp only [toList, List.forall_mem_cons] at h
  simp [agrees, rgb, Vec3.agrees, Single.agrees_self h.1, Single.agrees_self h.2.1, Single.agrees_self h.2.2.1,
    Single.agrees_self h.2.2.2.1]

theorem Transform.canonical_eq_self {t : Transform} (h : ∀ x ∈ t.toList, x.isNaN = false) : t.canonical = t := by
  simp only [toList, List.forall_mem_append] at h
  obtain ⟨⟨⟨h0, h1⟩, h2⟩, hOrigin⟩ := h
  rw [canonical, Vec3.canonical_eq_self h0, Vec3.canonical_eq_self h1, Vec3.canonical_eq_self h2,
    Vec3.canonical_eq_self hOrigin]

theorem Transform.agrees_self {t : Transform} (h : ∀ x ∈ t.toList, x.isNaN = false) : t.agrees t = true := by
  simp only [toList, List.forall_mem_append] at h
  obtain ⟨⟨⟨h0, h1⟩, h2⟩, hOrigin⟩ := h
  simp [agrees, Vec3.agrees_self h0, Vec3.agrees_self h1, Vec3.agrees_self h2, Vec3.agrees_self hOrigin]

namespace ParamValue

def numbers : ParamValue → List Single
  | .float v => [v]
  | .vector3 v => v.toList
  | .color v => v.toList
  | .transform v => v.toList
  | _ => []

theorem agrees_self {v : ParamValue} (h : ∀ x ∈ v.numbers, x.isNaN = false) : v.agrees v = true := by
  cases v with
  | float v => exact Single.agrees_self (h v (List.mem_singleton.mpr rfl))
  | vector3 v => exact Vec3.agrees_self h
  | color v => exact Color.agrees_self h
  | transform v => exact Transform.agrees_self h
  | _ => exact decide_eq_true rfl

end ParamValue

namespace PortValue

def numbers : PortValue → List Single
  | .scalar v => [v]
  | .vector3 v => v.toList
  | .boolean _ => []
  | .transform v => v.toList

theorem agrees_self {v : PortValue} (h : ∀ x ∈ v.numbers, x.isNaN = false) : v.agrees v = true := by
  cases v with
  | scalar v => exact Single.agrees_self (h v (List.mem_singleton.mpr rfl))
  | vector3 v => exact Vec3.agrees_self h
  | boolean v => exact BEq.rfl
  | transform v => exact Transform.agrees_self h

end PortValue

theorem StandardNode.canonical_eq_self {n : StandardNode}
    (h : ∀ param ∈ NodeModel.params n, ∀ x ∈ param.2.numbers, x.isNaN = false) : n.canonical = n := by
  cases n with
  | constant c =>
    cases c with
    | scalar v =>
      have hValue := h ("constant", .float v) List.mem_cons_self v List.mem_cons_self
      rw [canonical, Constant.canonical, Single.canonical_eq_self hValue]
    | boolean v => rfl
    | color v =>
      rw [canonical, Constant.canonical, Color.canonical_eq_self (h ("constant", .color v) List.mem_cons_self)]
    | vector v =>
      rw [canonical, Constant.canonical, Vec3.canonical_eq_self (h ("constant", .vector3 v) List.mem_cons_self)]
    | transform v =>
      rw [canonical, Constant.canonical, Transform.canonical_eq_self (h ("constant", .transform v) List.mem_cons_self)]
  | _ => rfl

namespace PlacedNode

def numbers (n : PlacedNode StandardNode) : List Single :=
  n.position.toList ++ (NodeModel.params n.node).flatMap (fun param => param.2.numbers) ++
    n.overrides.entries.flatMap fun override => override.2.numbers

theorem canonical_eq_self {n : PlacedNode StandardNode} (h : ∀ x ∈ n.numbers, x.isNaN = false) : n.canonical = n := by
  simp only [numbers, List.forall_mem_append, List.forall_mem_flatMap] at h
  rw [canonical, StandardNode.canonical_eq_self h.1.2, Position.canonical_eq_self h.1.1]

theorem agrees_self {n : PlacedNode StandardNode} (h : ∀ x ∈ n.numbers, x.isNaN = false) : n.agrees n = true := by
  simp only [numbers, List.forall_mem_append, List.forall_mem_flatMap] at h
  obtain ⟨⟨hPosition, hParams⟩, hOverrides⟩ := h
  have hTable : (Table.ofList (NodeModel.params n.node)).agrees ParamValue.agrees
      (.ofList (NodeModel.params n.node)) = true :=
    Table.agrees_self fun param hMem => ParamValue.agrees_self (hParams param (Table.mem_of_mem_ofList hMem))
  have hOverride : n.overrides.agrees PortValue.agrees n.overrides = true :=
    Table.agrees_self fun override hMem => PortValue.agrees_self (hOverrides override hMem)
  rw [agrees, hTable, hOverride, Position.agrees_self hPosition]
  simp

end PlacedNode

namespace Design

/-- All numbers that a design stores. -/
def numbers (d : Design StandardNode) : List Single :=
  d.offset.toList ++ Stage.all.flatMap fun stage => (d.graph stage).nodes.entries.flatMap fun x => x.2.numbers

/-- What a document keeps of a design agrees with the design, if all its numbers are numbers. -/
theorem agrees_canonical {d : Design StandardNode} (h : ∀ x ∈ d.numbers, x.isNaN = false) :
    d.canonical.agrees d = true := by
  simp only [numbers, List.forall_mem_append, List.forall_mem_flatMap] at h
  obtain ⟨hOffset, hNodes⟩ := h
  have hSettings : d.settings.agrees d.settings = true := by
    have hOptions : d.settings.options.agrees (· == ·) d.settings.options = true := Table.agrees_self fun _ _ => BEq.rfl
    rw [RenderSettings.agrees, hOptions]
    simp
  have hGraph (stage : Stage) : (d.canonical.graph stage).agrees (d.graph stage) = true := by
    -- without such numbers only the last number of the graph may differ, which agreement does not look at
    have hStage := hNodes stage stage.mem_all
    have hSame : ((d.graph stage).nodes.mapValues fun _ n => n.canonical) = (d.graph stage).nodes :=
      Table.mapValues_eq_self fun id n hMem => PlacedNode.canonical_eq_self (hStage (id, n) hMem)
    have hTable : (d.graph stage).nodes.agrees PlacedNode.agrees (d.graph stage).nodes = true :=
      Table.agrees_self fun x hMem => PlacedNode.agrees_self (hStage x hMem)
    rw [graph_canonical, StageGraph.agrees, StageGraph.canonical, hSame, hTable]
    simp [List.isPerm_iff]
  have hOffsets : d.canonical.offset.agrees d.offset = true := by
    rw [canonical, Position.canonical_eq_self hOffset]
    exact Position.agrees_self hOffset
  have hAll : Stage.all.all (fun stage => (d.canonical.graph stage).agrees (d.graph stage)) = true :=
    List.all_eq_true.mpr fun stage _ => hGraph stage
  rw [agrees, hOffsets, hAll]
  simp only [canonical, hSettings]
  simp

end Design

end ShadeGraph
