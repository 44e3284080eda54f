import ShadeGraph.Proofs.Diagnosis

/-!
# Previews as slices

The closure of a node is ordered by itself as it is within a larger closure, and most nodes are emitted for a
preview as they are for a compile. So a preview holds the blocks that the compile has for its closure.
-/

namespace ShadeGraph

namespace StageGraph

/-! ## Orders of parts -/

section

variable {edges : List Edge} {left part : List NodeId} {p : NodeId → Bool}

theorem arrange_nil (steps : Nat) : arrange edges steps [] = ([], []) := by
  cases steps <;> rfl

/-- The least ready node, if it belongs to a part that holds its own sources, is the least ready one there. -/
theorem least?_ready_part (hPart : part.Perm (left.filter p))
    (hClosed : ∀ e ∈ edges, p e.target = true → e.source ∈ left → p e.source = true) {id : NodeId}
    (hLeast : least? (left.filter (isReady edges left)) = some id) (hId : p id = true) :
    least? (part.filter (isReady edges part)) = some id := by
  have hMem (x : NodeId) : x ∈ part ↔ x ∈ left ∧ p x = true := by rw [hPart.mem_iff, List.mem_filter]
  have hReady (x : NodeId) (hx : p x = true) : isReady edges part x = isReady edges left x := by
    rw [Bool.eq_iff_iff, isReady_iff, isReady_iff]
    constructor
    · rintro hFree e hEdge rfl hSource
      exact hFree e hEdge rfl ((hMem e.source).mpr ⟨hSource, hClosed e hEdge hx hSource⟩)
    · rintro hFree e hEdge rfl hSource
      exact hFree e hEdge rfl ((hMem e.source).mp hSource).1
  obtain ⟨hIn, hFirst⟩ := least?_eq_some_iff.mp hLeast
  obtain ⟨hLeft, hIdReady⟩ := List.mem_filter.mp hIn
  refine least?_eq_some_iff.mpr ⟨List.mem_filter.mpr ⟨(hMem id).mpr ⟨hLeft, hId⟩, ?_⟩, ?_⟩
  · rw [hReady id hId]
    exact hIdReady
  · intro x hx
    obtain ⟨hxPart, hxReady⟩ := List.mem_filter.mp hx
    obtain ⟨hxLeft, hxp⟩ := (hMem x).mp hxPart
    rw [hReady x hxp] at hxReady
    exact hFirst x (List.mem_filter.mpr ⟨hxLeft, hxReady⟩)

/-- A part that holds its own sources is arranged as it stands in the arrangement of the whole. -/
theorem arrange_part {steps steps' : Nat} (hPart : part.Perm (left.filter p))
    (hClosed : ∀ e ∈ edges, p e.target = true → e.source ∈ left → p e.source = true) (hSteps : part.length ≤ steps')
    (hDone : (arrange edges steps left).2 = []) :
    arrange edges steps' part = ((arrange edges steps left).1.filter p, []) := by
  induction steps generalizing left part steps' with
  | zero =>
    obtain rfl : left = [] := hDone
    rw [List.perm_nil.mp hPart, arrange_nil]
    rfl
  | succ steps ih =>
    rw [arrange] at hDone ⊢
    split at hDone
    · obtain rfl : left = [] := hDone
      rw [List.perm_nil.mp hPart, arrange_nil]
      rfl
    · rename_i id hLeast
      have hLeft : id ∈ left := (List.mem_filter.mp (least?_mem hLeast)).1
      have hRest := (List.perm_cons_erase hLeft).filter p
      have hClosed' : ∀ e ∈ edges, p e.target = true → e.source ∈ left.erase id → p e.source = true :=
        fun e hEdge hTarget hSource => hClosed e hEdge hTarget (List.mem_of_mem_erase hSource)
      by_cases hId : p id = true
      -- the part makes the same step
      · rw [List.filter_cons_of_pos hId] at hRest
        have hErased : (part.erase id).Perm ((left.erase id).filter p) := by
          simpa using (hPart.trans hRest).erase id
        have hMem : id ∈ part := (hPart.trans hRest).mem_iff.mpr List.mem_cons_self
        have hPositive := List.length_pos_of_mem hMem
        obtain ⟨steps', rfl⟩ := Nat.exists_eq_add_one.mpr (Nat.lt_of_lt_of_le hPositive hSteps)
        have hFewer : (part.erase id).length ≤ steps' := by
          rw [List.length_erase_of_mem hMem]
          omega
        rw [arrange, least?_ready_part hPart hClosed hLeast hId]
        simp only [ih hErased hClosed' hFewer hDone, List.filter_cons_of_pos hId]
      -- the part waits
      · rw [List.filter_cons_of_neg hId] at hRest
        simp only [ih (hPart.trans hRest) hClosed' hSteps hDone, List.filter_cons_of_neg hId]

end

variable {ν : Type} [NodeModel ν] {g : StageGraph ν}

/-- The order of a closure is that of a larger one without the nodes that do not belong. -/
theorem Wired.order_eq_filter (hWired : g.Wired) {root id : NodeId} {order : List NodeId}
    (hOrder : g.order root = .ok order) (hId : id ∈ g.ancestry root) :
    g.order id = .ok (order.filter (g.ancestry id).contains) := by
  obtain ⟨found, hClosure, hArrange⟩ := order_eq_ok_iff.mp hOrder
  obtain ⟨rfl, -⟩ := closure_eq_ok_iff.mp hClosure
  obtain ⟨hRoot, hPath⟩ := hWired.mem_ancestry_iff.mp hId
  have hPart : (g.ancestry id).Perm ((g.ancestry root).filter (g.ancestry id).contains) := by
    refine (List.perm_ext_iff_of_nodup (nodup_ancestry g id) ((nodup_ancestry g root).filter _)).mpr ?_
    intro x
    simp only [List.mem_filter, List.contains_iff_mem, iff_and_self]
    intro hx
    exact hWired.mem_ancestry_iff.mpr ⟨hRoot, (hWired.mem_ancestry_iff.mp hx).2.trans hPath⟩
  have hSources : ∀ e ∈ g.edges, (g.ancestry id).contains e.target = true → e.source ∈ g.ancestry root →
      (g.ancestry id).contains e.source = true := by
    intro e hEdge hTarget _
    rw [List.contains_iff_mem] at hTarget ⊢
    exact source_mem_ancestry hEdge (hWired.inRange e hEdge) hTarget
  have hSlice := arrange_part hPart hSources le_rfl (congrArg Prod.snd hArrange)
  rw [hArrange] at hSlice
  exact order_eq_ok_iff.mpr ⟨g.ancestry id, hWired.closure_eq id, hSlice⟩

end StageGraph

/-! ## Nodes that previews show as they are -/

namespace StandardNode

/-- Input nodes and reads of the depth find something else, or nothing, in a preview. -/
def needsScene : StandardNode → Bool
  | .input _ => true
  | .texture n => n.source = .depth
  | _ => false

variable {n : StandardNode} (h : n.needsScene = false) (ctx : EmitContext) (preview : Bool)

include h

theorem samplerName?_preview (port : Nat) :
    NodeModel.samplerName? n { ctx with preview } port = NodeModel.samplerName? n ctx port := by
  cases n with
  | input n => cases h
  | _ => rfl

theorem nodeWarnings_preview : nodeWarnings n { ctx with preview } = nodeWarnings n ctx := by
  cases n with
  | input n => cases h
  | texture n =>
    have hSource : n.source ≠ .depth := of_decide_eq_false h
    simp [nodeWarnings, NodeModel.restriction?, NodeModel.warning?, restriction?, TextureNode.restriction?, hSource]
  | _ => rfl

theorem body_preview (operands results : List String) :
    NodeModel.body n { ctx with preview } operands results = NodeModel.body n ctx operands results := by
  cases n with
  | input n => cases h
  | texture n =>
    have hSource : n.source ≠ .depth := of_decide_eq_false h
    have hStatements (uv lod sampler color alpha : String) :
        n.statements { ctx with preview } uv lod sampler color alpha = n.statements ctx uv lod sampler color alpha := by
      unfold TextureNode.statements
      split
      · rfl
      · cases hCase : n.source with
        | depth => exact absurd hCase hSource
        | _ => rfl
    simp only [NodeModel.body, body, TextureNode.body, hStatements]
  | _ => rfl

end StandardNode

namespace StageGraph

variable {g : StageGraph StandardNode} {ctx : EmitContext}

theorem operands_preview (n : PlacedNode StandardNode)
    (hSources : ∀ e ∈ g.edges, e.target = ctx.id → ∀ m, g.node? e.source = some m → m.needsScene = false)
    (preview : Bool) : g.operands n { ctx with preview } = g.operands n ctx := by
  have hOperand (index : Nat) (port : Port) : g.operandAt n { ctx with preview } index port =
      g.operandAt n ctx index port := by
    simp only [operandAt]
    cases hReading : g.reading? ctx.id index with
    | none => rfl
    | some e =>
      have hFeeds := List.find?_some hReading
      simp only [Edge.feeds, Bool.and_eq_true, decide_eq_true_eq] at hFeeds
      have hEdge : e ∈ g.edges := List.mem_reverse.mp (List.mem_of_find?_eq_some hReading)
      simp only [wired]
      cases hSource : g.node? e.source with
      | none => rfl
      | some m =>
        have hSampler : NodeModel.samplerName? m { ctx with id := e.source, preview } e.output =
            NodeModel.samplerName? m { ctx with id := e.source } e.output :=
          StandardNode.samplerName?_preview (hSources e hEdge hFeeds.1 m hSource) _ preview e.output
        cases g.outputType? e.source e.output with
        | none => rfl
        | some type => simp only [hSampler]
  simp only [operands, hOperand]

/-- A node is emitted for a preview as it is for a compile, unless it or one that feeds it needs the scene. -/
theorem emitNode_preview (ctx : EmitContext) (hNode : ∀ n, g.node? ctx.id = some n → n.needsScene = false)
    (hSources : ∀ e ∈ g.edges, e.target = ctx.id → ∀ m, g.node? e.source = some m → m.needsScene = false)
    (preview : Bool) : g.emitNode { ctx with preview } = g.emitNode ctx := by
  simp only [emitNode]
  cases hPlaced : g.placed? ctx.id with
  | none => rfl
  | some placed =>
    have hSteady := hNode placed.node (node?_eq_some_iff.mpr ⟨placed, hPlaced, rfl⟩)
    simp only [operands_preview placed hSources preview, StandardNode.body_preview hSteady,
      StandardNode.nodeWarnings_preview hSteady]
    rfl

end StageGraph

namespace Design

variable {d : Design StandardNode} {stage : Stage}

/-- The emissions of part of an order. -/
theorem forall₂_emits_filter {preview : Bool} {order : List NodeId} {all : List (Option Emission)}
    (h : List.Forall₂ (d.Emits preview stage) order all) (p : NodeId → Bool) :
    ∃ kept, List.Forall₂ (d.Emits preview stage) (order.filter p) kept ∧
      kept.filterMap (fun e => e) = (all.filterMap fun e => e).filter fun e => p e.id := by
  induction h with
  | nil => exact ⟨[], .nil, rfl⟩
  | @cons id e? _ _ hEmits _ ih =>
    obtain ⟨kept, hKept, hSame⟩ := ih
    by_cases hId : p id = true
    · refine ⟨e? :: kept, by rw [List.filter_cons_of_pos hId]; exact .cons hEmits hKept, ?_⟩
      cases e? with
      | none => exact hSame
      | some e =>
        have hIn : p e.id = true := hEmits.id_eq ▸ hId
        rw [List.filterMap_cons, List.filterMap_cons, List.filter_cons, if_pos hIn, hSame]
    · refine ⟨kept, by rw [List.filter_cons_of_neg hId]; exact hKept, ?_⟩
      cases e? with
      | none => exact hSame
      | some e =>
        have hOut : ¬p e.id = true := hEmits.id_eq ▸ hId
        rw [List.filterMap_cons, List.filter_cons, if_neg hOut, hSame]

/-- Where nothing needs the scene, a preview emits what the compile emits for the closure. -/
theorem Reachable.emit_preview (hReachable : d.Reachable) {root id : NodeId} {emissions : List Emission}
    (hEmit : d.emit false stage root = .ok emissions) (hId : id ∈ (d.graph stage).ancestry root)
    (hSteady : ∀ x ∈ (d.graph stage).ancestry id, ∀ n, (d.graph stage).node? x = some n → n.needsScene = false) :
    d.emit true stage id = .ok (emissions.filter fun e => ((d.graph stage).ancestry id).contains e.id) := by
  have hWired := hReachable.wired stage
  obtain ⟨order, hOrder, all, hAll, rfl⟩ := emit_eq_ok_iff.mp hEmit
  obtain ⟨kept, hKept, hSame⟩ := forall₂_emits_filter hAll ((d.graph stage).ancestry id).contains
  refine emit_eq_ok_iff.mpr ⟨_, hWired.order_eq_filter hOrder hId, kept, ?_, hSame⟩
  have hMem : ∀ x ∈ order.filter ((d.graph stage).ancestry id).contains, x ∈ (d.graph stage).ancestry id := by
    intro x hx
    simpa using (List.mem_filter.mp hx).2
  refine ((List.forall₂_and_left _ _).mpr ⟨hMem, hKept⟩).imp ?_
  rintro x e? ⟨hx, hEmits⟩
  refine Eq.trans (StageGraph.emitNode_preview ⟨d.mode, stage, x, false⟩ (hSteady x hx) ?_ true) hEmits
  rintro e hEdge rfl
  exact hSteady e.source (StageGraph.source_mem_ancestry hEdge (hWired.inRange e hEdge) hx)

/-- Let a stage be emitted. The closure of any of its nodes is ordered as within the closure of the terminal. Where
nothing of that closure needs the scene, the preview of a port that has a colour shows the port after the blocks that
the stage has for the closure, in the same order. -/
theorem preview_slices_compile (hReachable : d.Reachable) {emissions : List Emission}
    (hEmit : d.emit false stage .output = .ok emissions) {id : NodeId} (hId : (d.graph stage).Feeds .output id) :
    (∃ before prologue after, d.compile.source =
      before ++ ("\nvoid " ++ stage.name ++ "() \x7b\n" ++ prologue ++ Text.concat (emissions.map Emission.block) ++
        "\x7d\n") ++ after) ∧
    ∃ order slice, (d.graph stage).order .output = .ok order ∧ (d.graph stage).closure id = .ok slice ∧
      (∀ x, x ∈ slice ↔ (d.graph stage).Feeds id x) ∧
      (d.graph stage).order id = .ok (order.filter slice.contains) ∧
      ((∀ x ∈ slice, ∀ n, (d.graph stage).node? x = some n → n.needsScene = false) →
        ∀ port type color, (d.graph stage).outputType? id port = some type →
          shownColor? type (outputVariable id port) = some color →
          ∃ shader, d.preview? stage id port = some shader ∧
            shader.source = RenderSettings.empty.header .canvas ++
              d.fileScope true (Assembly.add {} stage (d.emit true stage id)) ++
              ("\nvoid fragment() \x7b\n" ++
                (Text.concat ((emissions.filter fun e => slice.contains e.id).map Emission.block) ++
                  "\tCOLOR.rgb = " ++ color ++ ";\n") ++ "\x7d\n")) := by
  have hWired := hReachable.wired stage
  have hOutput := hReachable.contains_output stage
  obtain ⟨order, hOrder, -⟩ := emit_eq_ok_iff.mp hEmit
  have hMem : id ∈ (d.graph stage).ancestry .output := hWired.mem_ancestry_iff.mpr ⟨hOutput, hId⟩
  have hContains : (d.graph stage).contains id = true :=
    StageGraph.contains_iff.mpr (hWired.exists_placed_of_leadsTo hOutput hId)
  constructor
  · obtain ⟨before, after, hSource⟩ := d.exists_function stage
    exact ⟨before, _, after, by rw [hSource, function, hEmit]; rfl⟩
  · refine ⟨order, _, hOrder, hWired.closure_eq id, fun x => ?_, hWired.order_eq_filter hOrder hMem, ?_⟩
    · rw [hWired.mem_ancestry_iff, hContains, StageGraph.Feeds]
      simp
    · intro hSteady port type color hType hColor
      have hPreview := hReachable.emit_preview hEmit hMem hSteady
      refine ⟨_, by rw [preview?, hType, Option.bind_eq_bind, Option.bind_some, hColor]; rfl, ?_⟩
      simp only [hPreview, previewBody, functionText_fragment]

/-- A uniform and a constant are added; the sum feeds the terminal, and so does a texture that is not part of it. -/
def brightened : Design StandardNode :=
  (Design.empty .spatial).edited
    [.add .fragment 2 .origin (.texture {}),
     .add .fragment 3 .origin (.operator (.scalar .add)),
     .add .fragment 4 .origin (.uniform (.value { type := .scalar })),
     .add .fragment 5 .origin (.constant (.scalar .one)),
     .connect .fragment ⟨2, 0, 0, 0⟩, .connect .fragment ⟨4, 0, 3, 0⟩, .connect .fragment ⟨5, 0, 3, 1⟩,
     .connect .fragment ⟨3, 0, 0, 1⟩]

theorem preview_slices_compile_brightened :
    ∃ emissions, brightened.emit false .fragment .output = .ok emissions ∧
      (brightened.graph .fragment).order .output = .ok [2, 4, 5, 3, 0] ∧
      (brightened.graph .fragment).order 3 = .ok [4, 5, 3] ∧
      ∃ shader start, brightened.preview? .fragment 3 0 = some shader ∧
        shader.source = start ++ ("\nvoid fragment() \x7b\n" ++
          (Text.concat ((emissions.filter fun e => [3, 4, 5].contains e.id).map Emission.block) ++
            "\tCOLOR.rgb = " ++ "vec3(n3_0)" ++ ";\n") ++ "\x7d\n") := by
  have hReachable : brightened.Reachable := .edited (.new .spatial) (by decide)
  have hIds : (brightened.emit false .fragment .output).map (·.map Emission.id) = .ok [2, 4, 5, 3, 0] := by
    decide +kernel
  have hOrder : (brightened.graph .fragment).order .output = .ok [2, 4, 5, 3, 0] := by decide +kernel
  have hClosure : (brightened.graph .fragment).closure 3 = .ok [3, 4, 5] := by decide +kernel
  have hFeeds : (brightened.graph .fragment).Feeds .output 3 := .single ⟨⟨3, 0, 0, 1⟩, by decide, rfl, rfl⟩
  have hSteady : ∀ x ∈ [3, 4, 5], ∀ n, (brightened.graph .fragment).node? x = some n → n.needsScene = false := by
    have hAll : [3, 4, 5].all (fun x => ((brightened.graph .fragment).node? x).all (!·.needsScene)) = true := by
      decide +kernel
    intro x hx n hNode
    simpa [hNode] using List.all_eq_true.mp hAll x hx
  obtain ⟨emissions, hEmit, -⟩ := Except.map_eq_ok_iff.mp hIds
  obtain ⟨-, _, _, hWhole, hSlice, -, hPart, hShown⟩ := preview_slices_compile hReachable hEmit hFeeds
  cases hWhole.symm.trans hOrder
  cases hSlice.symm.trans hClosure
  obtain ⟨shader, hShader, hSource⟩ := hShown hSteady 0 .scalar "vec3(n3_0)" (by decide +kernel) (by decide +kernel)
  exact ⟨emissions, hEmit, hOrder, hPart, shader, _, hShader, hSource⟩

end Design

end ShadeGraph
