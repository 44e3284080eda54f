import ShadeGraph.Proofs.Atomicity
import ShadeGraph.Proofs.Soundness

/-!
# Which edges may be drawn

An edge is let through exactly if the stage with it is sound. An edge that is refused is refused for the first part of
soundness that the stage would lose.
-/

namespace ShadeGraph

/-- The parts of soundness. -/
inductive EdgeRule
  | ends
  | types
  | singleWriter
  | acyclic
  deriving DecidableEq

def GraphError.rule? : GraphError → Option EdgeRule
  | .missingNode _ _ => some .ends
  | .missingPort _ _ _ => some .ends
  | .typeMismatch _ _ => some .types
  | .alreadyConnected _ _ => some .singleWriter
  | .cycle _ _ => some .acyclic
  | _ => none

namespace EdgeRule

def inOrder : List EdgeRule := [ends, types, singleWriter, acyclic]

variable {ν : Type} [NodeModel ν] {g : StageGraph ν} {e : Edge} {stage : Stage} {cause : GraphError}

def HoldsIn (g : StageGraph ν) : EdgeRule → Prop
  | ends => ∀ e ∈ g.edges, g.inRange e = true
  | types => ∀ e ∈ g.edges, g.isSound e = true
  | singleWriter => (g.edges.map fun e => (e.target, e.input)).Nodup
  | acyclic => StageGraph.Acyclic g.edges

/-- Of the rules that a graph breaks, `rule` comes first. -/
def IsFirstBroken (g : StageGraph ν) (rule : EdgeRule) : Prop :=
  ∃ earlier later, inOrder = earlier ++ rule :: later ∧ (∀ r ∈ earlier, r.HoldsIn g) ∧ ¬rule.HoldsIn g

/-- What a rule asks of one more edge. -/
def Allows (g : StageGraph ν) (e : Edge) : EdgeRule → Prop
  | ends => g.inRange e = true
  | types => g.isSound e = true
  | singleWriter => ∀ f ∈ g.edges, f.feeds e.target e.input = false
  | acyclic => ¬Relation.ReflTransGen (StageGraph.Joined g.edges) e.target e.source

theorem sound_iff : g.Sound ↔ ∀ rule : EdgeRule, rule.HoldsIn g := by
  constructor
  · intro h rule
    cases rule with
    | ends => exact h.inRange
    | types => exact h.isSound
    | singleWriter => exact h.inputs_nodup
    | acyclic => exact h.acyclic
  · intro h
    exact ⟨⟨h ends, h singleWriter⟩, h types, h acyclic⟩

theorem holdsIn_append_iff (h : g.Sound) (rule : EdgeRule) :
    rule.HoldsIn { g with edges := g.edges ++ [e] } ↔ rule.Allows g e := by
  -- What the graph holds already breaks no rule, so each is a question about the new edge.
  cases rule with
  | ends => exact List.forall_mem_append.trans ((and_iff_right h.inRange).trans List.forall_mem_singleton)
  | types => exact List.forall_mem_append.trans ((and_iff_right h.isSound).trans List.forall_mem_singleton)
  | singleWriter => exact StageGraph.inputs_nodup_append_iff h.inputs_nodup
  | acyclic => exact StageGraph.acyclic_append_iff h.acyclic

theorem rule?_of_checkEnds (h : g.checkEnds stage e = .error cause) : cause.rule? = some ends := by
  have hNode {id : NodeId} (hError : g.checkNode stage id = .error cause) : cause.rule? = some ends := by
    rw [StageGraph.checkNode] at hError
    split at hError <;> cases hError
    rfl
  have hPort {n : ν} {id : NodeId} {direction : Direction} {port : Nat}
      (hError : StageGraph.checkPort n id direction port = .error cause) : cause.rule? = some ends := by
    rw [StageGraph.checkPort] at hError
    split at hError <;> cases hError
    rfl
  simp only [StageGraph.checkEnds, Except.bind_eq_error_iff] at h
  rcases h with h | ⟨_, -, h | ⟨_, -, h | ⟨_, -, h | ⟨_, -, h⟩⟩⟩⟩
  · exact hNode h
  · exact hNode h
  · exact hPort h
  · exact hPort h
  · cases h

theorem rule?_of_checkTypes (hRange : g.inRange e = true) (h : g.checkTypes e = .error cause) :
    cause.rule? = some types := by
  obtain ⟨⟨type, hType⟩, p, hPort⟩ := StageGraph.inRange_iff.mp hRange
  simp only [StageGraph.checkTypes, hType, hPort] at h
  split at h <;> cases h
  rfl

theorem exists_rule_of_checkEdge (h : g.checkEdge stage e = .error cause) :
    ∃ earlier rule later, inOrder = earlier ++ rule :: later ∧ cause.rule? = some rule ∧
      (∀ r ∈ earlier, r.Allows g e) ∧ ¬rule.Allows g e := by
  have hFails {x : Except GraphError Unit} (hError : x = .error cause) : x ≠ .ok () := by
    rw [hError]
    exact fun hOk => by cases hOk
  -- The checks are made in the order of the rules. Each that passes is a rule that allows the edge.
  rw [StageGraph.checkEdge, Except.bind_eq_error_iff] at h
  rcases h with h | ⟨_, hEnds, h⟩
  · refine ⟨[], ends, _, rfl, rule?_of_checkEnds h, by simp, ?_⟩
    exact fun hRange => hFails h (StageGraph.checkEnds_eq_ok_iff.mpr hRange)
  have hRange : Allows g e ends := StageGraph.checkEnds_eq_ok_iff.mp hEnds
  rw [Except.bind_eq_error_iff] at h
  rcases h with h | ⟨_, hTypes, h⟩
  · refine ⟨[ends], types, _, rfl, rule?_of_checkTypes hRange h, by simp [hRange], ?_⟩
    exact fun hSound => hFails h (StageGraph.checkTypes_eq_ok_iff.mpr hSound)
  have hSound : Allows g e types := StageGraph.checkTypes_eq_ok_iff.mp hTypes
  dsimp only at h
  split at h
  · rename_i hFed
    cases h
    refine ⟨[ends, types], singleWriter, _, rfl, rfl, by simp [hRange, hSound], fun hFree => ?_⟩
    rw [StageGraph.incoming?_eq_none_iff.mpr hFree] at hFed
    cases hFed
  rename_i hUnfed
  have hFree : Allows g e singleWriter := StageGraph.incoming?_eq_none_iff.mp (by simpa using hUnfed)
  split at h
  · rename_i hCloses
    cases h
    refine ⟨[ends, types, singleWriter], acyclic, _, rfl, rfl, by simp [hRange, hSound, hFree], ?_⟩
    exact fun hOpen => hOpen (StageGraph.closesCycle_iff.mp hCloses)
  · cases h

theorem checkEdge_eq_ok_iff_allows : g.checkEdge stage e = .ok () ↔ ∀ rule : EdgeRule, rule.Allows g e := by
  constructor
  · intro h rule
    obtain ⟨hSound, hFree, hOpen⟩ := StageGraph.checkEdge_eq_ok_iff.mp h
    cases rule with
    | ends => exact StageGraph.inRange_of_isSound hSound
    | types => exact hSound
    | singleWriter => exact StageGraph.incoming?_eq_none_iff.mp hFree
    | acyclic =>
      intro hPath
      rw [StageGraph.closesCycle_iff.mpr hPath] at hOpen
      cases hOpen
  · intro h
    cases hCheck : g.checkEdge stage e with
    | ok _ => rfl
    | error cause =>
      obtain ⟨_, rule, _, -, -, -, hBroken⟩ := exists_rule_of_checkEdge hCheck
      exact absurd (h rule) hBroken

end EdgeRule

namespace Session

variable {ν : Type} [NodeModel ν]

theorem performs_connect_checked (ed : Editor ν) (stage : Stage) (e : Edge) :
    InPlace.Performs (connect stage e) ed ((ed.design.graph stage).checkEdge stage e) fun _ =>
      { ed with
        design := ed.design.withGraph stage { ed.design.graph stage with edges := (ed.design.graph stage).edges ++ [e] }
        stale := true } := by
  rw [← bind_pure ((ed.design.graph stage).checkEdge stage e), connect]
  exact InPlace.Performs.get (InPlace.Performs.check fun _ _ => InPlace.performs_writes rfl)

end Session

open StageGraph in
/-- On a stage that is sound an edge is drawn exactly if the stage with it is sound, and it goes to the end of the list.
An edge that is refused changes nothing, and the error is for the first rule that it breaks. On every graph the search
for a cycle finds a path back if there is one. -/
theorem connect_exact {ν : Type} [NodeModel ν] (ed : Editor ν) (stage : Stage) (e : Edge)
    (hSound : (ed.design.graph stage).Sound) :
    let g := ed.design.graph stage
    let extended : StageGraph ν := { g with edges := g.edges ++ [e] }
    (((Session.connect stage e).exec ed).1 = .ok () ↔ extended.Sound) ∧
    (∀ ed', (Session.connect stage e).exec ed = (.ok (), ed') →
      ed' = { ed with design := ed.design.withGraph stage extended, stale := true }) ∧
    (∀ cause ed', (Session.connect stage e).exec ed = (.error cause, ed') →
      ed' = ed ∧ ∃ rule, cause.rule? = some rule ∧ rule.IsFirstBroken extended) ∧
    ∀ (g' : StageGraph ν) (source target : NodeId), g'.closesCycle source target = true ↔
      source = target ∨ Relation.TransGen (Joined g'.edges) target source := by
  intro g extended
  have hAllows (rule : EdgeRule) : rule.HoldsIn extended ↔ rule.Allows g e := EdgeRule.holdsIn_append_iff hSound rule
  have hAccepts : g.checkEdge stage e = .ok () ↔ extended.Sound := by
    rw [EdgeRule.checkEdge_eq_ok_iff_allows, EdgeRule.sound_iff]
    exact forall_congr' fun rule => (hAllows rule).symm
  have hRuns : InPlace.Performs (Session.connect stage e) ed (g.checkEdge stage e) fun _ =>
      { ed with design := ed.design.withGraph stage extended, stale := true } :=
    Session.performs_connect_checked ed stage e
  refine ⟨?_, ?_, ?_, ?_⟩
  · rw [← hAccepts, hRuns]
    cases g.checkEdge stage e <;> simp
  · intro ed' hDrawn
    obtain ⟨_, -, hWritten⟩ := hRuns.exec_eq_ok_iff.mp hDrawn
    exact hWritten.symm
  · intro cause ed' hFails
    have hCheck : g.checkEdge stage e = .error cause := hRuns.error_of_fails hFails
    obtain ⟨earlier, rule, later, hOrder, hRule, hEarlier, hBroken⟩ := EdgeRule.exists_rule_of_checkEdge hCheck
    refine ⟨hRuns.eq_of_fails hFails, rule, hRule, earlier, later, hOrder, ?_, mt (hAllows rule).mp hBroken⟩
    exact fun r hMem => (hAllows r).mpr (hEarlier r hMem)
  · intro g' source target
    rw [closesCycle_iff, Relation.reflTransGen_iff_eq_or_transGen]

/-- Two ways lead from the node 2 to the node 4. -/
def diamond : Editor StandardNode where
  design := (Design.empty .spatial).edited
    [.add .fragment 2 .origin (.operator (.scalar .add)), .add .fragment 3 .origin (.operator (.scalar .add)),
     .add .fragment 4 .origin (.operator (.scalar .add)), .connect .fragment ⟨2, 0, 3, 0⟩,
     .connect .fragment ⟨2, 0, 4, 0⟩, .connect .fragment ⟨3, 0, 4, 1⟩]

/-- The way back is refused, and the way out is not. -/
theorem connect_exact_diamond :
    let g := diamond.design.graph .fragment
    (Session.connect .fragment ⟨4, 0, 2, 0⟩).exec diamond = (.error (.cycle 4 2), diamond) ∧
    EdgeRule.acyclic.IsFirstBroken { g with edges := g.edges ++ [⟨4, 0, 2, 0⟩] } ∧
    StageGraph.Sound { g with edges := g.edges ++ [⟨4, 0, 0, 1⟩] } := by
  intro g
  have hSound : g.Sound := Design.sound_edited .spatial _ .fragment
  obtain ⟨-, -, hRefused, -⟩ := connect_exact diamond .fragment ⟨4, 0, 2, 0⟩ hSound
  obtain ⟨hAccepts, -, -, -⟩ := connect_exact diamond .fragment ⟨4, 0, 0, 1⟩ hSound
  have hError : ((Session.connect .fragment ⟨4, 0, 2, 0⟩).exec diamond).1 = .error (.cycle 4 2) := by rfl
  obtain ⟨hSame, rule, hRule, hFirst⟩ := hRefused (.cycle 4 2) _ (Prod.ext hError rfl)
  cases hRule
  exact ⟨Prod.ext hError hSame, hFirst, hAccepts.mp (by rfl)⟩

end ShadeGraph
