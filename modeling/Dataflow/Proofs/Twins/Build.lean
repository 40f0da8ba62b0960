import Dataflow.Proofs.Executor.Crews
import Dataflow.Proofs.Tree.Chain
import Dataflow.Proofs.Twins.Act
import Dataflow.Proofs.Twins.Plans

/-!
# Building twins

Two trees that are built from one plan with different numbers of workers are twins: they have the
same nodes in the same places, and only teams of workers that look at tuples one by one differ in
size. Operators that count words are left out, since each of their workers counts what it is dealt.
-/

namespace Dataflow

variable {engine : PatternEngine}

open Act

/-- Kinds whose workers count words, or keep the counts of words. -/
def OperatorKind.countsWords : OperatorKind → Bool
  | .wordCountPartial _ | .wordCloud _ => true
  | _ => false

/-- Teams of workers that look at tuples one by one. They may differ in size and in whose turn it
is. -/
structure Team.Twins (w : StandardWorker) (size size' : Nat) (a b : Team StandardWorker) :
    Prop where
  applies : ∃ f, w.Applies f
  workers : a.workers = List.replicate size w
  workers' : b.workers = List.replicate size' w
  turn : a.nextWorker < size
  turn' : b.nextWorker < size'
  slots : a.slots = b.slots
  nextSlot : a.nextSlot = b.nextSlot
  pending : a.pending = b.pending

/-- A team of one worker that joins. -/
structure Team.IsLone (team : Team StandardWorker) : Prop where
  workers : ∃ j, team.workers = [.join j]
  turn : team.nextWorker = 0

/-- Crews that are the same, or teams of several copies of a given worker. -/
inductive Crew.Twins : Option StandardWorker → Nat → Nat → Crew TableScan StandardWorker →
    Crew TableScan StandardWorker → Prop
  | source {size size' : Nat} (s : TableScan) (started : Bool) :
    Twins none size size' (.source s started) (.source s started)
  | lone {size size' : Nat} {team : Team StandardWorker} (h : team.IsLone) :
    Twins none size size' (.team team) (.team team)
  | teams {w : StandardWorker} {size size' : Nat} {team team' : Team StandardWorker}
    (h : team.Twins w size size' team') : Twins (some w) size size' (.team team) (.team team')

lemma Crew.Twins.symm {steady : Option StandardWorker} {size size' : Nat}
    {a b : Crew TableScan StandardWorker} (h : Twins steady size size' a b) :
    Twins steady size' size b a := by
  cases h with
  | source s started => exact .source s started
  | lone h => exact .lone h
  | teams h =>
    exact .teams ⟨h.applies, h.workers', h.workers, h.turn', h.turn, h.slots.symm,
      h.nextSlot.symm, h.pending.symm⟩

/-- Nodes that are the same apart from the number of their workers. -/
structure Node.Twins (steady : Option StandardWorker) (size size' : Nat)
    (a b : Node TableScan StandardWorker) : Prop where
  operator : a.operator = b.operator
  schema : a.schema = b.schema
  phase : a.phase = b.phase
  crew : Crew.Twins steady size size' a.crew b.crew

section CreateCrew

variable {config config' : Config} {catalog : Catalog} {operator : Operator} {slots : List Slot}
  {inputs : List Schema} {output : Schema} {make : StandardFactory}

lemma make_config_eq {kind : OperatorKind} (h : kind.factory? engine = some make)
    (hkind : kind.countsWords = false) (r : Request) :
    make { r with context := ⟨config, r.context.catalog⟩ } = make r := by
  match kind with
  | .wordCountPartial _ | .wordCloud _ => cases hkind
  | .entityMatcher .. | .userFunction _ => cases h
  | .scanSource _ | .keywordSource .. | .keywordMatcher .. | .patternMatcher .. | .fuzzyMatcher ..
  | .projection _ | .typeCasting .. | .join .. | .tupleSink =>
    cases h
    rfl

/-- A worker of an operator that does not count words looks at tuples one by one, or it joins and
is the only one. -/
lemma applies_or_join {r : Request} {w : StandardWorker}
    (h : r.operator.kind.factory? engine = some make) (hkind : r.operator.kind.countsWords = false)
    (hmake : make r = .ok (.worker w)) :
    (∃ f, w.Applies f) ∨ (∃ j, w = .join j) ∧ ∀ standard, r.operator.staff standard = 1 := by
  obtain ⟨⟨id, kind⟩, inputs, links, output, worker, context⟩ := r
  cases kind with
  | wordCountPartial | wordCloud => cases hkind
  | entityMatcher | userFunction => cases h
  | scanSource =>
    cases h
    cases hmake
  | keywordSource =>
    cases h
    simp only [StandardFactory.keywordSource] at hmake
    split_ifs at hmake
    · cases hmake
    · obtain ⟨finder, -, hmade⟩ := seq_eq_ok_iff.mp hmake
      cases hmade
  | keywordMatcher | patternMatcher | fuzzyMatcher =>
    cases h
    obtain ⟨finder, -, hmade⟩ := seq_eq_ok_iff.mp hmake
    cases hmade
    exact .inl ⟨_, fun _ _ _ => rfl, fun _ _ => rfl, rfl⟩
  | projection | typeCasting =>
    cases h
    obtain ⟨input, -, hmade⟩ := seq_eq_ok_iff.mp hmake
    obtain ⟨place, -, hmade⟩ := seq_eq_ok_iff.mp hmade
    cases hmade
    exact .inl ⟨_, fun _ _ _ => rfl, fun _ _ => rfl, rfl⟩
  | tupleSink =>
    cases h
    cases hmake
    exact .inl ⟨_, fun _ _ _ => rfl, fun _ _ => rfl, rfl⟩
  | join =>
    cases h
    rcases links with _ | ⟨innerLink, _ | ⟨outerLink, _ | ⟨_, _⟩⟩⟩
    · cases hmake
    · cases hmake
    · obtain ⟨inner, -, hmade⟩ := seq_eq_ok_iff.mp hmake
      obtain ⟨outer, -, hmade⟩ := seq_eq_ok_iff.mp hmade
      obtain ⟨plan, -, hmade⟩ := seq_eq_ok_iff.mp hmade
      cases hmade
      exact .inr ⟨⟨_, rfl⟩, fun _ => rfl⟩
    · cases hmake

lemma mapM_const {α β : Type} {result : Result β} {xs : List α} (hxs : xs ≠ []) :
    (xs.mapM fun _ => result) = result.map (List.replicate xs.length) := by
  match result with
  | .error e =>
    obtain ⟨x, xs, rfl⟩ := List.exists_cons_of_ne_nil hxs
    rfl
  | .ok y =>
    apply mapM_eq_ok_iff.mpr
    apply List.forall₂_iff_get.mpr
    simp

/-- What a crew is, given what the factory makes. -/
lemma createCrew_eq {context : Context} {workers : Nat}
    (hmake : operator.kind.factory? engine = some make) :
    Scaffold.createCrew (.standard engine) context operator workers slots inputs output =
      match make (requestOf context operator slots inputs output) with
      | .error e => .error e
      | .ok (.source s) =>
        if slots.isEmpty then .ok (.source s false)
        else .error (.run (.notAnOperator operator.kind.tag operator.id))
      | .ok (.worker w) =>
        if slots.isEmpty then .error (.run (.notASource operator.kind.tag operator.id))
        else .ok (.team { slots, workers := List.replicate (max workers 1) w }) := by
  rw [Scaffold.createCrew, require_standard hmake, Result.ok_bind]
  by_cases hslots : slots.isEmpty = true
  · simp only [if_pos hslots]
    change (make (requestOf context operator slots inputs output) >>= _) = _
    rcases make (requestOf context operator slots inputs output) with _ | _ | _ <;> rfl
  · simp only [if_neg hslots]
    -- All workers are asked for in the same way, so the first one settles the outcome.
    have hask (n : Nat) : make ⟨operator, inputs, slots.map Slot.link, output, n, context⟩ =
        make (requestOf context operator slots inputs output) :=
      make_worker_eq hmake (requestOf context operator slots inputs output) n
    simp only [hask]
    rw [mapM_const (by simp)]
    match make (requestOf context operator slots inputs output) with
    | .error e => rfl
    | .ok (.source s) => rfl
    | .ok (.worker w) =>
      simp [bind, Except.bind]
      rfl

/-- Crews with different numbers of workers are both refused or are twins. -/
lemma createCrew_twins (hkind : operator.kind.countsWords = false) (config config' : Config)
    (standard standard' : Nat) (slots : List Slot) (inputs : List Schema) (output : Schema) :
    (∃ e, Scaffold.createCrew (.standard engine) ⟨config, catalog⟩ operator
        (operator.staff standard) slots inputs output = .error e ∧
      Scaffold.createCrew (.standard engine) ⟨config', catalog⟩ operator
        (operator.staff standard') slots inputs output = .error e) ∨
    ∃ crew crew' steady size size',
      Scaffold.createCrew (.standard engine) ⟨config, catalog⟩ operator
        (operator.staff standard) slots inputs output = .ok crew ∧
      Scaffold.createCrew (.standard engine) ⟨config', catalog⟩ operator
        (operator.staff standard') slots inputs output = .ok crew' ∧
      Crew.Twins steady size size' crew crew' := by
  cases hfactory : operator.kind.factory? engine with
  | none =>
    refine .inl ⟨.noExecutor operator.kind.tag, ?_, ?_⟩ <;>
      simp [Scaffold.createCrew, Registry.require, get?_standard, hfactory]
  | some make =>
    have hmake : make (requestOf ⟨config', catalog⟩ operator slots inputs output) =
        make (requestOf ⟨config, catalog⟩ operator slots inputs output) :=
      make_config_eq hfactory hkind (requestOf ⟨config, catalog⟩ operator slots inputs output)
    rw [createCrew_eq hfactory, createCrew_eq hfactory, hmake]
    rcases hr : make (requestOf ⟨config, catalog⟩ operator slots inputs output) with e | (s | w)
    · exact .inl ⟨e, rfl, rfl⟩
    · by_cases hslots : slots.isEmpty = true
      · simp only [if_pos hslots]
        exact .inr ⟨_, _, none, 0, 0, rfl, rfl, .source s false⟩
      · simp only [if_neg hslots]
        exact .inl ⟨_, rfl, rfl⟩
    · by_cases hslots : slots.isEmpty = true
      · simp only [if_pos hslots]
        exact .inl ⟨_, rfl, rfl⟩
      · simp only [if_neg hslots]
        rcases applies_or_join hfactory hkind hr with ⟨f, hw⟩ | ⟨⟨j, rfl⟩, hone⟩
        · refine .inr ⟨_, _, some w, _, _, rfl, rfl,
            .teams ⟨⟨f, hw⟩, rfl, rfl, ?_, ?_, rfl, rfl, rfl⟩⟩
          · exact lt_max_of_lt_right Nat.one_pos
          · exact lt_max_of_lt_right Nat.one_pos
        · rw [show operator.staff standard = 1 from hone standard,
            show operator.staff standard' = 1 from hone standard']
          exact .inr ⟨_, _, none, 0, 0, rfl, rfl, .lone ⟨⟨j, rfl⟩, rfl⟩⟩

end CreateCrew

lemma PhysicalPlan.connector?_staff (p : PhysicalPlan) (standard : Nat) (c : ConnectorId) :
    (p.staff standard).connector? c = (p.connector? c).map (ConnectorSpec.staff standard) :=
  List.getElem?_map ..

/-- Trees under way that are the same apart from the number of workers. -/
structure Scaffold.Twins (s s' : Scaffold TableScan StandardWorker) : Prop where
  nodes : List.Forall₂ (fun a b => ∃ steady size size', Node.Twins steady size size' a b)
    s.nodes s'.nodes
  junctions : s.junctions = s'.junctions

namespace Scaffold

variable {config config' : Config} {catalog : Catalog} {s s' : Scaffold TableScan StandardWorker}
  {connect connect' : ConnectorId → Build TableScan StandardWorker Unit} {standard standard' : Nat}

lemma Twins.seen_eq (h : Twins s s') (supply : Supply) : s.seen supply = s'.seen supply := by
  cases supply with
  | endpoint c i =>
    unfold seen
    rw [h.junctions]
  | node place =>
    have hschemas : List.Forall₂ Eq (s.nodes.map Node.schema) (s'.nodes.map Node.schema) := by
      rw [List.forall₂_map_left_iff, List.forall₂_map_right_iff]
      exact h.nodes.imp fun _ _ ⟨_, _, _, hnodes⟩ => hnodes.schema
    rw [List.forall₂_eq_eq_eq] at hschemas
    simp only [seen, ← List.getElem?_map, hschemas]

lemma inStep_schemaOf (h : Twins s s') (supply : Supply) :
    InStep Twins (schemaOf supply : Build TableScan StandardWorker Schema) (schemaOf supply)
      s s' := by
  unfold InStep
  rw [outcome_schemaOf, outcome_schemaOf, h.seen_eq]
  exact .some ⟨rfl, h⟩

lemma inStep_mapM_schemaOf (h : Twins s s') (slots : List Slot) :
    InStep Twins
      (slots.mapM fun slot => schemaOf slot.supply : Build TableScan StandardWorker (List Schema))
      (slots.mapM fun slot => schemaOf slot.supply) s s' := by
  unfold InStep
  rw [outcome_mapM_schemaOf, outcome_mapM_schemaOf]
  simp only [h.seen_eq]
  exact .some ⟨rfl, h⟩

lemma inStep_addNode {steady : Option StandardWorker} {size size' : Nat}
    {a b : Node TableScan StandardWorker} (h : Twins s s')
    (hnode : Node.Twins steady size size' a b) : InStep Twins (addNode a) (addNode b) s s' := by
  have hnodes : List.Forall₂ (fun a b => ∃ steady size size', Node.Twins steady size size' a b)
      [a] [b] :=
    .cons ⟨steady, size, size', hnode⟩ .nil
  exact .some ⟨congrArg Except.ok h.nodes.length_eq, List.rel_append h.nodes hnodes, h.junctions⟩

lemma inStep_createNode {operator : Operator} {slots : List Slot} (h : Twins s s')
    (hkind : operator.kind.countsWords = false) :
    InStep Twins
      (createNode (.standard engine) ⟨config, catalog⟩ operator (operator.staff standard) slots)
      (createNode (.standard engine) ⟨config', catalog⟩ operator (operator.staff standard') slots)
      s s' := by
  apply (inStep_mapM_schemaOf h slots).bind
  intro inputs t t' h
  apply inStep_lift_bind h
  intro output _
  rcases createCrew_twins hkind config config' standard standard' slots inputs output with
    ⟨e, he, he'⟩ | ⟨crew, crew', steady, size, size', hcrew, hcrew', htwins⟩
  · rw [he, he']
    exact inStep_lift_bind h fun _ h => nomatch h
  · rw [hcrew, hcrew']
    apply inStep_ok_bind
    exact inStep_addNode h ⟨rfl, rfl, rfl, htwins⟩

lemma inStep_joinEndpoint {c : ConnectorId} {i : Nat} {consumer : OperatorId} (h : Twins s s') :
    InStep Twins (joinEndpoint c i consumer : Build TableScan StandardWorker Unit)
      (joinEndpoint c i consumer) s s' := by
  apply inStep_get_bind
  rw [h.junctions]
  cases s'.junctions[c]?.join with
  | none => exact inStep_throw h
  | some junction =>
    apply inStep_lift_bind h
    intro connector _
    exact .some ⟨rfl, h.nodes, rfl⟩

mutual

lemma inStep_buildNode
    (hconnect : ∀ c s s', Twins s s' → InStep Twins (connect c) (connect' c) s s')
    {n : PhysicalNode} {s s' : Scaffold TableScan StandardWorker}
    (hkinds : ∀ m ∈ n.all, m.operator.kind.countsWords = false) (h : Twins s s') :
    InStep Twins (buildNode (.standard engine) ⟨config, catalog⟩ connect (n.staff standard))
      (buildNode (.standard engine) ⟨config', catalog⟩ connect' (n.staff standard')) s s' := by
  match n with
  | .node operator workers inputs =>
    rw [PhysicalNode.all] at hkinds
    obtain ⟨hkind, hkinds⟩ := List.forall_mem_cons.mp hkinds
    rw [PhysicalNode.staff, PhysicalNode.staff, buildNode, buildNode]
    exact (inStep_buildInputs hconnect hkinds h).bind fun slots _ _ h' => inStep_createNode h' hkind

lemma inStep_buildInputs
    (hconnect : ∀ c s s', Twins s s' → InStep Twins (connect c) (connect' c) s s')
    {consumer : OperatorId} {inputs : List PhysicalInput}
    {s s' : Scaffold TableScan StandardWorker}
    (hkinds : ∀ m ∈ PhysicalInput.allOf inputs, m.operator.kind.countsWords = false)
    (h : Twins s s') :
    InStep Twins
      (buildInputs (.standard engine) ⟨config, catalog⟩ connect consumer
        (PhysicalInput.staffAll standard inputs))
      (buildInputs (.standard engine) ⟨config', catalog⟩ connect' consumer
        (PhysicalInput.staffAll standard' inputs)) s s' := by
  match inputs with
  | [] =>
    rw [PhysicalInput.staffAll, PhysicalInput.staffAll, buildInputs, buildInputs]
    exact inStep_pure h
  | .direct link node :: inputs =>
    rw [PhysicalInput.allOf] at hkinds
    obtain ⟨hnode, hinputs⟩ := List.forall_mem_append.mp hkinds
    rw [PhysicalInput.staffAll, PhysicalInput.staffAll, buildInputs, buildInputs]
    apply (inStep_buildNode hconnect hnode h).bind
    intro place t t' h'
    apply (inStep_buildInputs hconnect hinputs h').bind
    exact fun _ _ _ h'' => inStep_pure h''
  | .endpoint link c i :: inputs =>
    rw [PhysicalInput.allOf] at hkinds
    rw [PhysicalInput.staffAll, PhysicalInput.staffAll, buildInputs, buildInputs]
    apply (hconnect c s s' h).bind
    intro _ t t' h'
    apply (inStep_joinEndpoint h').bind
    intro _ u u' h''
    apply (inStep_buildInputs hconnect hkinds h'').bind
    exact fun _ _ _ h₃ => inStep_pure h₃

end

lemma inStep_connectWith {plan : PhysicalPlan} {c : ConnectorId}
    (hconnect : ∀ c s s', Twins s s' → InStep Twins (connect c) (connect' c) s s')
    (hkinds : ∀ m ∈ plan.nodes, m.operator.kind.countsWords = false) (h : Twins s s') :
    InStep Twins (connectWith (.standard engine) ⟨config, catalog⟩ (plan.staff standard) connect c)
      (connectWith (.standard engine) ⟨config', catalog⟩ (plan.staff standard') connect' c)
      s s' := by
  apply inStep_get_bind
  rw [h.junctions, PhysicalPlan.connector?_staff, PhysicalPlan.connector?_staff]
  match s'.junctions[c]?, hspec : plan.connector? c with
  | some (some junction), _ => exact inStep_pure h
  | none, _ | some none, none => exact inStep_throw h
  | some none, some spec =>
    have hproducer : ∀ m ∈ spec.producer.all, m.operator.kind.countsWords = false := by
      intro m hm
      apply hkinds
      apply List.mem_append_right
      exact List.mem_flatMap.mpr ⟨spec, List.mem_of_getElem? hspec, hm⟩
    apply (inStep_buildNode hconnect hproducer h).bind
    intro place t t' h'
    apply (inStep_schemaOf h' _).bind
    intro schema u u' h''
    simp only [ConnectorSpec.staff, PhysicalNode.id_staff]
    apply inStep_lift_bind h''
    intro connector _
    apply inStep_modify
    exact ⟨h''.nodes, by rw [h''.junctions]⟩

lemma inStep_connect {plan : PhysicalPlan}
    (hkinds : ∀ m ∈ plan.nodes, m.operator.kind.countsWords = false) (depth : Nat)
    {c : ConnectorId} (h : Twins s s') :
    InStep Twins
      (Scaffold.connect (.standard engine) ⟨config, catalog⟩ (plan.staff standard) depth c)
      (Scaffold.connect (.standard engine) ⟨config', catalog⟩ (plan.staff standard') depth c)
      s s' := by
  induction depth generalizing c s s' with
  | zero => exact inStep_endless
  | succ depth ih => exact inStep_connectWith (fun c s s' h => ih h) hkinds h

lemma inStep_buildPlan {plan : PhysicalPlan}
    (hkinds : ∀ m ∈ plan.nodes, m.operator.kind.countsWords = false) (h : Twins s s') :
    InStep Twins (buildPlan (.standard engine) ⟨config, catalog⟩ (plan.staff standard))
      (buildPlan (.standard engine) ⟨config', catalog⟩ (plan.staff standard')) s s' := by
  have hroot : ∀ m ∈ plan.root.all, m.operator.kind.countsWords = false :=
    fun m hm => hkinds m (List.mem_append_left _ hm)
  unfold buildPlan
  simp only [PhysicalPlan.staff, List.length_map]
  apply (inStep_buildNode (fun c s s' h => inStep_connect hkinds _ h) hroot h).bind
  intro place t t' h'
  apply inStep_get_bind
  rw [h'.junctions]
  apply inStep_lift_bind h'
  exact fun junctions _ => inStep_pure h'

end Scaffold

end Dataflow
