import Dataflow.Pattern.Search
import Dataflow.Proofs.Tree.Census
import Dataflow.Proofs.Tree.Wired

/-!
# Building goes down the connectors

In a physical plan of a valid plan, a connector is made after all those that its producer reads. So
building goes down from a connector to those before it, no operator is built twice, and in the end
each connector stands above the one node of its producer.
-/

namespace Dataflow

open Act

variable {σ ω : Type} {registry : Registry σ ω} {context : Context} {v : ValidPlan} {workers : Nat}
  {physical : PhysicalPlan}

/-- Every endpoint that is read anywhere under a connector is one of a connector before it. -/
def PhysicalPlan.Stratified (p : PhysicalPlan) : Prop :=
  ∀ c spec, p.connector? c = some spec → ∀ x ∈ spec.producer.endpoints, x.1 < c

/-- When a connector is made, its producer was laid out already, and what it reads is there. -/
lemma ValidPlan.stratified_of_physical (h : v.physical workers = .ok physical) :
    physical.Stratified := by
  obtain ⟨layout, hlayout, hconnectors, -⟩ := exists_layout h
  have hfold := v.foldlM_addNode workers
  rw [hlayout] at hfold
  intro c spec hspec x hx
  rw [PhysicalPlan.connector?, hconnectors] at hspec
  obtain ⟨n, hn, hx⟩ := List.mem_flatMap.mp (spec.producer.endpoints_perm.mem_iff.mp hx)
  obtain ⟨input, hinput, hx⟩ := List.mem_filterMap.mp hx
  have hstands := (hfold.1.connector_stands c spec hspec n hn).inputs input hinput
  cases input with
  | direct link node => cases hx
  | endpoint link d i =>
    cases hx
    obtain ⟨-, ⟨spec', hspec', -⟩, -⟩ := hstands
    have hlt := (List.getElem?_eq_some_iff.mp hspec').1
    rw [List.length_take] at hlt
    exact hlt.trans_le (min_le_left ..)

lemma PhysicalPlan.Stratified.lt_of_asks (h : physical.Stratified) {c d : ConnectorId}
    {spec : ConnectorSpec} (hspec : physical.connector? c = some spec)
    (hd : d ∈ spec.producer.asks) : d < c := by
  rw [PhysicalNode.asks_eq_map] at hd
  obtain ⟨x, hx, rfl⟩ := List.mem_map.mp hd
  exact h c spec hspec x hx

namespace Scaffold

variable {s : Scaffold σ ω} {k c : ConnectorId}

section Congr

variable {connect connect' : ConnectorId → Build σ ω Unit}

mutual

/-- Building a node depends only on how the connectors are built that it asks for. -/
lemma buildNode_congr {n : PhysicalNode} (h : ∀ d ∈ n.asks, connect d = connect' d) :
    buildNode registry context connect n = buildNode registry context connect' n := by
  match n with
  | .node operator workers inputs =>
    rw [PhysicalNode.asks] at h
    rw [buildNode, buildNode, buildInputs_congr h]

lemma buildInputs_congr {consumer : OperatorId} {inputs : List PhysicalInput}
    (h : ∀ d ∈ PhysicalInput.asksOf inputs, connect d = connect' d) :
    buildInputs registry context connect consumer inputs =
      buildInputs registry context connect' consumer inputs := by
  match inputs with
  | [] => rw [buildInputs, buildInputs]
  | .direct link n :: inputs =>
    rw [PhysicalInput.asksOf, List.forall_mem_append] at h
    rw [buildInputs, buildInputs, buildNode_congr h.1, buildInputs_congr h.2]
  | .endpoint link d i :: inputs =>
    rw [PhysicalInput.asksOf, List.forall_mem_cons] at h
    rw [buildInputs, buildInputs, h.1, buildInputs_congr h.2]

end

lemma connectWith_congr (h : ∀ spec, physical.connector? c = some spec →
    ∀ d ∈ spec.producer.asks, connect d = connect' d) :
    connectWith registry context physical connect c =
      connectWith registry context physical connect' c := by
  rw [connectWith, connectWith]
  refine bind_congr fun s => ?_
  rcases s.junctions[c]? with _ | _ | junction
  · rfl
  · cases hspec : physical.connector? c with
    | none => rfl
    | some spec =>
      simp only
      rw [buildNode_congr (h spec hspec)]
  · rfl

end Congr

/-- Builds a connector unless it is there, where only connectors before it may be built above its
producer. -/
def connectBelow (registry : Registry σ ω) (context : Context) (plan : PhysicalPlan)
    (c : ConnectorId) : Build σ ω Unit :=
  connectWith registry context plan
    (fun d => if d < c then connectBelow registry context plan d else .endless) c
termination_by c

/-- Where all that is read under a connector comes before it, building goes down from one to those
before it, and the limit on the depth does not matter. -/
lemma connect_eq_connectBelow (h : physical.Stratified) {depth : Nat} (hdepth : c < depth) :
    connect registry context physical depth c = connectBelow registry context physical c := by
  induction depth generalizing c with
  | zero => exact absurd hdepth (Nat.not_lt_zero c)
  | succ depth ih =>
    rw [connect, connectBelow]
    refine connectWith_congr fun spec hspec d hd => ?_
    have hlt := h.lt_of_asks hspec hd
    rw [if_pos hlt, ih (hlt.trans_le (Nat.lt_succ_iff.mp hdepth))]

lemma running_le_due : s.running ≤ s.due physical k :=
  Multiset.le_add_right ..

lemma bounds_running : Bounds physical k fun m (s : Scaffold σ ω) => s.running ≤ m where
  mono := fun _ _ _ hle h => h.trans hle
  of_due := fun _ => running_le_due

lemma due_mono {k' : Nat} (h : k ≤ k') : s.due physical k ≤ s.due physical k' :=
  add_le_add_right (Finset.sum_le_sum_of_subset (Finset.range_mono h)) _

lemma due_succ {spec : ConnectorSpec} (hmissing : s.Missing c)
    (hspec : physical.connector? c = some spec) :
    s.due physical (c + 1) = s.due physical c + operatorsOf spec.producer.all := by
  rw [due, due, Finset.sum_range_succ, owes_missing hmissing hspec, add_assoc]

/-- A connector adds nothing to what is due with it and those before it. If it fails, no more runs
than was due: its producer was built with the connectors before it only, and all that was built for
it was owed by it. -/
lemma addsDue_connect (h : physical.Stratified) {depth : Nat} (hdepth : c < depth) (hk : c < k) :
    AddsDue physical k (fun m s => s.running ≤ m) 0
      (connect registry context physical depth c) := by
  induction depth generalizing c k with
  | zero => exact absurd hdepth (Nat.not_lt_zero c)
  | succ depth ih =>
    intro s
    simp only [add_zero]
    refine answers_connectWith_or (fun _ => running_le_due) rfl fun spec hmissing hspec => ?_
    have hproducer {k : Nat} (hk : c ≤ k) :
        AddsDue physical k (fun m s => s.running ≤ m) (operatorsOf spec.producer.all)
          (buildNode registry context (connect registry context physical depth) spec.producer) := by
      refine addsDue_buildNode bounds_running fun d hd => ?_
      have hlt := h.lt_of_asks hspec hd
      exact ih (hlt.trans_le (Nat.lt_succ_iff.mp hdepth)) (hlt.trans_le hk)
    have hle : s.due physical c + operatorsOf spec.producer.all ≤ s.due physical k := by
      rw [← due_succ hmissing hspec]
      exact due_mono hk
    have hnode := (hproducer le_rfl s).and_gives
      ((hproducer hk.le s).gives.and (missing_after_buildNode depth hmissing hspec))
    refine (hnode.mono_blame fun _ _ hstop => hstop.trans hle).mono
      fun place s' ⟨hs', hdue, hmissing'⟩ => ⟨fun _ => ?_, fun connector => ?_⟩
    · exact (running_le_due.trans hs'.le).trans hle
    · refine add_right_cancel (b := operatorsOf spec.producer.all) ?_
      exact (due_set hmissing' hspec hk _).trans hdue

/-- However the building of a plan ends, no more runs than the operators of the plan. -/
lemma answers_buildPlan_running (registry : Registry σ ω) (context : Context)
    (h : physical.Stratified)
    (hroot : ∀ c ∈ physical.root.asks, c < physical.connectors.length) :
    (buildPlan registry context physical).Answers ⟨[], physical.connectors.map fun _ => none⟩
      (fun _ s => s.running ≤ operatorsOf physical.nodes)
      fun _ s => s.running ≤ operatorsOf physical.nodes := by
  have hadds : AddsDue physical physical.connectors.length (fun m s => s.running ≤ m)
      (operatorsOf physical.root.all) (buildNode registry context
        (connect registry context physical (2 * physical.connectors.length + 1))
        physical.root) := by
    have hdepth : physical.connectors.length ≤ 2 * physical.connectors.length + 1 := by omega
    exact addsDue_buildNode bounds_running fun c hc =>
      addsDue_connect h ((hroot c hc).trans_le hdepth) (hroot c hc)
  refine ((hadds _).mono_blame fun _ s hstop => hstop.trans_eq (due_start physical)).bind
    fun root s hs => ?_
  have hrunning : s.running ≤ operatorsOf physical.nodes :=
    running_le_due.trans (hs.trans (due_start physical)).le
  exact after_get_bind.mpr
    (answers_lift_bind (fun _ _ => hrunning) fun _ _ => answers_pure hrunning)

end Scaffold

open Scaffold

namespace ValidPlan

section Outcomes

variable {s : Scaffold σ ω}

/-- However the building of the plan ends, its nodes run operators that differ. -/
lemma nodup_of_buildPlan (hphysical : v.physical workers = .ok physical)
    {result : Result (Nat × List Junction)}
    (houtcome : (buildPlan registry context physical).outcome
      ⟨[], physical.connectors.map fun _ => none⟩ = some (result, s)) :
    (s.nodes.map (·.operator.id)).Nodup := by
  have hrealizes := realizes_of_physical hphysical
  have hroot (c : ConnectorId) (hc : c ∈ physical.root.asks) : c < physical.connectors.length := by
    obtain ⟨spec, hspec, -⟩ := hrealizes.feeds_of_asks (List.subset_append_left ..) hc
    exact (List.getElem?_eq_some_iff.mp hspec).1
  have hanswers := answers_buildPlan_running registry context (stratified_of_physical hphysical)
    hroot
  have hrunning : s.running ≤ operatorsOf physical.nodes := by
    cases result with
    | error e => exact hanswers.of_outcome_error houtcome
    | ok built => exact hanswers.of_outcome_ok houtcome
  have hids : ((operatorsOf physical.nodes).map Operator.id).Nodup :=
    (hrealizes.nodes_perm.map Operator.id).nodup_iff.mpr v.plan.nodup_ids
  have hnodup := Multiset.nodup_of_le (Multiset.map_le_map hrunning) hids
  rwa [running, Multiset.map_coe, List.map_map, Multiset.coe_nodup] at hnodup

/-- Once the plan is built, each connector stands above a node that runs its producer. -/
lemma exists_producer_of_buildPlan (hphysical : v.physical workers = .ok physical)
    {built : Nat × List Junction} {c : ConnectorId} {spec : ConnectorSpec}
    (houtcome : (buildPlan registry context physical).outcome
      ⟨[], physical.connectors.map fun _ => none⟩ = some (.ok built, s))
    (hspec : physical.connector? c = some spec) :
    ∃ junction node, s.junctions[c]? = some (some junction) ∧
      s.nodes[junction.producer]? = some node ∧ node.operator = spec.producer.operator := by
  have hrealizes := realizes_of_physical hphysical
  obtain ⟨hplanned, -⟩ := (answers_buildPlan registry context hrealizes).of_outcome_ok houtcome
  obtain ⟨junction, hjunction⟩ := hplanned.exists_junction hrealizes hspec
  obtain ⟨⟨hresembles, -⟩, -⟩ := gives_iff.mp (gives_buildPlan (resembles_buildNode
    (fun _ _ h => resembles_connect hrealizes.linked _ h) hrealizes.linked
    (fun _ hm => List.mem_append_left _ hm) resembles_start)) _ _ houtcome
  obtain ⟨node, spec', hnode, hspec', hoperator, -⟩ := hresembles.junctions c junction hjunction
  rw [PhysicalPlan.connector?, hspec', Option.some.injEq] at hspec
  exact ⟨junction, node, hjunction, hnode, hspec ▸ hoperator⟩

end Outcomes

/-- The connectors of a physical plan are ordered: whatever is read anywhere under the producer of
one is an endpoint of a connector before it. So building goes down strictly from a connector to
those before it, with no need of the limit on the depth, and it comes to an end. However it ends, no
operator was built twice; if it succeeds, every connector stands above the node of its producer,
which was built exactly once. -/
theorem connectors_descend (registry : Registry σ ω) (context : Context)
    (hphysical : v.physical workers = .ok physical) :
    physical.Stratified ∧
    (∀ depth c, c < depth → connect registry context physical depth c =
      connectBelow registry context physical c) ∧
    ∃ result s, (buildPlan registry context physical).outcome
        ⟨[], physical.connectors.map fun _ => none⟩ = some (result, s) ∧
      (s.nodes.map (·.operator.id)).Nodup ∧
      ∀ built, result = .ok built → ∀ c spec, physical.connector? c = some spec →
        (s.nodes.map (·.operator.id)).count spec.producer.id = 1 ∧
        ∃ junction node, s.junctions[c]? = some (some junction) ∧
          s.nodes[junction.producer]? = some node ∧ node.operator = spec.producer.operator := by
  have hends : (buildPlan registry context physical).Ends :=
    ((realizes_of_physical hphysical).grounded (Plan.holds_of_valid v .acyclic)).ends_buildPlan
  obtain ⟨⟨result, s⟩, houtcome⟩ := Option.isSome_iff_exists.mp (hends _)
  have hstratified := stratified_of_physical hphysical
  have hnodup := nodup_of_buildPlan hphysical houtcome
  refine ⟨hstratified, fun _ _ => connect_eq_connectBelow hstratified, result, s, houtcome, hnodup,
    ?_⟩
  rintro built rfl c spec hspec
  obtain ⟨junction, node, hjunction, hnode, hoperator⟩ :=
    exists_producer_of_buildPlan hphysical houtcome hspec
  refine ⟨List.count_eq_one_of_mem hnodup ?_, junction, node, hjunction, hnode, hoperator⟩
  exact List.mem_map.mpr ⟨node, List.mem_of_getElem? hnode, congrArg Operator.id hoperator⟩

end ValidPlan

/-- The pairs of pages feed a connector after the pages, of which they read both endpoints. They are
built once. -/
theorem pairedPages_descend : ∃ built s, pairedPagesPlan.physical 1 = .ok pairedPagesNodes ∧
    (buildPlan (.standard Pattern.engine) noDocs pairedPagesNodes).outcome
      ⟨[], pairedPagesNodes.connectors.map fun _ => none⟩ = some (.ok built, s) ∧
    pairedPagesNodes.Stratified ∧
    pairedPagesNodes.connectors.map (fun spec => (spec.producer.id, spec.producer.endpoints)) =
      [("scan", []), ("pairs", [(0, 0), (0, 1)])] ∧
    (s.nodes.map (·.operator.id)).count "pairs" = 1 := by
  have hphysical : pairedPagesPlan.physical 1 = .ok pairedPagesNodes := rfl
  have hbuilt : (((buildPlan (.standard Pattern.engine) noDocs pairedPagesNodes).outcome
      ⟨[], pairedPagesNodes.connectors.map fun _ => none⟩).bind (·.1.toOption)).isSome = true := by
    decide +kernel
  have hreads : pairedPagesNodes.connectors.map (fun spec =>
      (spec.producer.id, spec.producer.endpoints)) =
        [("scan", []), ("pairs", [(0, 0), (0, 1)])] := by
    decide +kernel
  -- The plan is not to be unfolded any more.
  generalize pairedPagesNodes = nodes at hphysical hbuilt hreads ⊢
  obtain ⟨hstratified, -, result, s, houtcome, -, hsuccess⟩ :=
    ValidPlan.connectors_descend (.standard Pattern.engine) noDocs hphysical
  rw [houtcome] at hbuilt
  match result with
  | .error e => cases hbuilt
  | .ok built =>
    refine ⟨built, s, hphysical, houtcome, hstratified, hreads, ?_⟩
    have hpairs : (nodes.connectors.map fun spec =>
        (spec.producer.id, spec.producer.endpoints))[1]? = some ("pairs", [(0, 0), (0, 1)]) := by
      rw [hreads]
      rfl
    obtain ⟨spec, hspec, heq⟩ := Option.map_eq_some_iff.mp (List.getElem?_map ▸ hpairs)
    obtain ⟨hcount, -⟩ := hsuccess built rfl 1 spec hspec
    rw [(Prod.mk.inj heq).1] at hcount
    exact hcount

end Dataflow
