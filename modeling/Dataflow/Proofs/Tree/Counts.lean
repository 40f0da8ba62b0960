import Dataflow.Pattern.Search
import Dataflow.Proofs.Meaning.Runs
import Dataflow.Proofs.Tree.Census
import Dataflow.Proofs.Tree.Rest

/-!
# What went in came out before

After a run without a failure the counts of a plan agree: what went into an operator is what came
out of its producers, whether it passed through a connector or not. A source was asked once for each
tuple that came out of it and once more, however many consumers it has, and the tuples of the run
are those that came out of the sink.
-/

namespace Dataflow

variable {σ ω : Type} [Source σ] [Worker ω]

namespace Tree

open Act

variable {t t' : Tree σ ω} {depth : Nat} {given : List Tuple}

/-- A whole run that succeeds opens the tree, pulls it to the end and closes it. -/
lemma outcome_complete_ok (h : (complete depth).outcome t = some (.ok given, t')) :
    ∃ t₁ t₂, (start depth).outcome t = some (.ok (), t₁) ∧
      (drain depth depth []).outcome t₁ = some (.ok given, t₂) ∧
        (stop depth).outcome t₂ = some (.ok (), t') := by
  suffices hgives : (complete depth : Drive σ ω (List Tuple)).Gives t fun given t' => ∃ t₁ t₂,
      (start depth).outcome t = some (.ok (), t₁) ∧
        (drain depth depth []).outcome t₁ = some (.ok given, t₂) ∧
          (stop depth).outcome t₂ = some (.ok (), t') from gives_iff.mp hgives given t' h
  refine after_attempt_bind.mpr (after_iff.mpr ⟨fun _ => trivial, fun pulled t₂ hpulled => ?_⟩)
  refine after_attempt_bind.mpr (after_iff.mpr ⟨fun _ => trivial, fun stopped t₃ hstopped => ?_⟩)
  match pulled, stopped with
  | .error e, _ => exact after_modify_bind.mpr (after_throw.mpr nofun)
  | .ok _, .error e => exact after_modify_bind.mpr (after_throw.mpr nofun)
  | .ok given, .ok () =>
    refine after_pure.mpr ?_
    rintro _ ⟨⟩
    rw [outcome_bind] at hpulled
    match hstarted : (start depth).outcome t with
    | none => rw [hstarted] at hpulled; cases hpulled
    | some (.error e, _) => rw [hstarted] at hpulled; cases hpulled
    | some (.ok (), t₁) =>
      rw [hstarted] at hpulled
      exact ⟨t₁, t₂, rfl, hpulled, hstopped⟩

/-- The counts of a tree after a run that succeeded. -/
structure Accounts (t : Tree σ ω) (given : List Tuple) (b : Books σ) : Prop where
  node : ∀ k, b.taken k = ((t.form.suppliesOf k).map fun x => b.given (t.form.placeOf x)).sum ∧
    b.works k = b.taken k + t.form.staff k * (t.form.suppliesOf k).length
  source : ∀ (k : Nat) node s started, t.nodes[k]? = some node → node.crew = .source s started →
    ∃ tuples, Source.Spends (Source.start s).2 tuples ∧ b.given k = tuples.length ∧
      b.nexts k = tuples.length + 1
  sink : b.given t.root = given.length

/-- When a new tree was opened without a failure, its books are blank and its sources are open. -/
lemma Fresh.after_start_ok {t₁ : Tree σ ω} (h : t.Fresh)
    (hstart : (start depth).outcome t = some (.ok (), t₁)) :
    t₁.Tied t.form (t.nodes.map Node.operator) ∧
      Books.Blank t.form (t₁.books (t.nodes.map Node.operator)) ∧
        ∀ (k : Nat) node s started, t.nodes[k]? = some node → node.crew = .source s started →
          (t₁.books (t.nodes.map Node.operator)).source k = some (Source.start s).2 := by
  rw [start, outcome_bind, outcome_get, andThen] at hstart
  have ht := tied_form h.inTurn
  have ht₁ := (startKeeps_tied.startNode depth t.root t ht).of_outcome hstart
  obtain ⟨hstored, hworked⟩ :=
    ((startKeeps_still t.stored t.worked).startNode depth t.root t ⟨rfl, rfl⟩).of_outcome hstart
  refine ⟨ht₁, ht₁.blank (h.blank ht) hstored hworked, fun k node s started hnode hcrew => ?_⟩
  have hk : k < t.form.supplies.length :=
    ht.length_eq ▸ (List.getElem?_eq_some_iff.mp hnode).1
  obtain ⟨node₁, hnode₁⟩ := ht₁.exists_node hk
  have hphase : node₁.phase = .opened := by
    obtain ⟨-, hopens⟩ := (after_startNode h.sound h.sound.root_lt).of_outcome hstart
    have hopened := h.opened hopens (x := .node k) (hopens.wiring_eq ▸ hk)
    exact Option.some.inj ((phase?_node hnode₁).symm.trans hopened)
  obtain ⟨node₀, hnode₀, hrouses⟩ :=
    (startKeeps_roused.startNode depth t.root t h.roused).of_outcome hstart k node₁ hnode₁
  obtain rfl : node = node₀ := Option.some.inj (hnode.symm.trans hnode₀)
  rw [Rouses, hphase, hcrew] at hrouses
  simpa [books, hnode₁, Crew.source?] using hrouses

/-- After a run that succeeded the counts of a new tree agree. -/
theorem Fresh.accounts (h : t.Fresh)
    (hnodup : ((t.nodes.map Node.operator).map Operator.id).Nodup)
    (hrun : (complete depth).outcome t = some (.ok given, t')) :
    Accounts t given (t'.books (t.nodes.map Node.operator)) := by
  obtain ⟨t₁, t₂, hstart, hdrain, hstop⟩ := outcome_complete_ok hrun
  obtain ⟨ht₁, hblank, hsources⟩ := h.after_start_ok hstart
  have hsound : t.form.Sound := h.sound
  obtain ⟨n, hdrained, hlength⟩ :=
    gives_iff.mp (gives_drain hnodup hsound depth ht₁) given t₂ hdrain
  have hkept := hblank.kept.drain hsound hdrained
  obtain ⟨htaken, hgiven, hnexts, hworks⟩ :=
    books_of_worked (t.nodes.map Node.operator)
      (((stopKeeps_worked t₂.worked).stop depth t₂ rfl).of_outcome hstop)
  refine ⟨fun k => ?_, fun k node s started hnode hcrew => ?_, ?_⟩
  · rw [htaken, hgiven, hworks]
    exact hkept.node_eq hsound k
  · rw [hgiven, hnexts]
    have hk : k < t.form.supplies.length :=
      (tied_form h.inTurn).length_eq ▸ (List.getElem?_eq_some_iff.mp hnode).1
    exact hkept.source_eq hsound hk (hsources k node s started hnode hcrew)
  · rw [hgiven, hlength]
    exact hkept.out_eq hsound

end Tree

/-- The rows that came out of the operator of a name. -/
def Plan.rowsOut (p : Plan) (m : Metrics) (id : OperatorId) : Nat :=
  ((p.operator? id).map fun operator => m.rowsOut operator.id operator.kind.tag).getD 0

lemma Plan.rowsOut_eq {p : Plan} {operator : Operator} (h : operator ∈ p.operators) (m : Metrics) :
    p.rowsOut m operator.id = m.rowsOut operator.id operator.kind.tag := by
  rw [rowsOut, operator?_eq_some_iff.mpr ⟨h, rfl⟩, Option.map_some, Option.getD_some]

namespace Tree

/-- The number of times that the source of a node was asked for a tuple. -/
def nexts (t : Tree σ ω) (k : Nat) : Nat :=
  t.calls.countP fun call => call.node = k ∧ call.event = .next

variable {t t' : Tree σ ω} {v : ValidPlan} {workers k : Nat} {registry : Registry σ ω}
  {context : Context} {physical : PhysicalPlan} {node : Node σ ω} {given : List Tuple}

omit [Source σ] [Worker ω] in
lemma books_eq (hk : t.nodes[k]? = some node) (t' : Tree σ ω) :
    (t'.books (t.nodes.map Node.operator)).taken k =
        t'.metrics.rowsIn node.operator.id node.operator.kind.tag ∧
      (t'.books (t.nodes.map Node.operator)).given k =
        t'.metrics.rowsOut node.operator.id node.operator.kind.tag := by
  simp [books, hk]

omit [Worker ω] in
/-- What went into a node is what came out of the producers of its operator. -/
lemma Accounts.rowsIn_eq (h : Accounts t given (t'.books (t.nodes.map Node.operator)))
    (hresembles : t.Resembles registry context physical)
    (hrealizes : physical.Realizes v.plan v.sink workers) (hk : t.nodes[k]? = some node) :
    t'.metrics.rowsIn node.operator.id node.operator.kind.tag =
      ((v.plan.producersOf node.operator.id).map (v.plan.rowsOut t'.metrics)).sum := by
  obtain ⟨slots, inputs, hworks⟩ := hresembles.exists_works hrealizes hk
  have hsupplies : t.form.suppliesOf k = slots.map Slot.supply :=
    (suppliesOf_node hk).trans hworks.supplies_eq
  rw [← (books_eq hk t').1, (h.node k).1, hsupplies, ← hworks.producers_eq, List.map_map,
    List.map_map]
  refine congrArg List.sum (List.map_congr_left fun slot hslot => ?_)
  obtain ⟨_, -, below, hgiver, hid, -⟩ := exists_of_forall₂_left hworks.givers hslot
  have hbelow := nodes_placeOf hgiver
  obtain ⟨_, _, hproducer⟩ := hresembles.exists_works hrealizes hbelow
  rw [Function.comp_apply, Function.comp_apply, ← hid, Plan.rowsOut_eq hproducer.mem]
  exact (books_eq hbelow t').2

end Tree

/-- For every valid plan, with any executors and any numbers of workers, and every run of its tree
that succeeds, each operator is run by one node, and the counts agree. What went into an operator is
what came out of the producers that it declares. An operator without producers has a source: as many
tuples came out of it as the source gives one after another, and it was asked for one more, whatever
the number of its consumers. What came out of the sink are the tuples that the run gave. -/
theorem ValidPlan.rows_accounted {v : ValidPlan} {workers depth : Nat} {registry : Registry σ ω}
    {context : Context} {clock : Nat → Nat} {physical : PhysicalPlan} {t t' : Tree σ ω}
    {given : List Tuple} (hphysical : v.physical workers = .ok physical)
    (htree : physical.tree? registry context clock = some (.ok t))
    (hrun : (Tree.complete depth).outcome t = some (.ok given, t')) :
    (t.nodes.map Node.operator).Perm v.plan.operators ∧
    (∀ operator ∈ v.plan.operators,
      t'.metrics.rowsIn operator.id operator.kind.tag =
        ((v.plan.producersOf operator.id).map (v.plan.rowsOut t'.metrics)).sum) ∧
    (∀ (k : Nat) node, t.nodes[k]? = some node → v.plan.producersOf node.operator.id = [] →
      ∃ s tuples, node.crew = .source s false ∧ Source.Spends (Source.start s).2 tuples ∧
        t'.metrics.rowsOut node.operator.id node.operator.kind.tag = tuples.length ∧
        t'.nexts k = tuples.length + 1) ∧
    v.plan.rowsOut t'.metrics v.sink = given.length := by
  have hrealizes := ValidPlan.realizes_of_physical hphysical
  have hresembles := PhysicalPlan.resembles_of_tree? hrealizes.linked htree
  have hperm := (PhysicalPlan.operators_perm_of_tree? htree).trans hrealizes.nodes_perm
  have hnodup := (hperm.map Operator.id).nodup_iff.mpr v.plan.nodup_ids
  have haccounts := (PhysicalPlan.fresh_of_tree? htree).accounts hnodup hrun
  refine ⟨hperm, fun operator hmem => ?_, fun k node hk hnone => ?_, ?_⟩
  · obtain ⟨node, hnode, rfl⟩ := List.mem_map.mp (hperm.mem_iff.mpr hmem)
    obtain ⟨k, hk⟩ := List.getElem?_of_mem hnode
    exact haccounts.rowsIn_eq hresembles hrealizes hk
  · obtain ⟨slots, inputs, hworks⟩ := hresembles.exists_works hrealizes hk
    obtain rfl : slots = [] := by
      rw [← hworks.producers_eq] at hnone
      exact List.map_eq_nil_iff.mp hnone
    obtain ⟨_, -, hcreate⟩ := hworks.crew
    obtain ⟨s, hcrew⟩ := Scaffold.createCrew_nil hcreate
    obtain ⟨tuples, hspends, hgiven, hnexts⟩ := haccounts.source k node s false hk hcrew
    refine ⟨s, tuples, hcrew, hspends, (Tree.books_eq hk t').2.symm.trans hgiven, ?_⟩
    rw [Tree.nexts, Tree.calls, List.countP_reverse]
    exact hnexts
  · obtain ⟨node, hroot, hid⟩ := hresembles.exists_sink hrealizes
    obtain ⟨_, _, hworks⟩ := hresembles.exists_works hrealizes hroot
    rw [← hid, Plan.rowsOut_eq hworks.mem, ← (Tree.books_eq hroot t').2]
    exact haccounts.sink

/-- In the plan with a join the numbers that are cast go to two matchers: both rows of the table
come out of the casting once, and they go into each of the matchers. -/
theorem nearWords_rows_accounted : ∃ t t' given,
    nearWordsPlan.physical 2 = .ok nearWordsNodes ∧
    nearWordsNodes.tree? (.standard Pattern.engine) twoTexts (fun _ => 0) = some (.ok t) ∧
    (Tree.complete 30).outcome t = some (.ok given, t') ∧
    nearWordsPlan.plan.rowsOut t'.metrics "cast" = 2 ∧
    (∀ operator ∈ nearWordsPlan.plan.operators,
      t'.metrics.rowsIn operator.id operator.kind.tag =
        ((nearWordsPlan.plan.producersOf operator.id).map
          (nearWordsPlan.plan.rowsOut t'.metrics)).sum) ∧
    nearWordsPlan.plan.rowsOut t'.metrics "sink" = given.length := by
  have hphysical : nearWordsPlan.physical 2 = .ok nearWordsNodes := rfl
  have hrun : ((nearWordsNodes.tree? (.standard Pattern.engine) twoTexts fun _ => 0).bind
      fun built => built.toOption.bind fun t => ((Tree.complete 30).outcome t).bind fun run =>
        run.1.toOption.map fun _ => nearWordsPlan.plan.rowsOut run.2.metrics "cast") = some 2 := by
    decide +kernel
  simp only [Option.bind_eq_some_iff, Option.map_eq_some_iff, toOption_eq_some_iff] at hrun
  obtain ⟨_, htree, t, rfl, ⟨_, t'⟩, hcomplete, given, rfl, hcast⟩ := hrun
  obtain ⟨-, hrows, -, hsink⟩ := ValidPlan.rows_accounted hphysical htree hcomplete
  exact ⟨t, t', given, hphysical, htree, hcomplete, hcast, hrows, hsink⟩

end Dataflow
