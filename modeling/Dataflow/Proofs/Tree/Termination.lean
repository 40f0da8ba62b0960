import Dataflow.Pattern.Search
import Dataflow.Proofs.Books.Load
import Dataflow.Proofs.Tree.Counts

/-!
# Runs come to an end

A node asks for tuples again and again until its workers give one, and what it asks may do the same.
This comes to an end because whatever it takes in leaves less to be done in the tree. So pulling
ends if it may go deep enough, in every tree that operations lead to, and a whole run ends as well.
-/

namespace Dataflow

variable {engine : PatternEngine}

variable {σ ω : Type}

namespace Tree

open Act

/-! ### Working comes to an end -/

lemma ends_read (c : ConnectorId) (i : Nat) :
    ((seat c).deliver i : Drive σ ω (Option Tuple)).Ends :=
  ends_get.bind fun _ => (ends_lift _).bind fun _ => (ends_modify _).bind fun _ => ends_pure _

lemma ends_team? (place : Nat) : (team? place : Drive σ ω (Option (Team ω))).Ends :=
  ends_get.bind fun _ => by split <;> exact ends_pure _

section Workers

variable [Worker ω]

lemma ends_work (place i : Nat) (input : Input) :
    (deliver place i input : Drive σ ω Unit).Ends := by
  have hnow : (now : Drive σ ω Nat).Ends :=
    ends_get.bind fun _ => (ends_set _).bind fun _ => ends_pure _
  refine ends_get.bind fun _ => ?_
  split
  · split
    · exact hnow.bind fun _ => ((ends_modify _).bind fun _ => ends_lift _).bind fun _ =>
        ends_modify _
    · exact ends_pure _
  · exact ends_pure _

lemma ends_deal (place : Nat) (x : Tuple) (link : Link) :
    (deal place x link : Drive σ ω Unit).Ends := by
  refine (ends_team? place).bind fun found => ?_
  cases found with
  | none => exact ends_pure _
  | some team => exact (ends_modify _).bind fun _ => ends_work _ _ _

lemma ends_exhaust (place i : Nat) (link : Link) :
    (exhaust place i link : Drive σ ω Unit).Ends := by
  refine (ends_team? place).bind fun found => ?_
  cases found with
  | none => exact ends_pure _
  | some team => exact (ends_modify _).bind fun _ => ends_forM _ fun w => ends_work _ _ _

end Workers

/-! ### One step -/

section Step

variable {F : Form} {operators : List Operator} {t : Tree σ ω} {k i : Nat} {x : Supply}
  {next : Nat → Drive σ ω (Option Tuple)}

/-- An endpoint comes to an end if the producer of its connector does. -/
lemma isSome_pull {next : Drive σ ω (Option Tuple)} (h : (next.outcome t).isSome)
    (c : ConnectorId) (i : Nat) : (((seat c).pull next i).outcome t).isSome := by
  rw [Seat.pull, outcome_bind, outcome_get, andThen]
  refine isSome_lift_bind fun _ _ => ?_
  split_ifs
  · exact ends_read c i t
  · rfl
  · refine isSome_bind h fun given => ?_
    cases given with
    | none => exact (ends_modify _).bind fun _ => ends_pure _
    | some x => exact (ends_modify _).bind fun _ => ends_read c i

lemma isSome_onSupply (ht : t.Tied F operators) (hhas : F.Has x)
    (h : ((next (F.placeOf x)).outcome t).isSome) :
    ((onSupply next Seat.pull x).outcome t).isSome := by
  cases x with
  | node q => exact h
  | endpoint c i =>
    obtain ⟨junction, hc, hproducer, -⟩ := ht.exists_junction hhas
    rw [onSupply, outcome_bind, outcome_get, andThen, hc, Option.map_some, Option.getD_some,
      hproducer]
    exact isSome_pull h c i

variable [Source σ] [Worker ω]

/-- A team is fed if what it is fed with comes to an end. -/
lemma exists_feed (hsound : F.Sound)
    (hbelow : ∀ q < k, ∀ t : Tree σ ω, t.Tied F operators →
      ∃ depth, ((nextNode depth q).outcome t).isSome)
    (ht : t.Tied F operators) {slot : Slot} (hmem : slot.supply ∈ F.suppliesOf k) (i : Nat) :
    ∃ depth, ((feed (nextNode depth) k i slot).outcome t).isSome := by
  have hturned : (t.changeTeam k fun team =>
      { team with nextSlot := (i + 1) % team.slots.length }).Tied F operators :=
    nextKeeps_tied.turn ht
  obtain ⟨depth, hdepth⟩ := hbelow _ (hsound.placeOf_lt hmem) _ hturned
  refine ⟨depth, ?_⟩
  have hsupply := isSome_onSupply hturned (hsound.has_of_hangs (.slot hmem)) hdepth
  rw [feed, outcome_bind, outcome_modify, andThen]
  refine isSome_bind hsupply fun given => ?_
  cases given with
  | none => exact ends_exhaust k i slot.link
  | some x => exact ends_deal k x slot.link

/-- A node goes on only if it has a team with nothing pending and an input that has not ended. -/
lemma isSome_nextAt (h : ∀ (node : Node σ ω) team i slot, t.nodes[k]? = some node →
      node.crew = .team team → team.pending = [] → team.pick? = some (i, slot) →
      ((feed next k i slot >>= fun _ => next k).outcome t).isSome) :
    ((nextAt next k).outcome t).isSome := by
  rw [nextAt, outcome_bind, outcome_get, andThen]
  split
  · rfl
  · next node hnode =>
    refine isSome_lift_bind fun _ _ => ?_
    split
    · exact (((ends_modify _).bind fun _ => ends_lift _).bind fun _ =>
        (ends_modify _).bind fun _ => ends_pure _) t
    · next team hcrew =>
      split
      · rfl
      · next hpending =>
        split
        · rfl
        · next i slot hpick => exact h node team i slot hnode hcrew hpending hpick

end Step

/-! ### All steps -/

section Runs

variable [Source σ] [Worker ω] {left : σ → Nat} {F : Form} {operators : List Operator}
  {t t' : Tree σ ω} {k i : Nat} {node : Node σ ω} {team : Team ω} {slot : Slot}

/-- A team that was fed has less left to be done up to its inputs. -/
lemma drops_of_fed (hleft : Source.Shrinks left) (hnodup : (operators.map Operator.id).Nodup)
    (hsound : F.Sound) (ht : t.Tied F operators) (hnode : t.nodes[k]? = some node)
    (hcrew : node.crew = .team team) (hpick : team.pick? = some (i, slot)) {depth : Nat}
    (hfed : (feed (nextNode depth) k i slot).outcome t = some (.ok (), t')) :
    Drops (3 * k + 1) ((t.books operators).load left F) ((t'.books operators).load left F) := by
  obtain ⟨hmem, hopen⟩ := ht.picked hsound hnode hcrew hpick
  have hteam := (books_team operators hnode hcrew).1
  obtain ⟨b, gave, out, hpulled, hbooks⟩ := gives_iff.mp
    (gives_feed hnodup hsound (nextKeeps_tied.nextNode depth)
      (fun q hq => enters_nextNode hnodup hsound depth hq) ht hnode hcrew
      (Team.pick?_eq_some hpick).1) () t' hfed
  rw [hbooks]
  exact hpulled.drops_feed hsound hteam hmem hopen
    (hpulled.drops hsound hleft (hsound.has_of_hangs (.slot hmem))) out

lemma isSome_nextNode_of_fed (hnode : t.nodes[k]? = some node) (hcrew : node.crew = .team team)
    (hpick : team.pick? = some (i, slot)) {n m : Nat} {result : Result Unit}
    (hfed : (feed (nextNode n) k i slot).outcome t = some (result, t'))
    (hagain : ∀ x, result = .ok x → ((nextNode m k).outcome t').isSome) :
    ((nextNode (max n m + 1) k).outcome t).isSome := by
  refine isSome_nextAt fun node' team' i' slot' hnode' hcrew' _ hpick' => ?_
  obtain rfl : node = node' := Option.some.inj (hnode.symm.trans hnode')
  obtain rfl : team = team' := Crew.team.inj (hcrew.symm.trans hcrew')
  obtain ⟨rfl, rfl⟩ := Prod.mk.inj (Option.some.inj (hpick.symm.trans hpick'))
  rw [outcome_bind, (refines_feed (refines_nextNode (le_max_left n m)) i slot).outcome_eq hfed]
  cases result with
  | error e => rfl
  | ok x => exact (refines_nextNode (le_max_right n m) k).isSome (hagain x rfl)

/-- A node comes to an end if it may go deep enough: each time its team is fed, less is left to be
done up to its inputs. -/
theorem exists_nextNode (hleft : Source.Shrinks left) (hnodup : (operators.map Operator.id).Nodup)
    (hsound : F.Sound) (hk : k < F.supplies.length) (ht : t.Tied F operators) :
    ∃ depth, ((nextNode depth k).outcome t).isSome := by
  induction k using Nat.strong_induction_on generalizing t with
  | _ k below =>
    have hload := InvImage.wf (fun t : Tree σ ω => (t.books operators).load left F)
      (Drops.wellFounded (3 * k + 1))
    induction t using hload.induction with
    | _ t again =>
      by_cases hfeed : ∃ (node : Node σ ω) (team : Team ω) (i : Nat) (slot : Slot),
          t.nodes[k]? = some node ∧ node.crew = .team team ∧ team.pick? = some (i, slot)
      swap
      · exact ⟨1, isSome_nextAt fun node team i slot hnode hcrew _ hpick =>
          (hfeed ⟨node, team, i, slot, hnode, hcrew, hpick⟩).elim⟩
      obtain ⟨node, team, i, slot, hnode, hcrew, hpick⟩ := hfeed
      obtain ⟨depth, hdepth⟩ := exists_feed hsound
        (fun q hq t ht => below q hq (hq.trans hk) ht) ht
        (ht.picked hsound hnode hcrew hpick).1 i
      obtain ⟨⟨result, t₁⟩, hfed⟩ := Option.isSome_iff_exists.mp hdepth
      cases result with
      | error e => exact ⟨_, isSome_nextNode_of_fed (m := 0) hnode hcrew hpick hfed nofun⟩
      | ok _ =>
        obtain ⟨depth', hdepth'⟩ := again t₁
          (drops_of_fed hleft hnodup hsound ht hnode hcrew hpick hfed)
          ((nextKeeps_tied.feed (nextKeeps_tied.nextNode depth) trivial i slot t ht).of_outcome
            hfed)
        exact ⟨_, isSome_nextNode_of_fed hnode hcrew hpick hfed fun _ _ => hdepth'⟩

lemma exists_next (hleft : Source.Shrinks left) (hnodup : (operators.map Operator.id).Nodup)
    (hsound : F.Sound) (ht : t.Tied F operators) :
    ∃ depth, ((Tree.next depth).outcome t).isSome := by
  obtain ⟨depth, hdepth⟩ := exists_nextNode hleft hnodup hsound hsound.root_lt ht
  exact ⟨depth, by rwa [Tree.next, outcome_bind, outcome_get, andThen, ht.root_eq]⟩

lemma isSome_drain_of_next {n m : Nat} {given : List Tuple} {result : Result (Option Tuple)}
    (hnext : (Tree.next n).outcome t = some (result, t'))
    (hagain : ∀ x, result = .ok (some x) → ((drain m m (x :: given)).outcome t').isSome) :
    ((drain (max n m + 1) (max n m + 1) given).outcome t).isSome := by
  have hn : n ≤ max n m + 1 := (le_max_left n m).trans (Nat.le_succ _)
  have hm : m ≤ max n m + 1 := (le_max_right n m).trans (Nat.le_succ _)
  rw [drain, outcome_bind, (refines_next hn).outcome_eq hnext]
  match result with
  | .error e => rfl
  | .ok none => rfl
  | .ok (some x) =>
    exact (refines_drain hm (le_max_right n m) (x :: given)).isSome (hagain x rfl)

/-- The sink is pulled to the end: each tuple that it gives leaves less to be done. -/
lemma exists_drained (hleft : Source.Shrinks left) (hnodup : (operators.map Operator.id).Nodup)
    (hsound : F.Sound) (ht : t.Tied F operators) (given : List Tuple) :
    ∃ depth, ((drain depth depth given).outcome t).isSome := by
  have hload := InvImage.wf (fun t : Tree σ ω => (t.books operators).load left F)
    (Drops.wellFounded (3 * F.root + 2))
  induction t using hload.induction generalizing given with
  | _ t again =>
    obtain ⟨depth, hdepth⟩ := exists_next hleft hnodup hsound ht
    obtain ⟨⟨result, t₁⟩, hnext⟩ := Option.isSome_iff_exists.mp hdepth
    match result with
    | .error e => exact ⟨_, isSome_drain_of_next (m := 0) hnext nofun⟩
    | .ok none => exact ⟨_, isSome_drain_of_next (m := 0) hnext nofun⟩
    | .ok (some x) =>
      have hpulled := gives_iff.mp (enters_next hnodup hsound depth t ht) (some x) t₁ hnext
      obtain hdrop | ⟨⟨⟩, -⟩ := hpulled.drops hsound hleft hsound.root_lt
      have ht₁ := (nextKeeps_tied.next depth t ht).of_outcome hnext
      obtain ⟨depth', hdepth'⟩ := again t₁ hdrop ht₁ (x :: given)
      refine ⟨_, isSome_drain_of_next (m := depth') hnext fun y hy => ?_⟩
      obtain rfl : x = y := Option.some.inj (Except.ok.inj hy)
      exact hdepth'

/-- A whole run comes to an end. -/
theorem exists_completed (hleft : Source.Shrinks left)
    (hnodup : (operators.map Operator.id).Nodup) (horderly : t.ledger.Orderly)
    (hsound : F.Sound) (ht : t.Tied F operators) :
    ∃ depth, ((complete depth : Drive σ ω (List Tuple)).outcome t).isSome := by
  have hstart : ((start t.nodes.length : Drive σ ω Unit).outcome t).isSome :=
    (advances_start horderly).isSome (lt_irrefl _)
  obtain ⟨⟨result, t₁⟩, hstarted⟩ := Option.isSome_iff_exists.mp hstart
  cases result with
  | error e =>
    refine ⟨t.nodes.length, isSome_complete_of_drained horderly le_rfl ?_⟩
    rw [openAndDrain, outcome_bind, hstarted]
    rfl
  | ok _ =>
    have ht₁ := (startKeeps_tied.start t.nodes.length t ht).of_outcome hstarted
    obtain ⟨depth, hdepth⟩ := exists_drained hleft hnodup hsound ht₁ []
    refine ⟨max t.nodes.length depth, isSome_complete_of_drained horderly (le_max_left ..) ?_⟩
    rw [openAndDrain, outcome_bind, (refines_start (le_max_left ..)).outcome_eq hstarted]
    exact (refines_drain (le_max_right ..) (le_max_right ..) []).isSome hdepth

/-! ### After the end -/

/-- An open node whose team has nothing left to give. -/
def Finished (t : Tree σ ω) (k : Nat) : Prop :=
  ∃ (node : Node σ ω) (team : Team ω), t.nodes[k]? = some node ∧ node.phase = .opened ∧
    node.crew = .team team ∧ team.pending = [] ∧ team.pick? = none

lemma gives_opened (depth : Nat) (hnode : t.nodes[k]? = some node) :
    (nextNode depth k : Drive σ ω (Option Tuple)).Gives t fun _ _ => node.phase = .opened := by
  cases depth with
  | zero => exact gives_endless
  | succ depth =>
    rw [nextNode, nextAt, gives_bind, gives_get]
    simp only [hnode]
    refine gives_bind.mpr (gives_lift.mpr fun _ hrequire => ?_)
    exact gives_iff.mpr fun _ _ _ => Phase.require_eq_ok_iff.mp hrequire

/-- A team that gave none has finished. -/
lemma finished_of_none (hnodup : (operators.map Operator.id).Nodup) (hsound : F.Sound)
    (ht : t.Tied F operators) (hnode : t.nodes[k]? = some node) (hcrew : node.crew = .team team)
    {depth : Nat} (hnone : (nextNode depth k).outcome t = some (.ok none, t')) :
    t'.Finished k := by
  have hk : k < F.supplies.length := ht.length_eq ▸ (List.getElem?_eq_some_iff.mp hnode).1
  have hteam := (books_team operators hnode hcrew).1
  have ht' := (nextKeeps_tied.nextNode depth k t ht).of_outcome hnone
  have hpulled := gives_iff.mp (enters_nextNode hnodup hsound depth hk t ht) none t' hnone
  obtain ⟨hwaiting, hended⟩ := hpulled.nothing_left hteam
  obtain ⟨node', team', hnode', hcrew', -⟩ :=
    ht'.exists_team hk ((hpulled.source_eq_none_iff k).mpr hteam)
  refine ⟨node', team', hnode', ?_, hcrew', ?_, ?_⟩
  · have hentry := congrArg (·.nodes[k]?) ((quiet_nextNode depth k t).of_outcome hnone)
    simp only [ledger_getElem? hnode, ledger_getElem? hnode', Option.some.injEq] at hentry
    exact (congrArg NodeEntry.phase hentry).trans
      (gives_iff.mp (gives_opened depth hnode) none t' hnone)
  · rw [(books_team operators hnode' hcrew').2.1] at hwaiting
    exact List.length_eq_zero_iff.mp hwaiting
  · cases hpick : team'.pick? with
    | none => rfl
    | some picked =>
      obtain ⟨hmem, hopen⟩ := ht'.picked hsound hnode' hcrew' hpick
      rw [hended _ hmem] at hopen
      cases hopen

lemma Finished.next (h : t.Finished t.root) (n : Nat) :
    (Tree.next (n + 1)).outcome t = some (.ok none, t) := by
  obtain ⟨node, team, hnode, hphase, hcrew, hpending, hpick⟩ := h
  have hrequire : node.phase.require node.operator.id .toPull = .ok () :=
    Phase.require_eq_ok_iff.mpr hphase
  rw [Tree.next, outcome_bind, outcome_get, andThen, nextNode, nextAt, outcome_bind, outcome_get,
    andThen]
  simp only [hnode, outcome_bind, outcome_lift, hrequire, andThen, hcrew, hpending, hpick,
    outcome_pure]

/-- Whatever else is done to it before it is closed leaves it as it is. -/
lemma Finished.runs (h : t.Finished t.root) {ops : List Operation} (hrun : t.Runs ops t')
    (hstop : .stop ∉ ops) : t' = t := by
  induction hrun with
  | nil => rfl
  | @cons t t₁ t₂ n op ops result hop hrest ih =>
    obtain ⟨hop', hops⟩ := not_or.mp (mt List.mem_cons.mpr hstop)
    have hsame : t₁ = t := by
      cases op with
      | stop => exact (hop' rfl).elim
      | start =>
        obtain ⟨node, team, hnode, hphase, -⟩ := h
        have hopened : t.ledger.phase? (.node t.root) = some .opened :=
          hphase ▸ phase?_node hnode
        rw [operate, start, outcome_bind, outcome_get, andThen] at hop
        exact (startNode_refused n hopened Phase.noConfusion).of_outcome hop
      | next =>
        rw [operate, outcome_map] at hop
        cases n with
        | zero => cases hop
        | succ n =>
          rw [h.next n] at hop
          cases hop
          rfl
    subst hsame
    exact ih h hops

end Runs

end Tree

/-! ### Plans -/

namespace TableScan

/-- Looking for a match uses up the row that it gives. -/
lemma length_firstMatch {m : Matcher} {rows : List Tuple} {given : Option Tuple}
    (h : (firstMatch m rows).1 = .ok given) :
    (firstMatch m rows).2.length + given.isSome.toNat ≤ rows.length := by
  induction rows with
  | nil =>
    cases h
    exact le_rfl
  | cons row rest ih =>
    rw [firstMatch] at h ⊢
    cases happly : m.apply row with
    | error e => simp [happly] at h
    | ok kept =>
      cases kept with
      | none =>
        simp only [happly] at h ⊢
        exact (ih h).trans (Nat.le_succ _)
      | some x =>
        simp only [happly] at h ⊢
        exact Nat.add_le_add_left (Bool.toNat_le _) _

/-- A scan has a row less left after each tuple that it gives. -/
lemma shrinks : Source.Shrinks fun s : TableScan => s.rest.length := by
  intro s s' given hnext
  have hresult : (next s).1 = .ok given := congrArg Prod.fst hnext
  have hstate : (next s).2 = s' := congrArg Prod.snd hnext
  rw [← hstate]
  rw [next] at hresult ⊢
  cases hmatcher : s.matcher with
  | none =>
    simp only [hmatcher] at hresult ⊢
    cases hresult
    cases s.rest <;> simp
  | some m =>
    simp only [hmatcher] at hresult ⊢
    exact length_firstMatch hresult

end TableScan

namespace Tree

/-- The number of times that workers of a node were asked to take something in. -/
def works (t : Tree σ ω) (k : Nat) : Nat :=
  t.calls.countP fun call => call.node = k ∧ call.event.isProcess

variable {registry : Registry σ ω} {context : Context} {v : ValidPlan} {workers k : Nat}
  {physical : PhysicalPlan} {t t' : Tree σ ω} {node : Node σ ω} {given : List Tuple}

lemma Resembles.length_suppliesOf (h : t.Resembles registry context physical)
    (hrealizes : physical.Realizes v.plan v.sink workers) (hk : t.nodes[k]? = some node) :
    (t.form.suppliesOf k).length = (v.plan.producersOf node.operator.id).length := by
  obtain ⟨slots, inputs, hworks⟩ := h.exists_works hrealizes hk
  have hsupplies : t.form.suppliesOf k = slots.map Slot.supply :=
    (suppliesOf_node hk).trans hworks.supplies_eq
  rw [hsupplies, ← hworks.producers_eq, List.length_map, List.length_map]

/-- The workers of a node were called for each tuple that came out of its producers, and each of
them for the end of each input. -/
lemma Accounts.works_eq [Source σ] (h : Accounts t given (t'.books (t.nodes.map Node.operator)))
    (hresembles : t.Resembles registry context physical)
    (hrealizes : physical.Realizes v.plan v.sink workers) (hk : t.nodes[k]? = some node)
    {team : Team ω} (hcrew : node.crew = .team team) :
    t'.works k = ((v.plan.producersOf node.operator.id).map (v.plan.rowsOut t'.metrics)).sum +
      team.workers.length * (v.plan.producersOf node.operator.id).length := by
  have hworks : t'.works k = (t'.books (t.nodes.map Node.operator)).works k := by
    rw [works, calls, List.countP_reverse]
    rfl
  have hstaff : t.form.staff k = team.workers.length := by simp [form, hk, hcrew, Crew.headcount]
  rw [hworks, (h.node k).2, (books_eq hk t').1, h.rowsIn_eq hresembles hrealizes hk, hstaff,
    hresembles.length_suppliesOf hrealizes hk]

/-- The sink has a team, whatever is done to the tree. -/
lemma Tied.exists_sink_team {operators : List Operator} (ht : t'.Tied t.form operators)
    (hresembles : t.Resembles registry context physical)
    (hrealizes : physical.Realizes v.plan v.sink workers) :
    ∃ node team, t'.nodes[t'.root]? = some node ∧ node.crew = .team team := by
  obtain ⟨sink, hsink, hid⟩ := hresembles.exists_sink hrealizes
  have hlength := hresembles.length_suppliesOf hrealizes hsink
  have hpos := List.length_pos_iff.mpr v.producersOf_sink_ne_nil
  rw [hid] at hlength
  rw [← hlength] at hpos
  obtain ⟨x, hx⟩ := List.exists_mem_of_length_pos hpos
  obtain ⟨node, hnode⟩ := ht.exists_node (Wiring.lt_of_mem_suppliesOf hx)
  rw [ht.suppliesOf_eq hnode] at hx
  cases hcrew : node.crew with
  | source =>
    rw [hcrew] at hx
    cases hx
  | team team => exact ⟨node, team, ht.root_eq.symm ▸ hnode, hcrew⟩

end Tree

/-- For every valid plan, any tables, any number of workers and any engine for patterns, with the
standard executors: in every tree that operations lead to, pulling comes to an end and so does a
whole run, in the same way at all depths from some on. After a run that succeeded the workers of a
node were called once for each tuple that came out of its producers, and each of them once for the
end of each input. When the tree has given none, everything that is done before it is closed leaves
it as it is, and pulling it gives none again. -/
theorem ValidPlan.runs_end {v : ValidPlan} {workers : Nat} {context : Context}
    {clock : Nat → Nat} {physical : PhysicalPlan} {t : Tree TableScan StandardWorker}
    (hphysical : v.physical workers = .ok physical)
    (htree : physical.tree? (.standard engine) context clock = some (.ok t)) :
    (∀ ops t₁, t.Runs ops t₁ →
      (∃ result t₂ n, ∀ depth, n ≤ depth →
        (Tree.next depth).outcome t₁ = some (result, t₂)) ∧
      ∃ result t₂ n, ∀ depth, n ≤ depth →
        (Tree.complete depth).outcome t₁ = some (result, t₂)) ∧
    (∀ depth given t', (Tree.complete depth).outcome t = some (.ok given, t') →
      ∀ (k : Nat) node team, t.nodes[k]? = some node → node.crew = .team team →
        t'.works k =
          ((v.plan.producersOf node.operator.id).map (v.plan.rowsOut t'.metrics)).sum +
            team.workers.length * (v.plan.producersOf node.operator.id).length) ∧
    ∀ ops t₁ depth t₂, t.Runs ops t₁ → (Tree.next depth).outcome t₁ = some (.ok none, t₂) →
      ∀ later t₃, t₂.Runs later t₃ → .stop ∉ later →
        t₃ = t₂ ∧ ∀ n, (Tree.next (n + 1)).outcome t₃ = some (.ok none, t₃) := by
  have hrealizes := ValidPlan.realizes_of_physical hphysical
  have hresembles := PhysicalPlan.resembles_of_tree? hrealizes.linked htree
  have hfresh := PhysicalPlan.fresh_of_tree? htree
  have hperm := (PhysicalPlan.operators_perm_of_tree? htree).trans hrealizes.nodes_perm
  have hnodup := (hperm.map Operator.id).nodup_iff.mpr v.plan.nodup_ids
  have hsound : t.form.Sound := hfresh.sound
  have ht := Tree.tied_form hfresh.inTurn
  refine ⟨fun ops t₁ hrun => ⟨?_, ?_⟩, fun depth given t' hrun k node team hk hcrew => ?_, ?_⟩
  · exact Act.exists_outcome (fun _ _ => Tree.refines_next)
      (Tree.exists_next TableScan.shrinks hnodup hsound (hrun.tied ht))
  · exact Act.exists_outcome (fun _ _ => Tree.refines_complete)
      (Tree.exists_completed TableScan.shrinks hnodup (hrun.advances hfresh.orderly).1.orderly
        hsound (hrun.tied ht))
  · exact (hfresh.accounts hnodup hrun).works_eq hresembles hrealizes hk hcrew
  · intro ops t₁ depth t₂ hrun hnone later t₃ hlater hstop
    have ht₁ := hrun.tied ht
    obtain ⟨node, team, hnode, hcrew⟩ := ht₁.exists_sink_team hresembles hrealizes
    rw [Tree.next, Act.outcome_bind, Act.outcome_get, Act.andThen] at hnone
    have hfinished := Tree.finished_of_none hnodup hsound ht₁ hnode hcrew hnone
    have ht₂ := (Tree.nextKeeps_tied.nextNode depth t₁.root t₁ ht₁).of_outcome hnone
    have hroot : t₂.root = t₁.root := ht₂.root_eq.trans ht₁.root_eq.symm
    rw [← hroot] at hfinished
    obtain rfl := hfinished.runs hlater hstop
    exact ⟨rfl, hfinished.next⟩

/-- In the plan with a join the worker that joins is called six times: for the two matches of each
word and for the end of each input. -/
theorem nearWords_runs_end : ∃ t t' given,
    nearWordsPlan.physical 2 = .ok nearWordsNodes ∧
    nearWordsNodes.tree? (.standard Pattern.engine) twoTexts (fun _ => 0) = some (.ok t) ∧
    (∃ result t₂ n, ∀ depth, n ≤ depth →
      (Tree.complete depth).outcome t = some (result, t₂)) ∧
    (Tree.complete 30).outcome t = some (.ok given, t') ∧ t'.works 4 = 6 ∧
    ∀ (k : Nat) node team, t.nodes[k]? = some node → node.crew = .team team →
      t'.works k = ((nearWordsPlan.plan.producersOf node.operator.id).map
          (nearWordsPlan.plan.rowsOut t'.metrics)).sum +
        team.workers.length * (nearWordsPlan.plan.producersOf node.operator.id).length := by
  have hphysical : nearWordsPlan.physical 2 = .ok nearWordsNodes := rfl
  have hrun : ((nearWordsNodes.tree? (.standard Pattern.engine) twoTexts fun _ => 0).bind
      fun built => built.toOption.bind fun t => ((Tree.complete 30).outcome t).bind fun run =>
        run.1.toOption.map fun _ => run.2.works 4) = some 6 := by
    decide +kernel
  simp only [Option.bind_eq_some_iff, Option.map_eq_some_iff, toOption_eq_some_iff] at hrun
  obtain ⟨_, htree, t, rfl, ⟨_, t'⟩, hcomplete, given, rfl, hjoin⟩ := hrun
  obtain ⟨hends, hworks, -⟩ := ValidPlan.runs_end hphysical htree
  exact ⟨t, t', given, hphysical, htree, (hends [] t (.nil t)).2, hcomplete, hjoin,
    hworks 30 given t' hcomplete⟩

end Dataflow
