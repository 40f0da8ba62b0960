import Dataflow.Proofs.Flow.Forecast
import Dataflow.Proofs.Tree.Pull

/-!
# Endpoints give what was forecast

An endpoint reads what its connector holds back, or else pulls the producer. Either way it gives
the head of its forecast, and all other endpoints of the connector go on as before.
-/

namespace Dataflow

namespace Junction

variable {R R' : Forecast} {c : ConnectorId} {junction : Junction} {i : Nat} {e : Endpoint}

/-- A connector stays in order when an endpoint reads. -/
lemma Flows.advance (h : junction.Flows R c) (he : junction.connector.endpoints[i]? = some e)
    (hsane : (junction.connector.change i fun e => { e with position := e.position + 1 }).Sane)
    (hself : R' (.endpoint c i) = (R (.node junction.producer)).after
      (junction.connector.ahead { e with position := e.position + 1 }))
    (hother : ∀ y, y ≠ .endpoint c i → R' y = R y) :
    ({ junction with connector := junction.connector.advance i } : Junction).Flows R' c := by
  have hproducer : R' (.node junction.producer) = R (.node junction.producer) :=
    hother _ Supply.noConfusion
  have hget (j : Nat) (e' : Endpoint)
      (he' : (junction.connector.advance i).endpoints[j]? = some e') :
      (j = i ∧ e' = { e with position := e.position + 1 }) ∨
        (j ≠ i ∧ junction.connector.endpoints[j]? = some e') := by
    change (junction.connector.endpoints.modify i _)[j]? = _ at he'
    rw [List.getElem?_modify] at he'
    by_cases hij : i = j
    · subst hij
      rw [he] at he'
      simp only [if_true, Option.map_eq_map, Option.map_some, Option.some.injEq] at he'
      exact .inl ⟨rfl, he'.symm⟩
    · simp only [hij, if_false, Option.map_eq_map, Option.map_id_fun', id_eq] at he'
      exact .inr ⟨Ne.symm hij, he'⟩
  have hopened (e' : Endpoint) (he' : e' ∈ (junction.connector.advance i).endpoints) :
      e'.phase = .opened := by
    obtain ⟨j, hj⟩ := List.mem_iff_getElem?.mp he'
    rcases hget j e' hj with ⟨-, rfl⟩ | ⟨-, hold⟩
    · exact h.opened e (List.mem_of_getElem? he)
    · exact h.opened e' (List.mem_of_getElem? hold)
  refine ⟨fun hended => hproducer.trans (h.ended hended), hopened, hsane.evict, fun j e' hj => ?_⟩
  have hahead : (junction.connector.advance i).ahead e' = junction.connector.ahead e' :=
    hsane.ahead_evict (List.mem_of_getElem? hj) (by
      simp [Endpoint.isLive, hopened e' (List.mem_of_getElem? hj)])
  change R' (.endpoint c j) = (R' (.node junction.producer)).after
    ((junction.connector.advance i).ahead e')
  rw [hproducer, hahead]
  rcases hget j e' hj with ⟨rfl, rfl⟩ | ⟨hne, hold⟩
  · exact hself
  · rw [hother _ fun heq => hne (Supply.endpoint.inj heq).2]
    exact h.ahead j e' hold

/-- A connector stays in order when it takes a tuple of its producer. -/
lemma Flows.push {x : Tuple} (h : junction.Flows R c)
    (hproducer : R (.node junction.producer) = (R' (.node junction.producer)).after [x])
    (hended : junction.connector.ended = false)
    (hown : ∀ i, R' (.endpoint c i) = R (.endpoint c i)) :
    ({ junction with connector := junction.connector.push x } : Junction).Flows R' c where
  ended := by
    intro hended'
    change junction.connector.ended = true at hended'
    rw [hended] at hended'
    cases hended'
  opened := h.opened
  sane := h.sane.push x
  ahead := by
    intro i e he
    have hle : e.position ≤ junction.connector.reach :=
      (h.sane e (List.mem_of_getElem? he) (by
        simp [Endpoint.isLive, h.opened e (List.mem_of_getElem? he)])).2
    change R' (.endpoint c i) = (R' (.node junction.producer)).after
      ((junction.connector.push x).ahead e)
    rw [hown, h.ahead i e he, hproducer, Connector.ahead_push hle, Stream.after_append]

lemma Flows.finish (h : junction.Flows R c) (hdone : R' (.node junction.producer) = .done)
    (hproducer : R' (.node junction.producer) = R (.node junction.producer))
    (hown : ∀ i, R' (.endpoint c i) = R (.endpoint c i)) :
    ({ junction with connector := junction.connector.finish } : Junction).Flows R' c where
  ended := fun _ => hdone
  opened := h.opened
  sane := h.sane
  ahead := fun i e he => by
    change R' (.endpoint c i) = (R' (.node junction.producer)).after (junction.connector.ahead e)
    rw [hown, hproducer]
    exact h.ahead i e he

end Junction

namespace Tree

open Act

variable {σ ω : Type} [Source σ] [Worker ω] {w : Wiring} {R : Forecast} {t : Tree σ ω}
  {c : ConnectorId} {i q n : Nat} {junction : Junction} {e : Endpoint}

/-- What was pulled is what was forecast, and the tree is in order again. -/
def Answers (w : Wiring) (R : Forecast) (x : Supply) (t : Tree σ ω)
    (result : Result (Option Tuple)) (t' : Tree σ ω) : Prop :=
  result = (R x).head ∧ ∀ given, result = .ok given → ∃ R', Served w R x t R' t'

/-- What was changed before, up to the level of a supply, does not matter to what is pulled. -/
lemma Answers.of_shifts {x : Supply} {R' : Forecast} {t' t'' : Tree σ ω}
    {result : Result (Option Tuple)} (h : Answers w R' x t' result t'')
    (hshifts : Shifts w (w.level (.supply x)) R t R' t') (hsound : w.Sound) :
    Answers w R x t result t'' := by
  obtain ⟨hresult, hserved⟩ := h
  refine ⟨hresult.trans (by rw [hshifts.kept x fun a ha => hsound.level_lt ha]), ?_⟩
  intro given hgiven
  obtain ⟨R'', hserved⟩ := hserved given hgiven
  exact ⟨R'', .of_shifts hshifts hserved hsound⟩

omit [Source σ] [Worker ω] in
/-- A connector that is put in the place of another leaves all other parts alone. -/
lemma untouched_write {con : Connector} {a : Part} (hne : a ≠ .joint c) :
    t.Untouched ((seat c).write con t) a := by
  match a with
  | .supply (.node k) => exact rfl
  | .supply (.endpoint ..) => trivial
  | .joint d =>
    have hcd : c ≠ d := fun heq => hne (heq ▸ rfl)
    simp [Untouched, seat, hcd]

omit [Source σ] [Worker ω] in
lemma getElem?_junctions_write {con : Connector} (hc : t.junctions[c]? = some junction) :
    ((seat c).write con t).junctions[c]? = some { junction with connector := con } := by
  simp [seat, hc]

/-- An endpoint that is behind its connector reads the next tuple held back. -/
lemma answers_deliver (hsound : w.Sound) (hw : t.ledger.wiring = w)
    (hflows : ∀ a, w.level a ≤ w.level (.joint c) → t.Flows R a)
    (hc : t.junctions[c]? = some junction)
    (he : junction.connector.endpoints[i]? = some e) (hlt : e.position < junction.connector.reach) :
    ((seat c).deliver i : Drive σ ω (Option Tuple)).After False t
      (Answers w R (.endpoint c i) t) := by
  have hjunction := hflows (.joint c) le_rfl junction hc
  have hlive : e.isLive := by simp [Endpoint.isLive, hjunction.opened e (List.mem_of_getElem? he)]
  obtain ⟨x, hread, hahead, hsane⟩ := hjunction.sane.read he hlive hlt
  have hconnector : (seat c).read t = junction.connector := by simp [seat, hc]
  refine after_get_bind.mpr (after_lift_bind.mpr ⟨fun e h => ?_, fun given h => ?_⟩)
  · rw [hconnector, hread] at h
    cases h
  · rw [hconnector, hread] at h
    cases h
    refine after_modify_bind.mpr (after_pure.mpr ?_)
    have hR := hjunction.ahead i e he
    rw [hahead] at hR
    refine ⟨by rw [hR]; rfl, fun _ _ =>
      ⟨_, .of_home hsound hw (fun a _ => hflows a) (fun a ha => ?_) ?_⟩⟩
    · change t.Untouched ((seat c).write (junction.connector.advance i) t) a
      exact untouched_write ha
    · intro junction' hc'
      change ((seat c).write (junction.connector.advance i) t).junctions[c]? = _ at hc'
      rw [getElem?_junctions_write hc, Option.some.injEq] at hc'
      subst hc'
      refine hjunction.advance he hsane ?_ fun y hy => Function.update_of_ne hy ..
      rw [Function.update_self, hR]
      rfl

omit [Source σ] [Worker ω] in
lemma exists_junction_of_wiring (hw : t.ledger.wiring = w)
    (hjoint : w.joints[c]? = some (q, n)) : ∃ junction, t.junctions[c]? = some junction ∧
      junction.producer = q ∧ junction.connector.endpoints.length = n := by
  subst hw
  exact joint_eq_some_iff.mp hjoint

/-- After its producer was pulled, a connector is the only part up to its level that is still to be
brought in order. -/
lemma Served.write {R' : Forecast} {t' : Tree σ ω} {con : Connector} (hsound : w.Sound)
    (hw : t.ledger.wiring = w) (hjoint : w.joints[c]? = some (q, n))
    (hserved : Served w R (.node q) t R' t')
    (hflows : ∀ a, w.level a ≤ w.level (.joint c) → t.Flows R a)
    (hc : t'.junctions[c]? = some junction)
    (hjunction : ({ junction with connector := con } : Junction).Flows R' c) :
    Shifts w (w.level (.joint c)) R t R' ((seat c).write con t') ∧
      ∀ a, w.level a ≤ w.level (.joint c) → ((seat c).write con t').Flows R' a := by
  have hhangs : w.Hangs (.node q) (.joint c) := .producer hjoint
  have hshifts := hserved.shifts hsound hhangs le_rfl
  refine ⟨⟨fun a ha => (hshifts.untouched a ha).trans (untouched_write ?_), hshifts.kept⟩,
    fun a ha => ?_⟩
  · rintro rfl
    exact lt_irrefl _ ha
  · by_cases hac : a = .joint c
    · subst hac
      intro junction' hc'
      rw [getElem?_junctions_write hc, Option.some.injEq] at hc'
      exact hc' ▸ hjunction
    · have hflows' : t'.Flows R' a := by
        by_cases hle : w.level a ≤ w.level (.supply (.node q))
        · exact hserved.flows a hle
        · refine hserved.flows_above hsound hw (not_le.mp hle) (fun hb => hac ?_) (hflows a ha)
          exact hsound.hangs_unique hb hhangs
      exact hflows'.congr (untouched_write hac) (fun _ _ => rfl) fun _ _ => rfl

section Pulled

/-! A connector whose endpoints have all been read up pulled its producer. -/

variable {R' : Forecast} {t' : Tree σ ω} (hsound : w.Sound) (hw : t.ledger.wiring = w)
  (hjoint : w.joints[c]? = some (q, n)) (hserved : Served w R (.node q) t R' t')
  (hflows : ∀ a, w.level a ≤ w.level (.joint c) → t.Flows R a)
  (hc : t.junctions[c]? = some junction) (hproducer : junction.producer = q)

include hsound hjoint hserved

lemma Served.kept_endpoint (j : Nat) : R' (.endpoint c j) = R (.endpoint c j) := by
  refine hserved.kept _ Supply.noConfusion fun a ha => ?_
  exact (hsound.level_lt (.producer hjoint)).trans (hsound.level_lt ha)

include hc in
lemma Served.getElem?_junctions : t'.junctions[c]? = some junction :=
  Eq.trans (hserved.untouched (.joint c) (hsound.level_lt (.producer hjoint))) hc

include hw hflows hc hproducer

/-- The producer gave a tuple, which is the next one of the endpoint. -/
lemma Served.answers_push {x : Tuple} (hw' : t'.ledger.wiring = w)
    (he : junction.connector.endpoints[i]? = some e) (hle : e.position ≤ junction.connector.reach)
    (hended : junction.connector.ended = false) (hhead : (R (.node q)).head = .ok (some x)) :
    ((seat c).deliver i : Drive σ ω (Option Tuple)).After False
      ((seat c).write (junction.connector.push x) t') (Answers w R (.endpoint c i) t) := by
  have hc' := hserved.getElem?_junctions hsound hjoint hc
  have hpush :
      ({ junction with connector := junction.connector.push x } : Junction).Flows R' c := by
    refine (hflows (.joint c) le_rfl junction hc).push ?_ hended
      (hserved.kept_endpoint hsound hjoint)
    rw [hproducer, hserved.tail_eq]
    exact Stream.head_eq_ok_some_iff.mp hhead
  obtain ⟨hshifts, hflows'⟩ := hserved.write hsound hw hjoint hflows hc' hpush
  have hconnector : (seat c).read t' = junction.connector := by simp [seat, hc']
  have hwritten : ((seat c).write (junction.connector.push x) t').ledger.wiring = w := by
    rw [ledger_write (by rw [hconnector]; rfl) (by rw [hconnector]; rfl), hw']
  refine (answers_deliver (i := i) hsound hwritten hflows' (getElem?_junctions_write hc') he
    ?_).mono fun result t'' h => h.of_shifts hshifts hsound
  rw [Connector.reach_push]
  exact Nat.lt_succ_of_le hle

/-- The producer came to the end, and so does the endpoint. -/
lemma Served.answers_finish (hR : R (.endpoint c i) = R (.node q))
    (hhead : (R (.node q)).head = .ok none) :
    Answers w R (.endpoint c i) t (.ok none)
      ((seat c).write junction.connector.finish t') := by
  have hdone : R (.node q) = .done := Stream.head_eq_ok_none_iff.mp hhead
  have hdone' : R' (.node q) = .done := by rw [hserved.tail_eq, hdone, Stream.tail_done]
  have hown := hserved.kept_endpoint hsound hjoint
  have hfinish : ({ junction with connector := junction.connector.finish } : Junction).Flows
      R' c := by
    subst hproducer
    exact (hflows (.joint c) le_rfl junction hc).finish hdone' (hdone'.trans hdone.symm) hown
  obtain ⟨hshifts, hflows'⟩ := hserved.write hsound hw hjoint hflows
    (hserved.getElem?_junctions hsound hjoint hc) hfinish
  refine ⟨by rw [hR, hdone]; rfl, fun _ _ => ⟨R', ?_, hflows', hshifts.untouched,
    fun y _ hy => hshifts.kept y hy⟩⟩
  rw [hown, hR, hdone, Stream.tail_done]

end Pulled

/-- An endpoint gives what was forecast if its producer does. -/
theorem answers_pull {next : Drive σ ω (Option Tuple)} (hsound : w.Sound)
    (hw : t.ledger.wiring = w) (hjoint : w.joints[c]? = some (q, n)) (hi : i < n)
    (hflows : ∀ a, w.level a ≤ w.level (.joint c) → t.Flows R a) (hquiet : Quiet next)
    (hnext : next.After False t (Answers w R (.node q) t)) :
    ((seat c).pull next i).After False t (Answers w R (.endpoint c i) t) := by
  obtain ⟨junction, hc, hproducer, hlength⟩ := exists_junction_of_wiring hw hjoint
  have hjunction := hflows (.joint c) le_rfl junction hc
  have hconnector : (seat c).read t = junction.connector := by simp [seat, hc]
  refine Seat.after_pull (fun hnot => ?_) fun e he hopened => ?_
  · have hlast := List.getElem?_eq_getElem (l := junction.connector.endpoints) (i := i) (by omega)
    rw [hconnector, Connector.endpoint_eq hlast] at hnot
    exact (hnot (hjunction.opened _ (List.mem_of_getElem? hlast))).elim
  rw [hconnector] at he ⊢
  have hle : e.position ≤ junction.connector.reach :=
    (hjunction.sane e (List.mem_of_getElem? he) (by simp [Endpoint.isLive, hopened])).2
  have hR := hjunction.ahead i e he
  split_ifs with hlt hended
  · exact answers_deliver hsound hw hflows hc he hlt
  · rw [Connector.ahead_eq_nil (not_lt.mp hlt), hjunction.ended hended] at hR
    exact ⟨by rw [hR]; rfl, fun _ _ => ⟨R, by rw [hR]; rfl, hflows,
      fun _ _ => .refl, fun _ _ _ => rfl⟩⟩
  · rw [Connector.ahead_eq_nil (not_lt.mp hlt), Stream.after_nil, hproducer] at hR
    refine (hnext.and (hquiet t)).mono ?_
    rintro (e' | given) t' ⟨⟨hhead, hgives⟩, hledger⟩
    · exact ⟨by rw [hR, ← hhead], fun _ h => by cases h⟩
    · obtain ⟨R', hserved⟩ := hgives given rfl
      have hconnector' : (seat c).read t' = junction.connector := by
        simp [seat, hserved.getElem?_junctions hsound hjoint hc]
      cases given with
      | some x =>
        rw [Seat.Answered, hconnector']
        exact hserved.answers_push hsound hw hjoint hflows hc hproducer (by rw [hledger, hw]) he hle
          (by simpa using hended) hhead.symm
      | none =>
        rw [Seat.Answered, hconnector']
        exact hserved.answers_finish hsound hw hjoint hflows hc hproducer hR hhead.symm

end Tree

end Dataflow
