import Dataflow.Proofs.Connector.Broadcast

/-!
# What a connector holds back

A connector holds back exactly the tuples that its slowest live endpoint has still to read, and
nothing once every endpoint is closed. So no endpoint is ever behind what was dropped, and whenever
the connector dropped something, what it holds back was measured.

Broadcasting needs only that nothing is dropped too early. Here nothing is held back too long
either: opening an endpoint leaves the positions alone, and reading and closing end with dropping
whatever everyone has read.
-/

namespace Dataflow

open Act

variable {υ : Type}

namespace Connector

variable {c c' : Connector} {i : Nat}

/-- Everything was dropped that every live endpoint has read, and nothing else. -/
def Tight (c : Connector) : Prop :=
  c.base = c.slowest?.getD c.reach

lemma exists_of_slowest?_eq_some {slowest : Nat} (h : c.slowest? = some slowest) :
    ∃ e ∈ c.endpoints, e.isLive ∧ e.position = slowest := by
  obtain ⟨e, he, hposition⟩ := List.mem_map.mp (List.min?_eq_some_iff.mp h).1
  obtain ⟨hmem, hlive⟩ := List.mem_filter.mp he
  exact ⟨e, hmem, hlive, hposition⟩

lemma slowest?_eq_none_iff : c.slowest? = none ↔ c.isLive = false := by
  rw [slowest?, List.min?_eq_none_iff, List.map_eq_nil_iff, List.filter_eq_nil_iff, isLive,
    List.any_eq_false]

/-- Dropping what everyone has read leaves nothing to drop. -/
lemma Sane.tight_evict (h : c.Sane) : c.evict.Tight := by
  rw [Tight, reach_evict]
  change c.base + min (c.slowest?.getD c.reach - c.base) c.buffer.length =
    c.slowest?.getD c.reach
  have hreach : c.reach = c.base + c.buffer.length := rfl
  cases hslowest : c.slowest? with
  | none =>
    rw [Option.getD_none]
    omega
  | some slowest =>
    obtain ⟨e, he, hlive, hposition⟩ := exists_of_slowest?_eq_some hslowest
    have hbounds := h e he hlive
    rw [Option.getD_some]
    omega

/-- The slowest position depends on nothing but positions and on what is closed. -/
lemma slowest?_congr (h : c'.endpoints.map (fun e => (e.position, e.isLive)) =
    c.endpoints.map fun e => (e.position, e.isLive)) : c'.slowest? = c.slowest? := by
  have hread (c : Connector) : c.slowest? =
      (((c.endpoints.map fun e => (e.position, e.isLive)).filter Prod.snd).map Prod.fst).min? := by
    rw [slowest?, List.filter_map, List.map_map]
    rfl
  rw [hread, hread, h]

/-- Endpoints change, but neither in their positions nor in being closed. -/
lemma Tight.change {g : Endpoint → Endpoint} (h : c.Tight)
    (hposition : ∀ e, (g e).position = e.position)
    (hlive : ∀ e, c.endpoints[i]? = some e → (g e).isLive = e.isLive) :
    (c.change i g).Tight := by
  have hslowest : (c.change i g).slowest? = c.slowest? := by
    refine slowest?_congr (List.ext_getElem? fun j => ?_)
    rw [Connector.change, List.getElem?_map, List.getElem?_map, List.getElem?_modify]
    cases he : c.endpoints[j]? with
    | none => rfl
    | some e =>
      by_cases hij : i = j
      · subst hij
        simp [hposition, hlive e he]
      · simp [hij]
  rw [Tight, hslowest]
  exact h

lemma Tight.startEndpoint (h : c.Tight) (hstart : c.startEndpoint i = .ok c') : c'.Tight := by
  obtain ⟨hunopened, rfl⟩ := startEndpoint_eq_ok_iff.mp hstart
  refine h.change (fun _ => rfl) fun e he => ?_
  rw [endpoint_eq he] at hunopened
  rw [Endpoint.isLive, Endpoint.isLive, hunopened]
  rfl

lemma Tight.take (h : c.Tight) (htake : c.take i = .ok c') : c'.Tight := by
  rw [Connector.take] at htake
  split at htake
  · cases htake
  · split_ifs at htake
    cases htake
    exact h.change (fun _ => rfl) fun _ _ => rfl

lemma Sane.tight_stopEndpoint (h : c.Sane) (hstop : c.stopEndpoint i = .ok c') : c'.Tight := by
  obtain ⟨-, rfl⟩ := stopEndpoint_eq_ok_iff.mp hstop
  exact (h.change fun e _ hlive => by simp [Endpoint.isLive] at hlive).tight_evict

end Connector

namespace Fanout

/-- The positions of the endpoints that are not closed. -/
def livePositions (c : Connector) : Set Nat :=
  {p | ∃ e ∈ c.endpoints, e.isLive ∧ e.position = p}

/-- What a connector holds back of the tuples that its producer gave: it starts at the slowest live
endpoint, no live endpoint is ahead of the producer, and nothing is held back for nobody. -/
structure Buffers (given : List Tuple) (c : Connector) : Prop where
  isLeast_base : c.isLive → IsLeast (livePositions c) c.base
  position_mem : ∀ p ∈ livePositions c, c.base ≤ p ∧ p ≤ given.length
  buffer_eq : c.buffer = given.drop c.base
  buffer_eq_nil : c.isLive = false → c.buffer = []

/-- The rows held back are the ones between the slowest live endpoint and the producer. -/
lemma Buffers.length_buffer {given : List Tuple} {c : Connector} {slowest : Nat}
    (h : Buffers given c) (hslowest : IsLeast (livePositions c) slowest) :
    c.buffer.length = given.length - slowest := by
  obtain ⟨e, he, hlive, -⟩ := hslowest.1
  have hbase := h.isLeast_base (List.any_eq_true.mpr ⟨e, he, hlive⟩)
  rw [h.buffer_eq, List.length_drop, hbase.unique hslowest]

/-- The rows that are held back were measured last. -/
def Measured (f : Fanout υ) : Prop :=
  f.metrics.bufferedRows? f.connector.producer = some f.connector.buffer.length

lemma measured_settle (f : Fanout υ) (c : Connector) :
    Measured { f with
      connector := c, metrics := f.metrics.record (.buffered c.producer c.buffer.length) } := by
  simp [Measured, Metrics.bufferedRows?, Metrics.record]

section Faithful

variable {history : History} {f : Fanout (Recorded υ)}

/-- A tight connector holds back what it should of the tuples that it was given. -/
lemma Faithful.buffers (h : Faithful history f) (htight : f.connector.Tight) :
    Buffers f.producer.given f.connector := by
  have hbounds : ∀ p ∈ livePositions f.connector,
      f.connector.base ≤ p ∧ p ≤ f.producer.given.length := by
    rintro _ ⟨e, he, hlive, rfl⟩
    rw [← h.reach_eq]
    exact h.sane e he hlive
  refine ⟨fun hlive => ⟨?_, fun p hp => (hbounds p hp).1⟩, hbounds, h.buffer_eq, fun hclosed => ?_⟩
  · cases hslowest : f.connector.slowest? with
    | none =>
      rw [Connector.slowest?_eq_none_iff, hlive] at hslowest
      cases hslowest
    | some slowest =>
      rw [Connector.Tight, hslowest, Option.getD_some] at htight
      rw [htight]
      exact Connector.exists_of_slowest?_eq_some hslowest
  · rw [Connector.Tight, Connector.slowest?_eq_none_iff.mpr hclosed, Option.getD_none,
      Connector.reach] at htight
    exact List.eq_nil_of_length_eq_zero (by omega)

end Faithful

section Moves

variable {history : History} {f : Fanout (Recorded υ)} {i : Nat}

/-- What a move leaves behind: a tight connector, which was measured if an endpoint read or was
closed. -/
structure Tidy (f : Fanout (Recorded υ)) (move : Move) (result : Result (Option Tuple))
    (f' : Fanout (Recorded υ)) : Prop where
  tight : f'.connector.Tight
  measured_of_pull : ∀ i x, move = .pull i → result = .ok (some x) → Measured f'
  measured_of_stop : ∀ i, move = .stop i → (f.connector.endpoint i).phase ≠ .closed → Measured f'

lemma tidy_of_tight {move : Move} {result : Result (Option Tuple)} {f' : Fanout (Recorded υ)}
    (h : f'.connector.Tight) (hpull : ∀ i, move ≠ .pull i) (hstop : ∀ i, move ≠ .stop i) :
    Tidy f move result f' :=
  ⟨h, fun j _ hj => (hpull j hj).elim, fun j hj => (hstop j hj).elim⟩

lemma tidy_adjust {move : Move} {g : Connector → Result Connector} (htight : f.connector.Tight)
    (hpull : ∀ i, move ≠ .pull i) (hstop : ∀ i, move ≠ .stop i)
    (hg : ∀ c, g f.connector = .ok c → ∃ index, f.connector.take index = .ok c) :
    (adjust g : Act (Fanout (Recorded υ)) _).After True f (Tidy f move) := by
  refine after_get_bind.mpr (after_lift_bind.mpr
    ⟨fun e _ => tidy_of_tight htight hpull hstop, fun c hc => ?_⟩)
  obtain ⟨index, htake⟩ := hg c hc
  exact after_modify_bind.mpr (after_pure.mpr (tidy_of_tight (htight.take htake) hpull hstop))

lemma after_ofProducer_frame {α : Type} (a : Act (Recorded υ) α) :
    (ofProducer a).After True f fun _ f' =>
      f'.connector = f.connector ∧ f'.metrics = f.metrics := by
  rw [after_iff]
  refine ⟨fun _ => trivial, fun result f' houtcome => ?_⟩
  rw [ofProducer, outcome_within, Option.map_eq_some_iff] at houtcome
  obtain ⟨⟨_, producer⟩, -, heq⟩ := houtcome
  cases heq
  exact ⟨rfl, rfl⟩

lemma Measured.congr {f f' : Fanout υ} (h : Measured f) (hconnector : f'.connector = f.connector)
    (hmetrics : f'.metrics = f.metrics) : Measured f' := by
  rw [Measured, hconnector, hmetrics]
  exact h

lemma tidy_deliver {e : Endpoint} {f₀ : Fanout (Recorded υ)} (hsane : f.connector.Sane)
    (he : f.connector.endpoints[i]? = some e) (hlive : e.isLive)
    (hlt : e.position < f.connector.reach) :
    (seat.deliver i).After True f (Tidy f₀ (.pull i)) := by
  obtain ⟨x, hread, -, hadvanced⟩ := hsane.read he hlive hlt
  refine after_get_bind.mpr (after_lift_bind.mpr ⟨fun e' herror => ?_, fun given hgiven => ?_⟩)
  · cases hread.symm.trans herror
  · cases hread.symm.trans hgiven
    refine after_modify_bind.mpr (after_pure.mpr ⟨hadvanced.tight_evict, ?_, ?_⟩)
    · exact fun _ _ _ _ => measured_settle ..
    · exact fun _ => Move.noConfusion

variable [Feed υ]

lemma tidy_start (htight : f.connector.Tight) :
    (perform (.start i)).After True f (Tidy f (.start i)) := by
  have hmove (result : Result (Option Tuple)) (f' : Fanout (Recorded υ))
      (h : f'.connector.Tight) : Tidy f (.start i) result f' :=
    tidy_of_tight h (fun _ => Move.noConfusion) fun _ => Move.noConfusion
  have hstart : (startEndpoint i).After True f fun _ f' => f'.connector.Tight := by
    refine after_get_bind.mpr (after_lift_bind.mpr ⟨fun _ _ => htight, fun c hc => ?_⟩)
    have hopened := htight.startEndpoint hc
    refine after_modify_bind.mpr ?_
    split_ifs
    · refine (after_ofProducer_frame _).mono fun _ f' hframe => ?_
      rw [hframe.1]
      exact hopened
    · exact after_pure.mpr hopened
  exact hstart.bind (fun _ _ => hmove _ _) fun _ _ h => after_pure.mpr (hmove _ _ h)

lemma tidy_stop (hsane : f.connector.Sane) (htight : f.connector.Tight) :
    (perform (.stop i)).After True f (Tidy f (.stop i)) := by
  have hstop : (stopEndpoint i).After True f fun _ f' => f'.connector.Tight ∧
      ((f.connector.endpoint i).phase ≠ .closed → Measured f') := by
    refine after_get_bind.mpr (after_lift_bind.mpr ⟨fun e hrefused => ⟨htight, fun hnot => ?_⟩,
      fun c hc => ?_⟩)
    · exact (hnot (Connector.phase_eq_closed_of_stopEndpoint hrefused)).elim
    · have hclosed := hsane.tight_stopEndpoint hc
      refine after_modify_bind.mpr ?_
      split_ifs
      · refine (after_ofProducer_frame _).mono ?_
        rintro _ f' ⟨hconnector, hmetrics⟩
        refine ⟨?_, fun _ => (measured_settle f c).congr hconnector hmetrics⟩
        rw [hconnector]
        exact hclosed
      · exact after_pure.mpr ⟨hclosed, fun _ => measured_settle f c⟩
  have hmove (result : Result (Option Tuple)) (f' : Fanout (Recorded υ))
      (h : f'.connector.Tight ∧ ((f.connector.endpoint i).phase ≠ .closed → Measured f')) :
      Tidy f (.stop i) result f' := by
    refine ⟨h.1, fun _ _ => Move.noConfusion, fun j hj => ?_⟩
    obtain rfl := Move.stop.inj hj
    exact h.2
  exact hstop.bind (fun _ _ => hmove _ _) fun _ _ h => after_pure.mpr (hmove _ _ h)

lemma tidy_pull (h : Faithful history f) (htight : f.connector.Tight) :
    (perform (.pull i)).After True f (Tidy f (.pull i)) := by
  have hidle {result : Result (Option Tuple)} {f' : Fanout (Recorded υ)}
      (hconnector : f'.connector.Tight) (hresult : ∀ x, result ≠ .ok (some x)) :
      Tidy f (.pull i) result f' :=
    ⟨hconnector, fun _ x _ hx => (hresult x hx).elim, fun _ => Move.noConfusion⟩
  refine Seat.after_pull (fun _ => hidle htight fun _ hx => by cases hx)
    fun e (he : f.connector.endpoints[i]? = some e) hopen => ?_
  have hlive : e.isLive := by simp [Endpoint.isLive, hopen]
  split_ifs with hlt
  · exact tidy_deliver h.sane he hlive hlt
  · exact hidle htight fun _ hx => by cases hx
  · refine (after_ofProducer_frame _).mono ?_
    rintro (e' | given) f' ⟨hconnector, -⟩
    · refine hidle ?_ fun _ hx => by cases hx
      rw [hconnector]
      exact htight
    · cases given with
      | some x =>
        have hpushed : (f'.connector.push x).Sane := by
          rw [hconnector]
          exact h.sane.push x
        refine tidy_deliver hpushed ?_ hlive ?_
        · change f'.connector.endpoints[i]? = some e
          rw [hconnector]
          exact he
        · change e.position < (f'.connector.push x).reach
          rw [hconnector, Connector.reach_push]
          exact Nat.lt_succ_of_le (h.sane e (List.mem_of_getElem? he) hlive).2
      | none =>
        refine hidle ?_ fun _ hx => by cases hx
        change f'.connector.Tight
        rw [hconnector]
        exact htight

lemma refused_pull (hphase : (f.connector.endpoint i).phase ≠ .opened) :
    (perform (.pull i)).After True f fun result _ => result = .error
      (.wrongPhase f.connector.producer (f.connector.endpoint i).phase .toPull) := by
  refine Seat.after_pull (fun _ => rfl) fun e he hopen => ?_
  rw [← Connector.endpoint_eq he] at hopen
  exact (hphase hopen).elim

/-- Every move leaves a tight connector behind. -/
theorem Faithful.tidy (h : Faithful history f) (htight : f.connector.Tight) (move : Move) :
    (perform move).After True f (Tidy f move) := by
  cases move with
  | take index =>
    exact tidy_adjust (g := fun c => c.take index) htight (fun _ => Move.noConfusion)
      (fun _ => Move.noConfusion) fun c hc => ⟨index, hc⟩
  | takeNext =>
    exact tidy_adjust (g := fun c => c.takeNext.map Prod.snd) htight (fun _ => Move.noConfusion)
      (fun _ => Move.noConfusion) fun c => exists_take_of_takeNext
  | start index => exact tidy_start htight
  | pull index => exact tidy_pull h htight
  | stop index => exact tidy_stop h.sane htight

end Moves

section Plays

variable [Feed υ] {id : ConnectorId} {feed : υ} {n : Nat} {f₀ f : Fanout (Recorded υ)}
  {history : History}

lemma tight_create (h : Fanout.create id (⟨feed, []⟩ : Recorded υ) n = .ok f₀) :
    f₀.connector.Tight := by
  rw [Fanout.create, Connector.create] at h
  split_ifs at h with hn
  · cases h
  · cases h
    rw [Connector.Tight]
    cases hslowest : Connector.slowest? _ with
    | none => rfl
    | some slowest =>
      obtain ⟨e, he, -, rfl⟩ := Connector.exists_of_slowest?_eq_some hslowest
      rw [List.eq_of_mem_replicate he]
      rfl

lemma Plays.tight (h : Plays f₀ history f) (hnew : Faithful [] f₀) (htight : f₀.connector.Tight) :
    f.connector.Tight := by
  induction h with
  | nil => exact htight
  | snoc hplays hmove ih =>
    exact (((hplays.faithful hnew).tidy ih _).of_outcome hmove).tight

/-- Whatever was done with a fan-out since it was made: its connector holds back the tuples from
the slowest live endpoint on, so that every live endpoint finds there what it has still to read. A
pull fails only for an endpoint that is not open, or along with the producer. After every pull that
gave a tuple, and whenever an endpoint was closed that was not, the rows held back were measured. -/
theorem holds_back_rest_of_plays
    (hcreate : Fanout.create id (⟨feed, []⟩ : Recorded υ) n = .ok f₀)
    (hplays : Plays f₀ history f) :
    Buffers f.producer.given f.connector ∧
      (∀ slowest, IsLeast (livePositions f.connector) slowest →
        f.connector.buffer.length = f.producer.given.length - slowest) ∧
      (∀ e ∈ f.connector.endpoints, e.isLive →
        f.connector.buffer[e.position - f.connector.base]? = f.producer.given[e.position]?) ∧
      (∀ i e f', (perform (.pull i)).outcome f = some (.error e, f') →
        ((f.connector.endpoint i).phase ≠ .opened ∧
          e = .wrongPhase f.connector.producer (f.connector.endpoint i).phase .toPull) ∨
        f'.producer.answers = f.producer.answers ++ [.error e]) ∧
      (∀ i x f', (perform (.pull i)).outcome f = some (.ok (some x), f') → Measured f') ∧
      ∀ i result f', (perform (.stop i)).outcome f = some (result, f') →
        (f.connector.endpoint i).phase ≠ .closed → Measured f' := by
  have hfaithful := hplays.faithful (faithful_create hcreate)
  have htight := hplays.tight (faithful_create hcreate) (tight_create hcreate)
  have hbuffers := hfaithful.buffers htight
  refine ⟨hbuffers, fun _ => hbuffers.length_buffer, fun e he hlive => ?_,
    fun i e f' hmove => ?_, fun i x f' hmove => ?_, fun i result f' hmove => ?_⟩
  · rw [hfaithful.buffer_eq, List.getElem?_drop, Nat.add_sub_cancel' (hfaithful.sane e he hlive).1]
  · by_cases hopen : (f.connector.endpoint i).phase = .opened
    · have hfair := ((hfaithful.good (.pull i)).of_outcome hmove).2
      exact .inr ((hfair.failed i e rfl rfl).2.2 hopen)
    · exact .inl ⟨hopen, Except.error.inj ((refused_pull hopen).of_outcome hmove)⟩
  · exact ((hfaithful.tidy htight _).of_outcome hmove).measured_of_pull i x rfl rfl
  · exact ((hfaithful.tidy htight _).of_outcome hmove).measured_of_stop i rfl

/-- When the endpoint that was handed out late has read one number, the connector of the numbers
holds back the other one, and has measured it. -/
theorem late_holds_back_rest : ∃ history f,
    Fanout.create 0 numbers 2 = .ok numbersFanout ∧ Plays numbersFanout history f ∧
    f.connector.base = 1 ∧ Buffers f.producer.given f.connector ∧
    ∃ x f', (perform (.pull 1)).outcome f = some (.ok (some x), f') ∧ Measured f' := by
  have hcreate : Fanout.create 0 numbers 2 = .ok numbersFanout := rfl
  obtain ⟨⟨history, f⟩, hplay⟩ := Option.isSome_iff_exists.mp
    (by decide +kernel : (play numbersFanout [] (lateMoves.take 10)).isSome = true)
  have hreads : (play numbersFanout [] (lateMoves.take 10)).any (fun out =>
      out.2.connector.base = 1 ∧
        ((perform (.pull 1)).outcome out.2).map (·.1.toOption) =
          some (some numbers.feed.feed.rest[1]?)) = true := by
    decide +kernel
  rw [hplay] at hreads
  obtain ⟨hbase, hpull⟩ := of_decide_eq_true hreads
  obtain ⟨⟨result, f'⟩, hmove, hresult⟩ := Option.map_eq_some_iff.mp hpull
  cases result with
  | error e => cases hresult
  | ok answer =>
    cases hresult
    have hplays := plays_of_play hplay (.nil numbersFanout)
    obtain ⟨hbuffers, -, -, -, hmeasured, -⟩ := holds_back_rest_of_plays hcreate hplays
    exact ⟨history, f, hcreate, hplays, hbase, hbuffers, _, f', hmove, hmeasured 1 _ f' hmove⟩

end Plays

end Fanout

end Dataflow
