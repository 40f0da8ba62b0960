import Mathlib.Tactic
import Dataflow.Connector.Sharing
import Dataflow.Feed.Faulty
import Dataflow.Feed.Rows
import Dataflow.Proofs.Act
import Dataflow.Proofs.Connector

/-!
# Connectors broadcast

However the endpoints of a connector are handed out, opened, pulled and closed, each of them
receives what the producer gave, in order and from the start. The producer is asked only for an
endpoint that has received everything, and its failures are passed on without a trace.

What the producer answered is remembered beside it, and what the endpoints received is read off
the history of moves; neither has a part in what happens.
-/

namespace Dataflow

open Act

variable {υ : Type}

/-! ### Feeds that remember -/

/-- A feed and the answers that it gave so far. -/
structure Recorded (υ : Type) where
  feed : υ
  /-- What it answered when it was asked for a tuple, in order. -/
  answers : List (Result (Option Tuple)) := []

namespace Recorded

/-- The tuples that were given. -/
def given (r : Recorded υ) : List Tuple :=
  r.answers.filterMap fun
    | .ok answer => answer
    | .error _ => none

/-- The feed came to its end. -/
def Ended (r : Recorded υ) : Prop :=
  .ok none ∈ r.answers

variable [Feed υ]

/-- An action of the feed, which is not an answer. -/
def ofFeed {α : Type} (a : Act υ α) : Act (Recorded υ) α :=
  Act.within Recorded.feed (fun feed r => { r with feed := feed }) a

/-- Asks the feed for a tuple and remembers the answer. -/
def next : Act (Recorded υ) (Option Tuple) := do
  let answer ← (ofFeed Feed.next).attempt
  modify fun r => { r with answers := r.answers ++ [answer] }
  answer

instance : Feed (Recorded υ) where
  operator r := Feed.operator r.feed
  schema r := Feed.schema r.feed
  start := ofFeed Feed.start
  next := next
  stop := ofFeed Feed.stop

lemma outcome_next (r : Recorded υ) :
    (Feed.next : Act (Recorded υ) _).outcome r =
      (Feed.next.outcome r.feed).map fun (answer, feed) =>
        (answer, ⟨feed, r.answers ++ [answer]⟩) := by
  change (next : Act (Recorded υ) _).outcome r = _
  rw [next, outcome_bind, outcome_attempt, ofFeed, outcome_within]
  rcases Feed.next.outcome r.feed with _ | ⟨answer, feed⟩ <;> rfl

end Recorded

namespace Fanout

/-! ### Moves -/

/-- What can be done with a fan-out. -/
inductive Move where
  | take (index : Nat)
  | takeNext
  | start (index : Nat)
  | pull (index : Nat)
  | stop (index : Nat)
  deriving DecidableEq

/-- Changes the connector alone, unless the change is refused. -/
def adjust (f : Connector → Result Connector) : Act (Fanout υ) (Option Tuple) := do
  let c ← f (← get).connector
  modify fun fanout => { fanout with connector := c }
  return none

/-- Makes a move. Only pulling gives tuples. -/
def perform [Feed υ] : Move → Act (Fanout υ) (Option Tuple)
  | .take index => adjust (·.take index)
  | .takeNext => adjust fun c => c.takeNext.map Prod.snd
  | .start index => do startEndpoint index; return none
  | .pull index => pull index
  | .stop index => do stopEndpoint index; return none

/-- Moves and what they gave, in order. -/
abbrev History : Type :=
  List (Move × Result (Option Tuple))

/-- A fan-out comes out of another one by the moves of a history. -/
inductive Plays [Feed υ] : Fanout υ → History → Fanout υ → Prop
  | nil (f : Fanout υ) : Plays f [] f
  | snoc {f₀ f f' : Fanout υ} {history : History} {move : Move} {result : Result (Option Tuple)}
    (hplays : Plays f₀ history f) (hmove : (perform move).outcome f = some (result, f')) :
    Plays f₀ (history ++ [(move, result)]) f'

/-- What an endpoint got out of a move. -/
def gain (i : Nat) : Move × Result (Option Tuple) → Option Tuple
  | (.pull index, .ok answer) => if index = i then answer else none
  | _ => none

/-- The tuples that an endpoint received, in order. -/
def received (history : History) (i : Nat) : List Tuple :=
  history.filterMap (gain i)

lemma received_concat (history : History) (event : Move × Result (Option Tuple)) (i : Nat) :
    received (history ++ [event]) i = received history i ++ (gain i event).toList := by
  rw [received, List.filterMap_append, List.filterMap_cons, List.filterMap_nil, received]
  cases gain i event <;> rfl

/-! ### Faithful fan-outs -/

/-- A fan-out is faithful to a history: the connector holds the last of the tuples that its
producer gave, and each endpoint has received as many of the first as its position says. -/
structure Faithful (history : History) (f : Fanout (Recorded υ)) : Prop where
  sane : f.connector.Sane
  base_le : f.connector.base ≤ f.producer.given.length
  buffer_eq : f.connector.buffer = f.producer.given.drop f.connector.base
  ended_iff : f.connector.ended = true ↔ f.producer.Ended
  position_le : ∀ (i : Nat) e, f.connector.endpoints[i]? = some e →
    e.position ≤ f.producer.given.length
  received_eq : ∀ i, received history i =
    f.producer.given.take (f.connector.endpoint i).position

namespace Faithful

variable {history : History} {f f' : Fanout (Recorded υ)} {c : Connector} {i : Nat}

lemma reach_eq (h : Faithful history f) : f.connector.reach = f.producer.given.length := by
  have hlength := congrArg List.length h.buffer_eq
  have hle := h.base_le
  rw [List.length_drop] at hlength
  rw [Connector.reach]
  omega

lemma received_eq_given_iff (h : Faithful history f) :
    received history i = f.producer.given ↔
      f.producer.given.length ≤ (f.connector.endpoint i).position := by
  rw [h.received_eq, List.take_eq_self_iff]

lemma received_snoc (h : Faithful history f) {x : Tuple}
    (hx : f.producer.given[(f.connector.endpoint i).position]? = some x) :
    received history i ++ [x] =
      f.producer.given.take ((f.connector.endpoint i).position + 1) := by
  obtain ⟨hlt, rfl⟩ := List.getElem?_eq_some_iff.mp hx
  rw [h.received_eq, List.take_append_getElem hlt]

/-- What endpoints did not get, and what the producer did not answer, changes nothing. -/
lemma congr {event : Move × Result (Option Tuple)} (h : Faithful history f)
    (hconnector : f'.connector = f.connector)
    (hanswers : f'.producer.answers = f.producer.answers) (hgain : ∀ i, gain i event = none) :
    Faithful (history ++ [event]) f' := by
  have hgiven : f'.producer.given = f.producer.given := by
    rw [Recorded.given, hanswers, Recorded.given]
  constructor
  · rw [hconnector]
    exact h.sane
  · rw [hconnector, hgiven]
    exact h.base_le
  · rw [hconnector, hgiven]
    exact h.buffer_eq
  · rw [hconnector, Recorded.Ended, hanswers]
    exact h.ended_iff
  · rw [hconnector, hgiven]
    exact h.position_le
  · intro i
    rw [received_concat, hgain, hconnector, hgiven, Option.toList_none, List.append_nil]
    exact h.received_eq i

/-! ### Changes of the connector -/

/-- Endpoints change, but not their positions. -/
lemma change {g : Endpoint → Endpoint} (h : Faithful history f)
    (hposition : ∀ e, (g e).position = e.position)
    (hsane : (f.connector.change i g).Sane) :
    Faithful history { f with connector := f.connector.change i g } := by
  have hget (j : Nat) : (f.connector.change i g).endpoints[j]? =
      f.connector.endpoints[j]?.map fun e => if i = j then g e else e := by
    rw [Connector.change, List.getElem?_modify]
    rfl
  refine ⟨hsane, h.base_le, h.buffer_eq, h.ended_iff, fun j e he => ?_, fun j => ?_⟩
  · rw [hget, Option.map_eq_some_iff] at he
    obtain ⟨old, hold, rfl⟩ := he
    have hle := h.position_le j old hold
    split_ifs
    · rwa [hposition]
    · exact hle
  · have hsame : ((f.connector.change i g).endpoint j).position =
        (f.connector.endpoint j).position := by
      rw [Connector.endpoint, hget, Connector.endpoint]
      rcases f.connector.endpoints[j]? with _ | e
      · rfl
      · simp only [Option.map_some, Option.getD_some]
        split_ifs
        · exact hposition e
        · rfl
    change received history j = f.producer.given.take _
    rw [hsame]
    exact h.received_eq j

lemma evict (h : Faithful history f) :
    Faithful history { f with connector := f.connector.evict } := by
  have hlength := congrArg List.length h.buffer_eq
  rw [List.length_drop] at hlength
  have hle := h.base_le
  refine ⟨h.sane.evict, ?_, ?_, h.ended_iff, h.position_le, h.received_eq⟩
  · simp only [Connector.evict]
    omega
  · simp only [Connector.evict]
    rw [h.buffer_eq, List.drop_drop]
    rcases Nat.le_total (f.connector.slowest?.getD f.connector.reach - f.connector.base)
      f.connector.buffer.length with hless | hmore
    · rw [← h.buffer_eq, Nat.min_eq_left hless]
    · rw [← h.buffer_eq, Nat.min_eq_right hmore, List.drop_eq_nil_of_le (by omega),
        List.drop_eq_nil_of_le (by omega)]

/-- A tuple that the producer gave is taken in. -/
lemma push {feed : υ} (h : Faithful history f) (x : Tuple) :
    Faithful history { f with
      producer := ⟨feed, f.producer.answers ++ [.ok (some x)]⟩
      connector := f.connector.push x } := by
  have hgiven : (⟨feed, f.producer.answers ++ [.ok (some x)]⟩ : Recorded υ).given =
      f.producer.given ++ [x] := by
    rw [Recorded.given, List.filterMap_append]
    rfl
  refine ⟨h.sane.push x, ?_, ?_, ?_, fun j e he => ?_, fun j => ?_⟩
  · rw [hgiven, List.length_append]
    exact Nat.le_add_right_of_le h.base_le
  · change f.connector.buffer ++ [x] = List.drop f.connector.base _
    rw [hgiven, List.drop_append_of_le_length h.base_le, ← h.buffer_eq]
  · change f.connector.ended = true ↔ .ok none ∈ f.producer.answers ++ [.ok (some x)]
    rw [h.ended_iff, Recorded.Ended]
    simp
  · rw [hgiven, List.length_append]
    exact Nat.le_add_right_of_le (h.position_le j e he)
  · change received history j = List.take (f.connector.endpoint j).position _
    rw [hgiven, h.received_eq]
    refine (List.take_append_of_le_length ?_).symm
    rw [Connector.endpoint]
    cases he : f.connector.endpoints[j]? with
    | none => exact Nat.zero_le _
    | some e => exact h.position_le j e he

/-- The producer answers something that is no tuple. -/
lemma answered {event : Move × Result (Option Tuple)} (h : Faithful history f) (feed : υ)
    (answer : Result (Option Tuple)) (ended : Bool)
    (hnone : ∀ x, answer ≠ .ok (some x))
    (hended : ended = true ↔ f.connector.ended = true ∨ answer = .ok none)
    (hgain : ∀ i, gain i event = none) :
    Faithful (history ++ [event]) { f with
      producer := ⟨feed, f.producer.answers ++ [answer]⟩
      connector := { f.connector with ended := ended } } := by
  have hgiven : (⟨feed, f.producer.answers ++ [answer]⟩ : Recorded υ).given =
      f.producer.given := by
    rw [Recorded.given, List.filterMap_append, Recorded.given]
    match answer with
    | .ok (some x) => exact (hnone x rfl).elim
    | .ok none => exact List.append_nil _
    | .error e => exact List.append_nil _
  refine ⟨h.sane, ?_, ?_, ?_, ?_, fun j => ?_⟩
  · rw [hgiven]
    exact h.base_le
  · rw [hgiven]
    exact h.buffer_eq
  · change ended = true ↔ .ok none ∈ f.producer.answers ++ [answer]
    rw [hended, h.ended_iff, List.mem_append, List.mem_singleton, eq_comm (a := answer)]
    rfl
  · rw [hgiven]
    exact h.position_le
  · rw [received_concat, hgain, hgiven, Option.toList_none, List.append_nil]
    exact h.received_eq j

lemma ahead_eq (h : Faithful history f) {e : Endpoint} (hbase : f.connector.base ≤ e.position) :
    f.connector.ahead e = f.producer.given.drop e.position := by
  rw [Connector.ahead, h.buffer_eq, List.drop_drop, Nat.add_sub_cancel' hbase]

/-- An endpoint reads the tuple at its position. -/
lemma advance {e : Endpoint} {x : Tuple} (h : Faithful history f)
    (he : f.connector.endpoints[i]? = some e) (hx : f.producer.given[e.position]? = some x)
    (hsane : (f.connector.change i fun e => { e with position := e.position + 1 }).Sane) :
    Faithful (history ++ [(.pull i, .ok (some x))])
      { f with connector := f.connector.advance i } := by
  have hget (j : Nat) : (f.connector.change i fun e =>
      { e with position := e.position + 1 }).endpoints[j]? = f.connector.endpoints[j]?.map
        fun e => if i = j then { e with position := e.position + 1 } else e := by
    rw [Connector.change, List.getElem?_modify]
    rfl
  have hread : Faithful (history ++ [(.pull i, .ok (some x))]) { f with
      connector := f.connector.change i fun e => { e with position := e.position + 1 } } := by
    refine ⟨hsane, h.base_le, h.buffer_eq, h.ended_iff, fun j e' he' => ?_, fun j => ?_⟩
    · rw [hget, Option.map_eq_some_iff] at he'
      obtain ⟨old, hold, rfl⟩ := he'
      split_ifs with hij
      · subst hij
        rw [he, Option.some.injEq] at hold
        subst hold
        exact (List.getElem?_eq_some_iff.mp hx).1
      · exact h.position_le j old hold
    · rw [received_concat, Connector.endpoint, hget]
      by_cases hij : i = j
      · subst hij
        rw [← Option.getD_some (a := e) (b := ({} : Endpoint)), ← he] at hx
        rw [he]
        simpa [gain, Connector.endpoint, he] using h.received_snoc hx
      · have hgain : gain j (.pull i, .ok (some x)) = none := by simp [gain, hij]
        rw [hgain, Option.toList_none, List.append_nil, h.received_eq, Connector.endpoint]
        simp only [hij, if_false, Option.map_id']
  exact hread.evict

end Faithful

/-! ### Single moves -/

section Moves

variable [Feed υ] {history : History} {f f' : Fanout (Recorded υ)} {i : Nat}

/-- What a move may do after a history: an endpoint comes to the end only when the producer did and
it has received everything; the producer is asked only for an endpoint that has received
everything, once at a time and never after its end; a pull that fails changes nothing, and if the
endpoint is open, it is the producer that failed. -/
structure Fair (history : History) (f : Fanout (Recorded υ)) (move : Move)
    (result : Result (Option Tuple)) (f' : Fanout (Recorded υ)) : Prop where
  ended : ∀ i, move = .pull i → result = .ok none →
    f'.producer.Ended ∧ received history i = f'.producer.given
  asked : f'.producer.answers = f.producer.answers ∨ ∃ i answer, move = .pull i ∧
    received history i = f.producer.given ∧ ¬f.producer.Ended ∧
    f'.producer.answers = f.producer.answers ++ [answer]
  failed : ∀ i e, move = .pull i → result = .error e →
    f'.connector = f.connector ∧ f'.producer.given = f.producer.given ∧
    ((f.connector.endpoint i).phase = .opened →
      f'.producer.answers = f.producer.answers ++ [.error e])

/-- A fair move after which the fan-out is faithful again. -/
def Good (history : History) (f : Fanout (Recorded υ)) (move : Move)
    (result : Result (Option Tuple)) (f' : Fanout (Recorded υ)) : Prop :=
  Faithful (history ++ [(move, result)]) f' ∧ Fair history f move result f'

omit [Feed υ] in
/-- Moves that are not pulls are good if they keep the positions and ask for nothing. -/
lemma good_of_answers_eq {move : Move} {result : Result (Option Tuple)}
    (hmove : ∀ i, move ≠ .pull i) (h : Faithful history f')
    (hanswers : f'.producer.answers = f.producer.answers) : Good history f move result f' := by
  refine ⟨h.congr rfl rfl fun i => ?_, fun i hi => (hmove i hi).elim, .inl hanswers,
    fun i _ hi => (hmove i hi).elim⟩
  match move with
  | .pull j => exact (hmove j rfl).elim
  | .take _ | .takeNext | .start _ | .stop _ => rfl

omit [Feed υ] in
lemma Faithful.take {c : Connector} (h : Faithful history f)
    (htake : f.connector.take i = .ok c) : Faithful history { f with connector := c } := by
  rw [Connector.take] at htake
  match he : f.connector.endpoints[i]? with
  | none => rw [he] at htake; cases htake
  | some e =>
    simp only [he] at htake
    split_ifs at htake
    cases htake
    exact h.change (fun _ => rfl) (h.sane.change fun e' he' hlive =>
      h.sane e' (List.mem_of_getElem? he') hlive)

/-- Handing out the first endpoint that is left is handing out an endpoint. -/
lemma exists_take_of_takeNext {c c' : Connector}
    (h : c.takeNext.map Prod.snd = .ok c') : ∃ index, c.take index = .ok c' := by
  rw [Connector.takeNext] at h
  match hfind : c.endpoints.findIdx? (!·.taken) with
  | none => rw [hfind] at h; cases h
  | some index =>
    rw [hfind] at h
    match htake : c.take index with
    | .error e =>
      simp only [htake] at h
      cases h
    | .ok c'' =>
      simp only [htake] at h
      cases h
      exact ⟨index, htake⟩

omit [Feed υ] in
lemma good_adjust {move : Move} {g : Connector → Result Connector}
    (hmove : ∀ i, move ≠ .pull i) (h : Faithful history f)
    (hg : ∀ c, g f.connector = .ok c → Faithful history { f with connector := c }) :
    (adjust g : Act (Fanout (Recorded υ)) _).After True f (Good history f move) := by
  refine after_get_bind.mpr (after_lift_bind.mpr ⟨fun e _ => ?_, fun c hc => ?_⟩)
  · exact good_of_answers_eq hmove h rfl
  · exact after_modify_bind.mpr (after_pure.mpr (good_of_answers_eq hmove (hg c hc) rfl))

omit [Feed υ] in
lemma after_ofProducer {a : Act υ Unit} (h : Faithful history f) :
    (ofProducer (Recorded.ofFeed a)).After True f fun _ f' =>
      Faithful history f' ∧ f'.producer.answers = f.producer.answers := by
  rw [after_iff]
  refine ⟨fun _ => trivial, fun result f' houtcome => ?_⟩
  rw [ofProducer, outcome_within, Recorded.ofFeed, outcome_within, Option.map_map,
    Option.map_eq_some_iff] at houtcome
  obtain ⟨⟨_, feed⟩, -, heq⟩ := houtcome
  cases heq
  exact ⟨⟨h.sane, h.base_le, h.buffer_eq, h.ended_iff, h.position_le, h.received_eq⟩, rfl⟩

lemma good_start (h : Faithful history f) :
    (perform (.start i)).After True f (Good history f (.start i)) := by
  have hstart : (startEndpoint i).After True f fun _ f' =>
      Faithful history f' ∧ f'.producer.answers = f.producer.answers := by
    refine after_get_bind.mpr (after_lift_bind.mpr ⟨fun _ _ => ⟨h, rfl⟩, fun c hc => ?_⟩)
    have hsane := h.sane.startEndpoint hc
    obtain ⟨-, rfl⟩ := Connector.startEndpoint_eq_ok_iff.mp hc
    have hopened :=
      h.change (i := i) (g := fun e => { e with phase := .opened }) (fun _ => rfl) hsane
    refine after_modify_bind.mpr ?_
    split_ifs
    · exact after_ofProducer
        ⟨hsane, h.base_le, h.buffer_eq, h.ended_iff, hopened.position_le, hopened.received_eq⟩
    · exact after_pure.mpr ⟨⟨hsane, h.base_le, h.buffer_eq, h.ended_iff, hopened.position_le,
        hopened.received_eq⟩, rfl⟩
  refine hstart.bind (fun _ f' h' => ?_) fun _ f' h' => after_pure.mpr ?_
  · exact good_of_answers_eq (fun _ => Move.noConfusion) h'.1 h'.2
  · exact good_of_answers_eq (fun _ => Move.noConfusion) h'.1 h'.2

lemma good_stop (h : Faithful history f) :
    (perform (.stop i)).After True f (Good history f (.stop i)) := by
  have hstop : (stopEndpoint i).After True f fun _ f' =>
      Faithful history f' ∧ f'.producer.answers = f.producer.answers := by
    refine after_get_bind.mpr (after_lift_bind.mpr ⟨fun _ _ => ⟨h, rfl⟩, fun c hc => ?_⟩)
    rw [Connector.stopEndpoint] at hc
    cases hphase : (f.connector.endpoint i).phase.stop f.connector.producer with
    | error e =>
      change ((f.connector.endpoint i).phase.stop f.connector.producer >>= _) = _ at hc
      rw [hphase] at hc
      cases hc
    | ok _ =>
      change ((f.connector.endpoint i).phase.stop f.connector.producer >>= _) = _ at hc
      rw [hphase] at hc
      cases hc
      have hclosed := (h.change (i := i) (g := fun e => { e with phase := .closed }) (fun _ => rfl)
        (h.sane.change fun _ _ hlive => by simp [Endpoint.isLive] at hlive)).evict
      refine after_modify_bind.mpr ?_
      split_ifs
      · exact after_ofProducer ⟨hclosed.sane, hclosed.base_le, hclosed.buffer_eq,
          hclosed.ended_iff, hclosed.position_le, hclosed.received_eq⟩
      · exact after_pure.mpr ⟨⟨hclosed.sane, hclosed.base_le, hclosed.buffer_eq,
          hclosed.ended_iff, hclosed.position_le, hclosed.received_eq⟩, rfl⟩
  refine hstop.bind (fun _ f' h' => ?_) fun _ f' h' => after_pure.mpr ?_
  · exact good_of_answers_eq (fun _ => Move.noConfusion) h'.1 h'.2
  · exact good_of_answers_eq (fun _ => Move.noConfusion) h'.1 h'.2

omit [Feed υ] in
/-- An open endpoint receives the tuple at its position. -/
lemma after_deliver {e : Endpoint} (h : Faithful history f)
    (he : f.connector.endpoints[i]? = some e) (hopen : e.phase = .opened)
    (hlt : e.position < f.connector.reach) :
    (seat.deliver i).After True f fun result f' =>
      (∃ x, result = .ok (some x)) ∧ Faithful (history ++ [(.pull i, result)]) f' ∧
        f'.producer.answers = f.producer.answers := by
  have hlive : e.isLive := by simp [Endpoint.isLive, hopen]
  obtain ⟨x, hread, hahead, hsane⟩ := h.sane.read he hlive hlt
  rw [h.ahead_eq (h.sane e (List.mem_of_getElem? he) hlive).1] at hahead
  have hx : f.producer.given[e.position]? = some x := by
    rw [← List.head?_drop, hahead, List.head?_cons]
  refine after_get_bind.mpr (after_lift_bind.mpr ⟨fun e' herror => ?_, fun given hgiven => ?_⟩)
  · cases hread.symm.trans herror
  · cases hread.symm.trans hgiven
    refine after_modify_bind.mpr (after_pure.mpr ⟨⟨x, rfl⟩, ?_, rfl⟩)
    have hadvanced := h.advance he hx hsane
    exact ⟨hadvanced.sane, hadvanced.base_le, hadvanced.buffer_eq, hadvanced.ended_iff,
      hadvanced.position_le, hadvanced.received_eq⟩

/-- The producer is asked for an endpoint that has received everything, and answers. -/
lemma good_ask {e : Endpoint} (h : Faithful history f)
    (he : f.connector.endpoints[i]? = some e) (hopen : e.phase = .opened)
    (hall : f.connector.reach ≤ e.position) (hnot : f.connector.ended ≠ true) :
    (ofProducer Feed.next : Act (Fanout (Recorded υ)) _).After True f
      (seat.Answered i True (Good history f (.pull i))) := by
  have hgiven : received history i = f.producer.given := by
    rw [h.received_eq_given_iff, Connector.endpoint_eq he, ← h.reach_eq]
    exact hall
  have hasked (answer : Result (Option Tuple)) : ∃ j given, Move.pull i = .pull j ∧
      received history j = f.producer.given ∧ ¬f.producer.Ended ∧
      f.producer.answers ++ [answer] = f.producer.answers ++ [given] :=
    ⟨i, answer, rfl, hgiven, fun hended => hnot (h.ended_iff.mpr hended), rfl⟩
  have hnext : (ofProducer Feed.next : Act (Fanout (Recorded υ)) _).After True f fun answer f' =>
      ∃ feed, f' = { f with producer := ⟨feed, f.producer.answers ++ [answer]⟩ } := by
    rw [after_iff]
    refine ⟨fun _ => trivial, fun answer f' houtcome => ?_⟩
    rw [ofProducer, outcome_within, Recorded.outcome_next, Option.map_map,
      Option.map_eq_some_iff] at houtcome
    obtain ⟨⟨_, feed⟩, -, heq⟩ := houtcome
    cases heq
    exact ⟨feed, rfl⟩
  refine hnext.mono ?_
  rintro (e' | given) _ ⟨feed, rfl⟩
  · refine ⟨h.answered feed (.error e') f.connector.ended (fun _ hx => by cases hx) (by simp)
      fun _ => rfl, (fun _ _ hr => by cases hr), .inr (hasked _), ?_⟩
    rintro j _ hj ⟨⟩
    refine ⟨rfl, ?_, fun _ => rfl⟩
    rw [Recorded.given, List.filterMap_append, Recorded.given]
    exact List.append_nil _
  · cases given with
    | some x =>
      refine (after_deliver (h.push x) he hopen ?_).mono ?_
      · change e.position < (f.connector.push x).reach
        rw [Connector.reach_push]
        have hle := h.position_le i e he
        rw [← h.reach_eq] at hle
        exact Nat.lt_succ_of_le hle
      · rintro result f' ⟨⟨y, rfl⟩, hfaithful, hanswers⟩
        refine ⟨hfaithful, (fun _ _ hr => by cases hr), .inr ?_, fun _ _ _ hr => by cases hr⟩
        rw [hanswers]
        exact hasked _
    | none =>
      refine ⟨h.answered feed (.ok none) true (fun _ hx => by cases hx) (by simp) fun _ => by
        rw [gain, ite_self], fun j hj _ => ?_, .inr (hasked _), fun _ _ _ hr => by cases hr⟩
      obtain rfl := Move.pull.inj hj
      refine ⟨List.mem_append_right _ (List.mem_singleton_self _), ?_⟩
      change received history i = Recorded.given ⟨feed, f.producer.answers ++ [.ok none]⟩
      rw [hgiven, Recorded.given, Recorded.given, List.filterMap_append]
      exact (List.append_nil _).symm

lemma good_pull (h : Faithful history f) :
    (perform (.pull i)).After True f (Good history f (.pull i)) := by
  refine Seat.after_pull (fun hphase => ?_)
    fun e (he : f.connector.endpoints[i]? = some e) hopen => ?_
  · refine ⟨h.congr rfl rfl fun _ => rfl, (fun _ _ hr => by cases hr), .inl rfl, ?_⟩
    rintro j _ hj -
    obtain rfl := Move.pull.inj hj
    exact ⟨rfl, rfl, fun hopen => (hphase hopen).elim⟩
  · split_ifs with hlt hended
    · refine (after_deliver h he hopen hlt).mono ?_
      rintro result f' ⟨⟨x, rfl⟩, hfaithful, hanswers⟩
      exact ⟨hfaithful, (fun _ _ hr => by cases hr), .inl hanswers, fun _ _ _ hr => by cases hr⟩
    · refine ⟨h.congr rfl rfl fun j => by rw [gain, ite_self], fun j hj _ => ?_,
        .inl rfl, fun _ _ _ hr => by cases hr⟩
      obtain rfl := Move.pull.inj hj
      refine ⟨h.ended_iff.mp hended, ?_⟩
      rw [h.received_eq_given_iff, Connector.endpoint_eq he, ← h.reach_eq]
      exact Nat.not_lt.mp hlt
    · exact good_ask h he hopen (Nat.not_lt.mp hlt) hended

/-- Every move is good after a history to which the fan-out is faithful. -/
theorem Faithful.good (h : Faithful history f) (move : Move) :
    (perform move).After True f (Good history f move) := by
  match move with
  | .take index =>
    exact good_adjust (g := fun c => c.take index) (fun _ => Move.noConfusion) h fun _ => h.take
  | .takeNext =>
    refine good_adjust (g := fun c => c.takeNext.map Prod.snd) (fun _ => Move.noConfusion) h ?_
    intro c hc
    obtain ⟨index, htake⟩ := exists_take_of_takeNext hc
    exact h.take htake
  | .start index => exact good_start h
  | .pull index => exact good_pull h
  | .stop index => exact good_stop h

end Moves

/-! ### Whole histories -/

section Plays

variable [Feed υ] {id : ConnectorId} {feed : υ} {n : Nat} {f₀ f : Fanout (Recorded υ)}
  {history : History}

lemma faithful_create (h : Fanout.create id (⟨feed, []⟩ : Recorded υ) n = .ok f₀) :
    Faithful [] f₀ := by
  rw [Fanout.create, Connector.create] at h
  split_ifs at h with hn
  · cases h
  · cases h
    have hzero (i : Nat) (e : Endpoint) (he : (List.replicate n ({} : Endpoint))[i]? = some e) :
        e.position = 0 := by
      rw [List.eq_of_mem_replicate (List.mem_of_getElem? he)]
    refine ⟨fun e he _ => ?_, Nat.le_refl 0, rfl, by simp [Recorded.Ended],
      fun i e he => (hzero i e he).le, fun i => by simp [received, Recorded.given]⟩
    rw [List.eq_of_mem_replicate he]
    exact ⟨Nat.le_refl 0, Nat.le_refl 0⟩

lemma Plays.faithful (h : Plays f₀ history f) (hnew : Faithful [] f₀) : Faithful history f := by
  induction h with
  | nil => exact hnew
  | snoc _ hmove ih => exact ((ih.good _).of_outcome hmove).1

/-- Whatever was done with a fan-out since it was made, each endpoint has received the first of
the tuples that the producer gave, in order, and every further move is fair. -/
theorem received_isPrefix_of_plays
    (hcreate : Fanout.create id (⟨feed, []⟩ : Recorded υ) n = .ok f₀)
    (hplays : Plays f₀ history f) :
    (∀ i, received history i <+: f.producer.given) ∧
      ∀ move result f', (perform move).outcome f = some (result, f') →
        Fair history f move result f' := by
  have hfaithful := hplays.faithful (faithful_create hcreate)
  refine ⟨fun i => ?_, fun move result f' hmove => ?_⟩
  · rw [hfaithful.received_eq]
    exact List.take_prefix ..
  · exact ((hfaithful.good move).of_outcome hmove).2

end Plays

/-! ### An endpoint handed out late -/

/-- The outcome of moves made one after the other, if each of them comes to an end. -/
def play [Feed υ] (f : Fanout υ) (history : History) :
    List Move → Option (History × Fanout υ)
  | [] => some (history, f)
  | move :: moves => do
    let (result, f) ← (perform move).outcome f
    play f (history ++ [(move, result)]) moves

lemma plays_of_play [Feed υ] {f₀ f f' : Fanout υ} {history history' : History} {moves : List Move}
    (h : play f history moves = some (history', f')) (hplays : Plays f₀ history f) :
    Plays f₀ history' f' := by
  induction moves generalizing f history with
  | nil =>
    cases h
    exact hplays
  | cons move moves ih =>
    obtain ⟨⟨result, f₁⟩, hmove, hrest⟩ := Option.bind_eq_some_iff.mp h
    exact ih hrest (.snoc hplays hmove)

/-- Two rows of numbers, of which the second one is refused when it is asked for first. -/
def numbers : Recorded (Faulty Rows) where
  feed :=
    { failNext := some 1
      feed :=
        { operator := "scan"
          schema := ⟨[⟨"n", .integer⟩], rfl⟩
          rest := [⟨⟨[⟨"n", .integer⟩], rfl⟩, [.integer 1], rfl⟩,
            ⟨⟨[⟨"n", .integer⟩], rfl⟩, [.integer 2], rfl⟩] } }

/-- The numbers with a connector in front of them. -/
def numbersFanout : Fanout (Recorded (Faulty Rows)) where
  producer := numbers
  connector := ⟨0, "scan", numbers.feed.feed.schema, [], 0, [{}, {}], false, false⟩
  metrics := .empty

/-- One endpoint meets the refusal and reads to the end. The other one is handed out only then,
and reads after the first one is closed. -/
def lateMoves : List Move :=
  [.takeNext, .start 0, .pull 0, .pull 0, .pull 0, .pull 0, .take 1, .stop 0, .start 1, .pull 1,
    .pull 1]

/-- The endpoint that was handed out late has received both numbers in the end, and the next time
it is pulled, it comes to the end as it should. -/
theorem late_received_isPrefix : ∃ history f,
    Fanout.create 0 numbers 2 = .ok numbersFanout ∧ Plays numbersFanout history f ∧
    received history 1 = numbers.feed.feed.rest ∧ received history 1 <+: f.producer.given ∧
    (∃ f', (perform (.pull 1)).outcome f = some (.ok none, f') ∧
      Fair history f (.pull 1) (.ok none) f') := by
  have hcreate : Fanout.create 0 numbers 2 = .ok numbersFanout := rfl
  obtain ⟨⟨history, f⟩, hplay⟩ := Option.isSome_iff_exists.mp
    (by decide +kernel : (play numbersFanout [] lateMoves).isSome = true)
  have hreads : (play numbersFanout [] lateMoves).any (fun out =>
      received out.1 1 = numbers.feed.feed.rest ∧
        ((perform (.pull 1)).outcome out.2).map (·.1.toOption) = some (some none)) = true := by
    decide +kernel
  rw [hplay] at hreads
  obtain ⟨hreceived, hend⟩ := of_decide_eq_true hreads
  obtain ⟨⟨result, f'⟩, hmove, hresult⟩ := Option.map_eq_some_iff.mp hend
  match result with
  | .ok answer =>
    cases hresult
    have hplays := plays_of_play hplay (.nil numbersFanout)
    obtain ⟨hinitial, hfair⟩ := received_isPrefix_of_plays hcreate hplays
    exact ⟨history, f, hcreate, hplays, hreceived, hinitial 1, f', hmove, hfair _ _ _ hmove⟩

end Fanout

end Dataflow
