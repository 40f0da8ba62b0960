import Dataflow.Proofs.Connector.Broadcast

/-!
# The producer behind open endpoints

The first endpoint that is opened opens the producer, and remembers that it did before it knows
whether the producer could be opened. So the producer is asked to open at most once. If it fails,
then the first endpoint fails along with it, while the others are opened without it, and pull it.

The calls of the producer are remembered beside it, which has no part in what happens.
-/

namespace Dataflow

open Act

variable {υ : Type}

/-- A call of a feed and what it answered. -/
inductive FeedCall where
  | start (result : Result Unit)
  | next (answer : Result (Option Tuple))
  | stop (result : Result Unit)

/-- What the calls to open answered, in order. -/
def openings (calls : List FeedCall) : List (Result Unit) :=
  calls.filterMap fun
    | .start result => some result
    | _ => none

lemma openings_append (calls calls' : List FeedCall) :
    openings (calls ++ calls') = openings calls ++ openings calls' :=
  List.filterMap_append

/-- A feed and the calls that it got so far, in order. -/
structure Watched (υ : Type) where
  feed : υ
  calls : List FeedCall := []

namespace Watched

/-- A call of the feed, which is remembered. -/
def watch {α : Type} (note : Result α → FeedCall) (a : Act υ α) : Act (Watched υ) α := do
  let answer ← (Act.within Watched.feed (fun feed r => { r with feed := feed }) a).attempt
  modify fun r => { r with calls := r.calls ++ [note answer] }
  answer

lemma outcome_watch {α : Type} (note : Result α → FeedCall) (a : Act υ α) (r : Watched υ) :
    (watch note a).outcome r = (a.outcome r.feed).map fun (answer, feed) =>
      (answer, ⟨feed, r.calls ++ [note answer]⟩) := by
  rw [watch, outcome_bind, outcome_attempt, outcome_within]
  rcases a.outcome r.feed with _ | ⟨answer, feed⟩ <;> rfl

instance [Feed υ] : Feed (Watched υ) where
  operator r := Feed.operator r.feed
  schema r := Feed.schema r.feed
  start := watch .start Feed.start
  next := watch .next Feed.next
  stop := watch .stop Feed.stop

end Watched

namespace Fanout

/-- A move opened an endpoint. -/
def Opens : Move × Result (Option Tuple) → Prop
  | (.start _, .ok _) => True
  | _ => False

/-- An answer to the call to open is passed on: if it is a failure, then an endpoint failed to open
with the same error. -/
def PassedOn (history : History) (answer : Result Unit) : Prop :=
  ∀ e, answer = .error e → ∃ i, (.start i, .error e) ∈ history

/-- The producer was asked to open exactly once, and its answer was passed on. -/
def OpenedOnce (history : History) (calls : List FeedCall) : Prop :=
  ∃ answer, openings calls = [answer] ∧ PassedOn history answer

lemma PassedOn.mono {history history' : History} {answer : Result Unit}
    (h : PassedOn history answer) (hsub : history ⊆ history') : PassedOn history' answer := by
  intro e he
  obtain ⟨i, hi⟩ := h e he
  exact ⟨i, hsub hi⟩

lemma OpenedOnce.append {history history' : History} {calls new : List FeedCall}
    (h : OpenedOnce history calls) (hsub : history ⊆ history') (hnew : openings new = []) :
    OpenedOnce history' (calls ++ new) := by
  obtain ⟨answer, hanswer, hpassed⟩ := h
  refine ⟨answer, ?_, hpassed.mono hsub⟩
  rw [openings_append, hanswer, hnew, List.append_nil]

/-- The producer is accounted for: until the connector says that it was asked to open, nothing came
of it; then it was asked exactly once, and nothing was pulled before. -/
structure Accounted (history : History) (f : Fanout (Watched υ)) : Prop where
  openings_of_idle : f.connector.started = false → openings f.producer.calls = []
  not_opens : f.connector.started = false → ∀ event ∈ history, ¬Opens event
  not_opened : f.connector.started = false → ∀ e ∈ f.connector.endpoints, e.phase ≠ .opened
  openedOnce : f.connector.started = true → OpenedOnce history f.producer.calls
  openedOnce_of_next : ∀ (n : Nat) answer, f.producer.calls[n]? = some (.next answer) →
    OpenedOnce history (f.producer.calls.take n)

namespace Accounted

variable {history history' : History} {f f' : Fanout (Watched υ)} {new : List FeedCall}
  {event : Move × Result (Option Tuple)}

/-- Whatever is called now, what was pulled so far was pulled after the producer was opened. -/
lemma openedOnce_of_next_append (h : Accounted history f) (hsub : history ⊆ history')
    (hcalls : f'.producer.calls = f.producer.calls ++ new)
    (hnew : ∀ (n : Nat) answer, new[n]? = some (.next answer) →
      OpenedOnce history' (f.producer.calls ++ new.take n)) (n : Nat)
    (answer : Result (Option Tuple))
    (hn : f'.producer.calls[n]? = some (.next answer)) :
    OpenedOnce history' (f'.producer.calls.take n) := by
  rw [hcalls] at hn ⊢
  rcases Nat.lt_or_ge n f.producer.calls.length with hlt | hle
  · rw [List.getElem?_append_left hlt] at hn
    rw [List.take_append_of_le_length hlt.le]
    have hold : OpenedOnce history' (f.producer.calls.take n ++ []) :=
      (h.openedOnce_of_next n answer hn).append hsub rfl
    rwa [List.append_nil] at hold
  · rw [List.getElem?_append_right hle] at hn
    rw [List.take_append, List.take_of_length_le hle]
    exact hnew _ answer hn

/-- Whatever is done without opening the producer: it is pulled, and endpoints are opened, only if
it was asked to open before. -/
lemma keep (h : Accounted history f) (hsub : history ⊆ history')
    (hstarted : f'.connector.started = f.connector.started)
    (hphases : f.connector.started = false → ∀ e' ∈ f'.connector.endpoints, e'.phase = .opened →
      ∃ e ∈ f.connector.endpoints, e.phase = .opened)
    (hcalls : f'.producer.calls = f.producer.calls ++ new) (hnew : openings new = [])
    (hnext : ∀ answer, .next answer ∈ new → f.connector.started = true)
    (hopens : ∀ x ∈ history', Opens x → x ∈ history ∨ f.connector.started = true) :
    Accounted history' f' := by
  constructor
  · intro hidle
    rw [hcalls, openings_append, h.openings_of_idle (hstarted ▸ hidle), hnew, List.append_nil]
  · intro hidle x hx hopened
    rcases hopens x hx hopened with hold | hbusy
    · exact h.not_opens (hstarted ▸ hidle) x hold hopened
    · rw [hstarted, hbusy] at hidle
      cases hidle
  · intro hidle e' he' hphase
    rw [hstarted] at hidle
    obtain ⟨e, he, hphase⟩ := hphases hidle e' he' hphase
    exact h.not_opened hidle e he hphase
  · intro hbusy
    rw [hcalls]
    exact (h.openedOnce (hstarted ▸ hbusy)).append hsub hnew
  · refine h.openedOnce_of_next_append hsub hcalls fun n answer hn => ?_
    refine (h.openedOnce (hnext answer (List.mem_of_getElem? hn))).append hsub ?_
    rw [openings, List.filterMap_eq_nil_iff] at hnew ⊢
    exact fun call hcall => hnew call (List.mem_of_mem_take hcall)

/-- One more move that opens no endpoint, and neither opens nor pulls the producer. -/
lemma idle (h : Accounted history f) (hopens : ¬Opens event)
    (hstarted : f'.connector.started = f.connector.started)
    (hphases : ∀ e' ∈ f'.connector.endpoints, e'.phase = .opened →
      ∃ e ∈ f.connector.endpoints, e.phase = .opened)
    (hcalls : f'.producer.calls = f.producer.calls) : Accounted (history ++ [event]) f' := by
  refine h.keep (List.subset_append_left ..) hstarted (fun _ => hphases)
    (hcalls.trans (List.append_nil _).symm) rfl (fun _ => List.not_mem_nil.elim)
    fun x hx hopened => ?_
  rcases List.mem_append.mp hx with hx | hx
  · exact .inl hx
  · exact (hopens (List.mem_singleton.mp hx ▸ hopened)).elim

lemma refused (h : Accounted history f) (hopens : ¬Opens event) :
    Accounted (history ++ [event]) f :=
  h.idle hopens rfl (fun e he hphase => ⟨e, he, hphase⟩) rfl

lemma length_openings_le (h : Accounted history f) : (openings f.producer.calls).length ≤ 1 := by
  cases hstarted : f.connector.started with
  | false => rw [h.openings_of_idle hstarted, List.length_nil]; exact Nat.zero_le 1
  | true =>
    obtain ⟨answer, hanswer, -⟩ := h.openedOnce hstarted
    rw [hanswer, List.length_singleton]

end Accounted

lemma exists_opened_of_change {c : Connector} {i : Nat} {g : Endpoint → Endpoint}
    (hg : ∀ e, (g e).phase = .opened → e.phase = .opened) :
    ∀ e' ∈ (c.change i g).endpoints, e'.phase = .opened →
      ∃ e ∈ c.endpoints, e.phase = .opened := by
  intro e' he' hphase
  obtain ⟨j, hj⟩ := List.mem_iff_getElem?.mp he'
  simp only [Connector.change, List.getElem?_modify, Option.map_eq_map,
    Option.map_eq_some_iff] at hj
  obtain ⟨e, he, rfl⟩ := hj
  refine ⟨e, List.mem_of_getElem? he, ?_⟩
  split_ifs at hphase
  · exact hg e hphase
  · exact hphase

section Moves

variable {history : History} {f : Fanout (Watched υ)} {i : Nat}

lemma after_watch {α : Type} {note : Result α → FeedCall} {a : Act υ α}
    {goal : Result α → Fanout (Watched υ) → Prop} (h : ∀ answer feed, goal answer
      { f with producer := ⟨feed, f.producer.calls ++ [note answer]⟩ }) :
    (ofProducer (Watched.watch note a)).After True f goal := by
  rw [after_iff]
  refine ⟨fun _ => trivial, fun answer f' houtcome => ?_⟩
  rw [ofProducer, outcome_within, Watched.outcome_watch, Option.map_map,
    Option.map_eq_some_iff] at houtcome
  obtain ⟨⟨_, feed⟩, -, heq⟩ := houtcome
  cases heq
  exact h answer feed

lemma accounted_adjust {move : Move} {g : Connector → Result Connector} (h : Accounted history f)
    (hmove : ∀ result, ¬Opens (move, result))
    (hg : ∀ c, g f.connector = .ok c → ∃ index, f.connector.take index = .ok c) :
    (adjust g : Act (Fanout (Watched υ)) _).After True f fun result f' =>
      Accounted (history ++ [(move, result)]) f' := by
  refine after_get_bind.mpr (after_lift_bind.mpr ⟨fun e _ => h.refused (hmove _), fun c hc => ?_⟩)
  obtain ⟨index, htake⟩ := hg c hc
  refine after_modify_bind.mpr (after_pure.mpr ?_)
  rw [Connector.take] at htake
  split at htake
  · cases htake
  · split_ifs at htake
    cases htake
    exact h.idle (hmove _) rfl (exists_opened_of_change fun _ => id) rfl

lemma accounted_deliver (h : Accounted history f) :
    (seat.deliver i : Act (Fanout (Watched υ)) _).After True f fun result f' =>
      Accounted (history ++ [(.pull i, result)]) f' := by
  refine after_get_bind.mpr (after_lift_bind.mpr
    ⟨fun e _ => h.refused id, fun ⟨x, con⟩ hread => ?_⟩)
  obtain ⟨-, rfl⟩ := Connector.read_eq_ok hread
  exact after_modify_bind.mpr (after_pure.mpr (h.idle id rfl
    (exists_opened_of_change fun _ => id) rfl))

variable [Feed υ]

/-- The first endpoint that is opened opens the producer, and fails if this one does. -/
lemma accounted_start (h : Accounted history f) :
    (perform (.start i)).After True f fun result f' =>
      Accounted (history ++ [(.start i, result)]) f' := by
  have hstart : (startEndpoint i).After True f fun result f' =>
      Accounted (history ++ [(.start i, result.map fun _ => none)]) f' := by
    refine after_get_bind.mpr (after_lift_bind.mpr ⟨fun e _ => h.refused id, fun c hc => ?_⟩)
    have hbusy : c.started = true := by
      obtain ⟨-, rfl⟩ := Connector.startEndpoint_eq_ok_iff.mp hc
      rfl
    have hidle : ¬c.started = false := by simp [hbusy]
    refine after_modify_bind.mpr ?_
    change (if !f.connector.started then _ else _ : Act (Fanout (Watched υ)) Unit).After True
      { f with connector := c } _
    split_ifs with hfirst
    · rw [Bool.not_eq_true'] at hfirst
      refine after_watch fun answer feed => ⟨fun h' => (hidle h').elim, fun h' => (hidle h').elim,
        fun h' => (hidle h').elim, fun _ => ⟨answer, ?_, ?_⟩, ?_⟩
      · rw [openings_append, h.openings_of_idle hfirst]
        rfl
      · rintro e rfl
        exact ⟨i, List.mem_append_right _ (List.mem_singleton_self _)⟩
      · refine h.openedOnce_of_next_append (List.subset_append_left ..) rfl
          fun n _ hn => ?_
        have hmem := List.mem_of_getElem? hn
        simp at hmem
    · have hold : f.connector.started = true := by simpa using hfirst
      exact after_pure.mpr (h.keep (List.subset_append_left ..) (hbusy.trans hold.symm)
        (by simp [hold]) (List.append_nil _).symm rfl (fun _ => List.not_mem_nil.elim)
        fun _ _ _ => .inr hold)
  exact hstart.bind (fun _ _ => id) fun _ _ h' => after_pure.mpr h'

/-- An open endpoint may pull the producer. -/
lemma accounted_pull (h : Accounted history f) :
    (perform (.pull i)).After True f fun result f' =>
      Accounted (history ++ [(.pull i, result)]) f' := by
  refine Seat.after_pull (fun _ => h.refused id) fun e he hopen => ?_
  have hbusy : f.connector.started = true := by
    by_contra hnot
    exact h.not_opened (by simpa using hnot) e (List.mem_of_getElem? he) hopen
  split_ifs
  · exact accounted_deliver h
  · exact h.refused id
  · have hasked {history' : History} {f' : Fanout (Watched υ)} {answer : Result (Option Tuple)}
        (hsub : history ⊆ history') (hconnector : f'.connector.started = f.connector.started)
        (hcalls : f'.producer.calls = f.producer.calls ++ [.next answer]) : Accounted history' f' :=
      h.keep hsub hconnector (by simp [hbusy]) hcalls rfl (fun _ _ => hbusy) fun _ _ _ => .inr hbusy
    have hnext : (ofProducer Feed.next : Act (Fanout (Watched υ)) _).After True f fun answer f' =>
        ∃ feed, f' = { f with producer := ⟨feed, f.producer.calls ++ [.next answer]⟩ } :=
      after_watch fun _ feed => ⟨feed, rfl⟩
    refine hnext.mono ?_
    rintro (e | given) _ ⟨feed, rfl⟩
    · exact hasked (List.subset_append_left ..) rfl rfl
    · cases given with
      | some x => exact accounted_deliver (hasked (List.Subset.refl _) rfl rfl)
      | none => exact hasked (List.subset_append_left ..) rfl rfl

lemma accounted_stop (h : Accounted history f) :
    (perform (.stop i)).After True f fun result f' =>
      Accounted (history ++ [(.stop i, result)]) f' := by
  have hstop : (stopEndpoint i).After True f fun result f' =>
      Accounted (history ++ [(.stop i, result.map fun _ => none)]) f' := by
    refine after_get_bind.mpr (after_lift_bind.mpr ⟨fun e _ => h.refused id, fun c hc => ?_⟩)
    obtain ⟨hstarted, hphases⟩ : c.started = f.connector.started ∧ ∀ e' ∈ c.endpoints,
        e'.phase = .opened → ∃ e ∈ f.connector.endpoints, e.phase = .opened := by
      obtain ⟨-, rfl⟩ := Connector.stopEndpoint_eq_ok_iff.mp hc
      exact ⟨rfl, exists_opened_of_change fun _ => Phase.noConfusion⟩
    refine after_modify_bind.mpr ?_
    split_ifs
    · refine after_watch fun answer feed => h.keep
        (List.subset_append_left ..) hstarted (fun _ => hphases) rfl rfl (by simp)
        fun x hx hopens => ?_
      rcases List.mem_append.mp hx with hx | hx
      · exact .inl hx
      · rw [List.mem_singleton.mp hx] at hopens
        cases hopens
    · exact after_pure.mpr (h.idle id hstarted hphases rfl)
  exact hstop.bind (fun _ _ => id) fun _ _ h' => after_pure.mpr h'

/-- Every move keeps account of the producer. -/
theorem Accounted.perform (h : Accounted history f) (move : Move) :
    (perform move).After True f fun result f' => Accounted (history ++ [(move, result)]) f' := by
  match move with
  | .take index =>
    exact accounted_adjust (g := fun c => c.take index) h (fun _ => id) fun c hc => ⟨index, hc⟩
  | .takeNext =>
    exact accounted_adjust (g := fun c => c.takeNext.map Prod.snd) h (fun _ => id)
      fun c => exists_take_of_takeNext
  | .start _ => exact accounted_start h
  | .pull _ => exact accounted_pull h
  | .stop _ => exact accounted_stop h

end Moves

section Plays

variable [Feed υ] {id : ConnectorId} {feed : υ} {n : Nat} {f₀ f : Fanout (Watched υ)}
  {history : History}

lemma accounted_create (h : Fanout.create id (⟨feed, []⟩ : Watched υ) n = .ok f₀) :
    Accounted [] f₀ := by
  rw [Fanout.create, Connector.create] at h
  split_ifs at h
  · cases h
  · cases h
    refine ⟨fun _ => rfl, fun _ _ => List.not_mem_nil.elim, fun _ e he => ?_,
      Bool.noConfusion, fun _ _ h => by cases h⟩
    rw [List.eq_of_mem_replicate he]
    exact Phase.noConfusion

lemma Plays.accounted (h : Plays f₀ history f) (hnew : Accounted [] f₀) : Accounted history f := by
  induction h with
  | nil => exact hnew
  | snoc _ hmove ih => exact (ih.perform _).of_outcome hmove

/-- Whatever was done with a fan-out since it was made: the producer was asked to open at most
once. If an endpoint was opened, it was asked exactly once, and unless it succeeded, an endpoint
failed to open with its error. The same holds at each time when the producer was pulled. -/
theorem opened_once_of_plays
    (hcreate : Fanout.create id (⟨feed, []⟩ : Watched υ) n = .ok f₀)
    (hplays : Plays f₀ history f) :
    (openings f.producer.calls).length ≤ 1 ∧
      ((∃ event ∈ history, Opens event) → OpenedOnce history f.producer.calls) ∧
      ∀ (n : Nat) answer, f.producer.calls[n]? = some (.next answer) →
        OpenedOnce history (f.producer.calls.take n) := by
  have haccounted := hplays.accounted (accounted_create hcreate)
  refine ⟨haccounted.length_openings_le, ?_, haccounted.openedOnce_of_next⟩
  rintro ⟨event, hevent, hopens⟩
  cases hstarted : f.connector.started with
  | false => exact (haccounted.not_opens hstarted event hevent hopens).elim
  | true => exact haccounted.openedOnce hstarted

end Plays

/-- The numbers, which cannot be opened. -/
def shutNumbers : Watched (Faulty Rows) where
  feed := { feed := numbers.feed.feed, failStart := true }

/-- They are behind a connector with two endpoints. -/
def shutFanout : Fanout (Watched (Faulty Rows)) :=
  { numbersFanout with producer := shutNumbers }

/-- Both endpoints are opened, and the second one is pulled. -/
def shutMoves : List Move :=
  [.takeNext, .takeNext, .start 0, .start 1, .pull 1]

lemma exists_plays_shut : ∃ history f e answer, Plays shutFanout history f ∧
    (.start 1, .ok none) ∈ history ∧ openings f.producer.calls = [.error e] ∧
    f.producer.calls[1]? = some (.next answer) := by
  have hplays {history : History} {f : Fanout (Watched (Faulty Rows))}
      (h : play shutFanout [] shutMoves = some (history, f)) : Plays shutFanout history f :=
    plays_of_play h (.nil shutFanout)
  exact ⟨_, _, _, _, hplays rfl, by decide, rfl, rfl⟩

/-- The second endpoint is opened although the producer failed to open, and the producer is pulled
for it. -/
theorem second_opens_on_shut_producer : ∃ history f e,
    Fanout.create 0 shutNumbers 2 = .ok shutFanout ∧ Plays shutFanout history f ∧
    (.start 1, .ok none) ∈ history ∧ openings f.producer.calls = [.error e] ∧
    ∃ answer, f.producer.calls[1]? = some (.next answer) := by
  obtain ⟨history, f, e, answer, hplays, hopened, hfailed, hpulled⟩ := exists_plays_shut
  exact ⟨history, f, e, rfl, hplays, hopened, hfailed, answer, hpulled⟩

/-- The producer was opened once even so, and what it failed with is what the first endpoint failed
with. -/
theorem first_fails_on_shut_producer : ∃ history f,
    Fanout.create 0 shutNumbers 2 = .ok shutFanout ∧ Plays shutFanout history f ∧
    (∃ event ∈ history, Opens event) ∧ OpenedOnce history f.producer.calls ∧
    OpenedOnce history (f.producer.calls.take 1) := by
  have hcreate : Fanout.create 0 shutNumbers 2 = .ok shutFanout := rfl
  obtain ⟨history, f, -, answer, hplays, hopened, -, hpulled⟩ := exists_plays_shut
  obtain ⟨-, honce, hnext⟩ := opened_once_of_plays hcreate hplays
  have hopens : ∃ event ∈ history, Opens event := ⟨_, hopened, trivial⟩
  exact ⟨history, f, hcreate, hplays, hopens, honce hopens, hnext 1 answer hpulled⟩

end Fanout

end Dataflow
