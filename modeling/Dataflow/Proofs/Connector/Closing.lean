import Dataflow.Proofs.Connector.Upstream

/-!
# The last endpoint closes the producer

However the endpoints of a connector are handed out, opened, pulled and closed, the producer is
closed once, by the close of the last endpoint, and is not called any more after that. An endpoint
counts from the start, so one that nobody asked for keeps the producer from being closed.

Only an endpoint that was handed out can be opened, pulled and closed.
-/

namespace Dataflow

open Act

variable {υ : Type}

/-- What the calls to close answered, in order. -/
def closings (calls : List FeedCall) : List (Result Unit) :=
  calls.filterMap fun
    | .stop result => some result
    | _ => none

lemma closings_append (calls calls' : List FeedCall) :
    closings (calls ++ calls') = closings calls ++ closings calls' :=
  List.filterMap_append

lemma Connector.isLive_eq_false_iff_getElem? {c : Connector} :
    c.isLive = false ↔ ∀ (i : Nat) e, c.endpoints[i]? = some e → e.phase = .closed := by
  rw [isLive, List.any_eq_false]
  simp only [List.mem_iff_getElem?, Endpoint.isLive, bne_iff_ne, ne_eq, not_not]
  constructor
  · intro h i e he
    exact h e ⟨i, he⟩
  · rintro h e ⟨i, he⟩
    exact h i e he

namespace Fanout

/-! ### Moves by handles -/

/-- A move that can be made: what is done with an endpoint is done after it was handed out. -/
def Held (f : Fanout υ) : Move → Prop
  | .take _ | .takeNext => True
  | .start i | .pull i | .stop i => (f.connector.endpoint i).taken = true

/-- A fan-out comes out of another one by moves that can be made. -/
inductive Holds [Feed υ] : Fanout υ → History → Fanout υ → Prop
  | nil (f : Fanout υ) : Holds f [] f
  | snoc {f₀ f f' : Fanout υ} {history : History} {move : Move} {result : Result (Option Tuple)}
    (hholds : Holds f₀ history f) (hheld : Held f move)
    (hmove : (perform move).outcome f = some (result, f')) :
    Holds f₀ (history ++ [(move, result)]) f'

lemma Holds.plays [Feed υ] {f₀ f : Fanout υ} {history : History} (h : Holds f₀ history f) :
    Plays f₀ history f := by
  induction h with
  | nil => exact .nil _
  | snoc _ _ hmove ih => exact .snoc ih hmove

/-- An endpoint was asked to close, which closes it if it was not closed before. -/
def Closed (history : History) (i : Nat) : Prop :=
  .stop i ∈ history.map Prod.fst

lemma closed_concat {history : History} {move : Move} {result : Result (Option Tuple)} {i : Nat} :
    Closed (history ++ [(move, result)]) i ↔ Closed history i ∨ move = .stop i := by
  simp only [Closed, List.map_append, List.map_singleton, List.mem_append, List.mem_singleton,
    eq_comm]

/-! ### Closing -/

/-- The endpoints are closed that were asked to, and none was opened or closed before it was handed
out. As long as one is not closed, the producer is not closed either; then it was closed once, and
last of all. -/
structure Shut (n : Nat) (history : History) (f : Fanout (Watched υ)) : Prop where
  size_eq : f.connector.size = n
  closed_iff : ∀ (i : Nat) e, f.connector.endpoints[i]? = some e →
    (e.phase = .closed ↔ Closed history i)
  taken : ∀ e ∈ f.connector.endpoints, e.phase ≠ .unopened → e.taken = true
  closings_of_live : f.connector.isLive → closings f.producer.calls = []
  last_of_closed : f.connector.isLive = false → ∃ before answer,
    f.producer.calls = before ++ [.stop answer] ∧ closings before = []

section Steps

variable {n : Nat} {history history' : History} {f f' : Fanout (Watched υ)} {i : Nat}
  {event : Move × Result (Option Tuple)} {new : List FeedCall}

namespace Shut

lemma exists_endpoint (h : Shut n history f) (hi : i < n) :
    ∃ e, f.connector.endpoints[i]? = some e := by
  have hlt : i < f.connector.endpoints.length := lt_of_lt_of_eq hi h.size_eq.symm
  exact ⟨_, List.getElem?_eq_getElem hlt⟩

lemma isLive_eq_false_iff (h : Shut n history f) :
    f.connector.isLive = false ↔ ∀ i < n, Closed history i := by
  rw [Connector.isLive_eq_false_iff_getElem?]
  constructor
  · intro hall i hi
    obtain ⟨e, he⟩ := h.exists_endpoint hi
    exact (h.closed_iff i e he).mp (hall i e he)
  · intro hall i e he
    have hi : i < f.connector.size := (List.getElem?_eq_some_iff.mp he).1
    exact (h.closed_iff i e he).mpr (hall i (h.size_eq ▸ hi))

/-- One endpoint changes, but none is closed: the producer is called only if it is not closed. -/
lemma change {g : Endpoint → Endpoint} (h : Shut n history f)
    (hhistory : ∀ j, Closed history' j ↔ Closed history j)
    (hendpoints : f'.connector.endpoints = f.connector.endpoints.modify i g)
    (hphase : ∀ e, f.connector.endpoints[i]? = some e →
      ((g e).phase = .closed ↔ e.phase = .closed))
    (htaken : ∀ e, f.connector.endpoints[i]? = some e → (e.phase ≠ .unopened → e.taken = true) →
      (g e).phase ≠ .unopened → (g e).taken = true)
    (hcalls : f'.producer.calls = f.producer.calls ++ new) (hnew : closings new = [])
    (hidle : f.connector.isLive = false → new = []) : Shut n history' f' := by
  have hget (j : Nat) : f'.connector.endpoints[j]? =
      f.connector.endpoints[j]?.map fun e => if i = j then g e else e := by
    rw [hendpoints, List.getElem?_modify]
    rfl
  have hclosed (j : Nat) (e : Endpoint) (he : f.connector.endpoints[j]? = some e) :
      (if i = j then g e else e).phase = .closed ↔ e.phase = .closed := by
    split_ifs with hij
    · exact hphase e (hij ▸ he)
    · exact Iff.rfl
  have hlive : f'.connector.isLive = f.connector.isLive := by
    rw [Bool.eq_iff_iff, ← not_iff_not, Bool.not_eq_true, Bool.not_eq_true,
      Connector.isLive_eq_false_iff_getElem?, Connector.isLive_eq_false_iff_getElem?]
    simp only [hget, Option.map_eq_some_iff]
    constructor
    · exact fun hall j e he => (hclosed j e he).mp (hall j _ ⟨e, he, rfl⟩)
    · rintro hall j _ ⟨e, he, rfl⟩
      exact (hclosed j e he).mpr (hall j e he)
  constructor
  · rw [Connector.size, hendpoints, List.length_modify]
    exact h.size_eq
  · intro j e' he'
    rw [hget, Option.map_eq_some_iff] at he'
    obtain ⟨e, he, rfl⟩ := he'
    rw [hclosed j e he, hhistory, h.closed_iff j e he]
  · intro e' he'
    obtain ⟨j, hj⟩ := List.mem_iff_getElem?.mp he'
    rw [hget, Option.map_eq_some_iff] at hj
    obtain ⟨e, he, rfl⟩ := hj
    have hold := h.taken e (List.mem_of_getElem? he)
    split_ifs with hij
    · exact htaken e (hij ▸ he) hold
    · exact hold
  · intro hbusy
    rw [hcalls, closings_append, h.closings_of_live (hlive ▸ hbusy), hnew, List.append_nil]
  · intro hdone
    rw [hlive] at hdone
    rw [hcalls, hidle hdone, List.append_nil]
    exact h.last_of_closed hdone

lemma called (h : Shut n history f) (hhistory : ∀ j, Closed history' j ↔ Closed history j)
    (hendpoints : f'.connector.endpoints = f.connector.endpoints)
    (hcalls : f'.producer.calls = f.producer.calls ++ new) (hnew : closings new = [])
    (hidle : f.connector.isLive = false → new = []) : Shut n history' f' := by
  refine h.change (i := 0) (g := id) hhistory ?_ (fun _ _ => Iff.rfl) (fun _ _ => id) hcalls hnew
    hidle
  rw [hendpoints, List.modify_id]

lemma congr (h : Shut n history f) (hhistory : ∀ j, Closed history' j ↔ Closed history j) :
    Shut n history' f :=
  h.called hhistory rfl (List.append_nil _).symm rfl fun _ => rfl

/-- An endpoint that was not closed is closed, and the producer along with the last one. -/
lemma close {e : Endpoint} {c : Connector} {answer : Result Unit} (h : Shut n history f)
    (hhistory : ∀ j, Closed history' j ↔ Closed history j ∨ j = i)
    (he : f.connector.endpoints[i]? = some e) (hopen : e.phase ≠ .closed)
    (htaken : e.taken = true) (hconnector : f'.connector = c)
    (hendpoints : c.endpoints =
      f.connector.endpoints.modify i fun e => { e with phase := .closed })
    (hcalls : f'.producer.calls =
      if !c.isLive then f.producer.calls ++ [.stop answer] else f.producer.calls) :
    Shut n history' f' := by
  have hget (j : Nat) : c.endpoints[j]? =
      f.connector.endpoints[j]?.map fun e => if i = j then { e with phase := .closed } else e := by
    rw [hendpoints, List.getElem?_modify]
    rfl
  have hlive : f.connector.isLive = true := by
    by_contra hdone
    rw [Bool.not_eq_true, Connector.isLive_eq_false_iff_getElem?] at hdone
    exact hopen (hdone i e he)
  subst hconnector
  constructor
  · rw [Connector.size, hendpoints, List.length_modify]
    exact h.size_eq
  · intro j e' he'
    rw [hget, Option.map_eq_some_iff] at he'
    obtain ⟨old, hold, rfl⟩ := he'
    rw [hhistory, ← h.closed_iff j old hold]
    by_cases hij : i = j
    · simp [hij]
    · simp [hij, Ne.symm hij]
  · intro e' he'
    obtain ⟨j, hj⟩ := List.mem_iff_getElem?.mp he'
    rw [hget, Option.map_eq_some_iff] at hj
    obtain ⟨old, hold, rfl⟩ := hj
    split_ifs with hij
    · subst hij
      obtain rfl := Option.some.inj (he.symm.trans hold)
      exact fun _ => htaken
    · exact h.taken old (List.mem_of_getElem? hold)
  · intro hbusy
    rw [hcalls, hbusy]
    exact h.closings_of_live hlive
  · intro hdone
    refine ⟨f.producer.calls, answer, ?_, h.closings_of_live hlive⟩
    rw [hcalls, hdone]
    rfl

lemma eq_nil_of_closed (h : Shut n history f) (h' : Shut n history' f')
    (hall : ∀ i < n, Closed history i) (hall' : ∀ i < n, Closed history' i)
    (hcalls : f'.producer.calls = f.producer.calls ++ new) : new = [] := by
  obtain ⟨before, answer, hbefore, -⟩ := h.last_of_closed (h.isLive_eq_false_iff.mpr hall)
  obtain ⟨before', answer', hbefore', hnone⟩ := h'.last_of_closed (h'.isLive_eq_false_iff.mpr hall')
  rcases List.eq_nil_or_concat new with hnil | ⟨calls, call, rfl⟩
  · exact hnil
  · rw [hbefore, hbefore', List.concat_eq_append, ← List.append_assoc] at hcalls
    rw [(List.append_inj' hcalls rfl).1, closings_append, closings_append] at hnone
    simp [closings] at hnone

end Shut

/-! ### Single moves -/

/-- A move keeps account of what is closed, and forgets no call of the producer. -/
def Goes (n : Nat) (history : History) (f : Fanout (Watched υ)) (move : Move)
    (result : Result (Option Tuple)) (f' : Fanout (Watched υ)) : Prop :=
  Shut n (history ++ [(move, result)]) f' ∧ f.producer.calls <+: f'.producer.calls

lemma closed_concat_of_ne {move : Move} {result : Result (Option Tuple)}
    (hmove : ∀ i, move ≠ .stop i) (j : Nat) :
    Closed (history ++ [(move, result)]) j ↔ Closed history j := by
  rw [closed_concat, or_iff_left (hmove j)]

lemma exists_of_taken {c : Connector} (h : (c.endpoint i).taken = true) :
    ∃ e, c.endpoints[i]? = some e ∧ e.taken = true ∧ c.endpoint i = e := by
  rw [Connector.endpoint] at h ⊢
  cases he : c.endpoints[i]? with
  | none => rw [he] at h; cases h
  | some e => rw [he] at h; exact ⟨e, rfl, h, rfl⟩

lemma isLive_of_getElem? {c : Connector} {e : Endpoint} (he : c.endpoints[i]? = some e)
    (hopen : e.phase ≠ .closed) : c.isLive = true := by
  by_contra hdone
  rw [Bool.not_eq_true, Connector.isLive_eq_false_iff_getElem?] at hdone
  exact hopen (hdone i e he)

lemma goes_adjust {move : Move} {g : Connector → Result Connector} (h : Shut n history f)
    (hmove : ∀ i, move ≠ .stop i)
    (hg : ∀ c, g f.connector = .ok c → ∃ index, f.connector.take index = .ok c) :
    (adjust g : Act (Fanout (Watched υ)) _).After True f (Goes n history f move) := by
  refine after_get_bind.mpr (after_lift_bind.mpr ⟨fun e _ => ?_, fun c hc => ?_⟩)
  · exact ⟨h.congr (closed_concat_of_ne hmove), List.prefix_rfl⟩
  · obtain ⟨index, htake⟩ := hg c hc
    refine after_modify_bind.mpr (after_pure.mpr ⟨?_, List.prefix_rfl⟩)
    rw [Connector.take] at htake
    split at htake
    · cases htake
    · split_ifs at htake
      cases htake
      exact h.change (closed_concat_of_ne hmove) rfl (fun _ _ => Iff.rfl) (fun _ _ _ _ => rfl)
        (List.append_nil _).symm rfl fun _ => rfl

lemma goes_deliver {f₀ : Fanout (Watched υ)} (h : Shut n history f)
    (hcalls : f₀.producer.calls <+: f.producer.calls) :
    (seat.deliver i).After True f (Goes n history f₀ (.pull i)) := by
  refine after_get_bind.mpr (after_lift_bind.mpr ⟨fun e _ => ?_, fun ⟨x, con⟩ hread => ?_⟩)
  · exact ⟨h.congr (closed_concat_of_ne fun _ => Move.noConfusion), hcalls⟩
  · obtain ⟨-, rfl⟩ := Connector.read_eq_ok hread
    refine after_modify_bind.mpr (after_pure.mpr ⟨?_, hcalls⟩)
    exact h.change (closed_concat_of_ne fun _ => Move.noConfusion) rfl (fun _ _ => Iff.rfl)
      (fun _ _ => id) (List.append_nil _).symm rfl fun _ => rfl

variable [Feed υ]

lemma goes_start (h : Shut n history f) (hheld : Held f (.start i)) :
    (perform (.start i)).After True f (Goes n history f (.start i)) := by
  have hstart : (startEndpoint i).After True f fun _ f' =>
      Shut n history f' ∧ f.producer.calls <+: f'.producer.calls := by
    refine after_get_bind.mpr (after_lift_bind.mpr ⟨fun _ _ => ⟨h, List.prefix_rfl⟩,
      fun c hc => ?_⟩)
    obtain ⟨e, he, htaken, hendpoint⟩ := exists_of_taken hheld
    obtain ⟨hunopened, rfl⟩ := Connector.startEndpoint_eq_ok_iff.mp hc
    replace hunopened : e.phase = .unopened := hendpoint ▸ hunopened
    have hlive : f.connector.isLive = true :=
      isLive_of_getElem? he fun hclosed => by rw [hunopened] at hclosed; cases hclosed
    have hopened {f' : Fanout (Watched υ)} {new : List FeedCall}
        (hendpoints : f'.connector.endpoints =
          f.connector.endpoints.modify i fun e => { e with phase := .opened })
        (hcalls : f'.producer.calls = f.producer.calls ++ new) (hnew : closings new = []) :
        Shut n history f' ∧ f.producer.calls <+: f'.producer.calls := by
      refine ⟨h.change (fun _ => Iff.rfl) hendpoints (fun e' he' => ?_) (fun e' he' _ _ => ?_)
        hcalls hnew ?_, hcalls ▸ List.prefix_append ..⟩
      · obtain rfl := Option.some.inj (he.symm.trans he')
        simp [hunopened]
      · obtain rfl := Option.some.inj (he.symm.trans he')
        exact htaken
      · rw [hlive]
        exact Bool.noConfusion
    refine after_modify_bind.mpr ?_
    split_ifs
    · exact after_watch fun answer feed => hopened rfl rfl rfl
    · exact after_pure.mpr (hopened rfl (List.append_nil _).symm rfl)
  have hmove (result : Result (Option Tuple)) (f' : Fanout (Watched υ))
      (h' : Shut n history f' ∧ f.producer.calls <+: f'.producer.calls) :
      Goes n history f (.start i) result f' :=
    ⟨h'.1.congr (closed_concat_of_ne fun _ => Move.noConfusion), h'.2⟩
  exact hstart.bind (fun _ _ => hmove _ _) fun _ _ h' => after_pure.mpr (hmove _ _ h')

lemma goes_pull (h : Shut n history f) :
    (perform (.pull i)).After True f (Goes n history f (.pull i)) := by
  have hsame {result : Result (Option Tuple)} (j : Nat) :
      Closed (history ++ [(.pull i, result)]) j ↔ Closed history j :=
    closed_concat_of_ne (fun _ => Move.noConfusion) j
  refine Seat.after_pull (fun _ => ⟨h.congr hsame, List.prefix_rfl⟩) fun e he hopen => ?_
  have hlive : f.connector.isLive = true :=
    isLive_of_getElem? he fun hclosed => by rw [hopen] at hclosed; cases hclosed
  split_ifs
  · exact goes_deliver h List.prefix_rfl
  · exact ⟨h.congr hsame, List.prefix_rfl⟩
  · have hasked {history' : History} {f' : Fanout (Watched υ)} {answer : Result (Option Tuple)}
        (hhistory : ∀ j, Closed history' j ↔ Closed history j)
        (hendpoints : f'.connector.endpoints = f.connector.endpoints)
        (hcalls : f'.producer.calls = f.producer.calls ++ [.next answer]) :
        Shut n history' f' ∧ f.producer.calls <+: f'.producer.calls := by
      refine ⟨h.called hhistory hendpoints hcalls rfl ?_, hcalls ▸ List.prefix_append ..⟩
      rw [hlive]
      exact Bool.noConfusion
    have hnext : (ofProducer Feed.next : Act (Fanout (Watched υ)) _).After True f fun answer f' =>
        ∃ feed, f' = { f with producer := ⟨feed, f.producer.calls ++ [.next answer]⟩ } :=
      after_watch fun _ feed => ⟨feed, rfl⟩
    refine hnext.mono ?_
    rintro (e' | given) _ ⟨feed, rfl⟩
    · exact hasked hsame rfl rfl
    · cases given with
      | some x =>
        have hpushed (f' : Fanout (Watched υ)) (hf' : f' = { f with
            producer := ⟨feed, f.producer.calls ++ [.next (.ok (some x))]⟩
            connector := f.connector.push x }) :
            Shut n history f' ∧ f.producer.calls <+: f'.producer.calls := by
          subst hf'
          exact hasked (fun _ => Iff.rfl) rfl rfl
        obtain ⟨hshut, hprefix⟩ := hpushed _ rfl
        exact goes_deliver hshut hprefix
      | none => exact hasked hsame rfl rfl

lemma goes_stop (h : Shut n history f) (hheld : Held f (.stop i)) :
    (perform (.stop i)).After True f (Goes n history f (.stop i)) := by
  obtain ⟨e, he, htaken, hendpoint⟩ := exists_of_taken hheld
  have hconcat (result : Result (Option Tuple)) (j : Nat) :
      Closed (history ++ [(.stop i, result)]) j ↔ Closed history j ∨ j = i := by
    rw [closed_concat, Move.stop.injEq, eq_comm (a := i)]
  have hstop : (stopEndpoint i).After True f fun result f' =>
      Goes n history f (.stop i) (result.map fun _ => none) f' := by
    refine after_get_bind.mpr (after_lift_bind.mpr ⟨fun e' hrefused => ?_, fun c hc => ?_⟩)
    · have hclosed : Closed history i := by
        have hphase := Connector.phase_eq_closed_of_stopEndpoint hrefused
        change (f.connector.endpoint i).phase = .closed at hphase
        rw [hendpoint] at hphase
        exact (h.closed_iff i e he).mp hphase
      refine ⟨h.congr fun j => (hconcat _ j).trans (or_iff_left_of_imp ?_), List.prefix_rfl⟩
      rintro rfl
      exact hclosed
    · obtain ⟨hopen, hconnector⟩ := Connector.stopEndpoint_eq_ok_iff.mp hc
      change (f.connector.endpoint i).phase ≠ .closed at hopen
      rw [hendpoint] at hopen
      have hclose {result : Result (Option Tuple)} {f' : Fanout (Watched υ)}
          (answer : Result Unit) (hf' : f'.connector = c) (hcalls : f'.producer.calls =
            if !c.isLive then f.producer.calls ++ [.stop answer] else f.producer.calls) :
          Shut n (history ++ [(.stop i, result)]) f' :=
        h.close (hconcat result) he hopen htaken hf' (hconnector ▸ rfl) hcalls
      refine after_modify_bind.mpr ?_
      split_ifs with hlast
      · refine after_watch fun answer feed => ⟨hclose answer rfl ?_, ?_⟩
        · rw [if_pos hlast]
          rfl
        · exact List.prefix_append ..
      · refine after_pure.mpr ⟨hclose (.ok ()) rfl ?_, List.prefix_rfl⟩
        rw [if_neg hlast]
        rfl
  exact hstop.bind (fun _ _ => id) fun _ _ h' => after_pure.mpr h'

/-- Every move that can be made keeps account of what is closed. -/
theorem Shut.goes (h : Shut n history f) {move : Move} (hheld : Held f move) :
    (perform move).After True f (Goes n history f move) := by
  cases move with
  | take index =>
    exact goes_adjust (g := fun c => c.take index) h (fun _ => Move.noConfusion)
      fun c hc => ⟨index, hc⟩
  | takeNext =>
    exact goes_adjust (g := fun c => c.takeNext.map Prod.snd) h (fun _ => Move.noConfusion)
      fun c => exists_take_of_takeNext
  | start _ => exact goes_start h hheld
  | pull _ => exact goes_pull h
  | stop _ => exact goes_stop h hheld

end Steps

/-! ### Whole histories -/

section Holds

variable [Feed υ] {id : ConnectorId} {feed : υ} {n : Nat} {f₀ f : Fanout (Watched υ)}
  {history : History}

lemma shut_create (h : Fanout.create id (⟨feed, []⟩ : Watched υ) n = .ok f₀) : Shut n [] f₀ := by
  rw [Fanout.create, Connector.create] at h
  split_ifs at h with hn
  · cases h
  · cases h
    have hnew (i : Nat) (e : Endpoint) (he : (List.replicate n ({} : Endpoint))[i]? = some e) :
        e = {} :=
      List.eq_of_mem_replicate (List.mem_of_getElem? he)
    refine ⟨List.length_replicate, fun i e he => ?_, fun e he hphase => ?_, fun _ => rfl,
      fun hdone => ?_⟩
    · rw [hnew i e he]
      simp [Closed]
    · rw [List.eq_of_mem_replicate he] at hphase
      exact (hphase rfl).elim
    · rw [Connector.isLive_eq_false_iff_getElem?] at hdone
      cases hdone 0 _ (List.getElem?_replicate_of_lt (Nat.pos_of_ne_zero hn))

lemma Holds.shut (h : Holds f₀ history f) (hnew : Shut n [] f₀) : Shut n history f := by
  induction h with
  | nil => exact hnew
  | snoc _ hheld hmove ih => exact ((ih.goes hheld).of_outcome hmove).1

/-- However a fan-out was used since it was made: the producer was asked to open at most once. Once
all endpoints were closed, it was closed exactly once and was not called afterwards; before that,
and as long as an endpoint was not handed out, it was not closed at all. In particular it is closed
by the move that closes the last endpoint, and by no other one. -/
theorem closed_with_last_endpoint
    (hcreate : Fanout.create id (⟨feed, []⟩ : Watched υ) n = .ok f₀)
    (hholds : Holds f₀ history f) :
    (openings f.producer.calls).length ≤ 1 ∧
      ((∀ i < n, Closed history i) → ∃ before answer,
        f.producer.calls = before ++ [.stop answer] ∧ closings before = []) ∧
      ((∃ i < n, ¬Closed history i) → closings f.producer.calls = []) ∧
      ((∃ i < n, (f.connector.endpoint i).taken = false) → closings f.producer.calls = []) ∧
      ∀ move result f', Held f move → (perform move).outcome f = some (result, f') →
        ∃ new, f'.producer.calls = f.producer.calls ++ new ∧
          ((∀ i < n, Closed history i) → new = []) ∧
          (closings new ≠ [] ↔ ∃ i < n, move = .stop i ∧ ¬Closed history i ∧
            ∀ j < n, j ≠ i → Closed history j) := by
  have hshut := hholds.shut (shut_create hcreate)
  have hlive (h : ∃ i < n, ¬Closed history i) : closings f.producer.calls = [] := by
    refine hshut.closings_of_live ?_
    by_contra hdone
    obtain ⟨i, hi, hopen⟩ := h
    exact hopen (hshut.isLive_eq_false_iff.mp (Bool.not_eq_true _ ▸ hdone) i hi)
  refine ⟨(hholds.plays.accounted (accounted_create hcreate)).length_openings_le,
    fun hall => hshut.last_of_closed (hshut.isLive_eq_false_iff.mpr hall), hlive, ?_, ?_⟩
  · rintro ⟨i, hi, hleft⟩
    refine hlive ⟨i, hi, fun hclosed => ?_⟩
    obtain ⟨e, he⟩ := hshut.exists_endpoint hi
    have htaken := hshut.taken e (List.mem_of_getElem? he)
    rw [(hshut.closed_iff i e he).mpr hclosed] at htaken
    rw [Connector.endpoint, he, Option.getD_some, htaken Phase.noConfusion] at hleft
    cases hleft
  · intro move result f' hheld hmove
    obtain ⟨hshut', new, hnew⟩ := (hshut.goes hheld).of_outcome hmove
    have hclosings : closings f'.producer.calls = closings f.producer.calls ++ closings new := by
      rw [← hnew, closings_append]
    have hquiet (hall : ∀ i < n, Closed history i) : new = [] :=
      hshut.eq_nil_of_closed hshut' hall (fun i hi => closed_concat.mpr (.inl (hall i hi)))
        hnew.symm
    refine ⟨new, hnew.symm, hquiet, fun hclosed => ?_, ?_⟩
    · obtain ⟨i, hi, hopen⟩ : ∃ i < n, ¬Closed history i := by
        by_contra hnone
        push Not at hnone
        exact hclosed (by rw [hquiet hnone]; rfl)
      have hdone : f'.connector.isLive = false := by
        by_contra hbusy
        have hnil := hshut'.closings_of_live (Bool.not_eq_false _ ▸ hbusy)
        rw [hclosings, List.append_eq_nil_iff] at hnil
        exact hclosed hnil.2
      have hall := hshut'.isLive_eq_false_iff.mp hdone
      obtain rfl := (closed_concat.mp (hall i hi)).resolve_left hopen
      refine ⟨i, hi, rfl, hopen, fun j hj hne => (closed_concat.mp (hall j hj)).resolve_right ?_⟩
      exact fun heq => hne (Move.stop.inj heq).symm
    · rintro ⟨i, hi, rfl, hopen, hothers⟩ hnil
      have hall : ∀ j < n, Closed (history ++ [(.stop i, result)]) j := by
        intro j hj
        by_cases hji : j = i
        · exact closed_concat.mpr (.inr (hji ▸ rfl))
        · exact closed_concat.mpr (.inl (hothers j hj hji))
      obtain ⟨before, answer, hbefore, -⟩ :=
        hshut'.last_of_closed (hshut'.isLive_eq_false_iff.mpr hall)
      rw [hlive ⟨i, hi, hopen⟩, hnil, hbefore, closings_append] at hclosings
      simp [closings] at hclosings

end Holds

/-! ### Closing a producer that could not be opened -/

instance (f : Fanout υ) : (move : Move) → Decidable (Held f move)
  | .take _ | .takeNext => .isTrue trivial
  | .start i | .pull i | .stop i =>
    inferInstanceAs (Decidable ((f.connector.endpoint i).taken = true))

/-- The outcome of moves made one after the other, if they can be made. -/
def hold [Feed υ] (f : Fanout υ) (history : History) :
    List Move → Option (History × Fanout υ)
  | [] => some (history, f)
  | move :: moves =>
    if Held f move then (perform move).outcome f >>= fun (result, f) =>
      hold f (history ++ [(move, result)]) moves
    else none

lemma holds_of_hold [Feed υ] {f₀ f f' : Fanout υ} {history history' : History} {moves : List Move}
    (h : hold f history moves = some (history', f')) (hholds : Holds f₀ history f) :
    Holds f₀ history' f' := by
  induction moves generalizing f history with
  | nil =>
    cases h
    exact hholds
  | cons move moves ih =>
    rw [hold] at h
    split_ifs at h with hheld
    obtain ⟨⟨result, f₁⟩, hmove, hrest⟩ := Option.bind_eq_some_iff.mp h
    exact ih hrest (.snoc hholds hheld hmove)

/-- Of two endpoints, the first one fails to open along with its producer. The second one is closed
unopened, and asked to close once more. -/
def brokenMoves : List Move :=
  [.takeNext, .takeNext, .start 0, .stop 1, .stop 1]

/-- Only when the first one is closed as well, the producer is closed. -/
theorem broken_closed_with_last_endpoint : ∃ history f result f' new,
    Fanout.create 0 shutNumbers 2 = .ok shutFanout ∧ Holds shutFanout history f ∧
    closings f.producer.calls = [] ∧ Held f (.stop 0) ∧
    (perform (.stop 0)).outcome f = some (result, f') ∧
    f'.producer.calls = f.producer.calls ++ new ∧ closings new ≠ [] := by
  have hcreate : Fanout.create 0 shutNumbers 2 = .ok shutFanout := rfl
  obtain ⟨⟨history, f⟩, hhold⟩ := Option.isSome_iff_exists.mp
    (by decide +kernel : (hold shutFanout [] brokenMoves).isSome = true)
  have hreads : (hold shutFanout [] brokenMoves).any (fun out =>
      out.1.map Prod.fst = brokenMoves ∧ Held out.2 (.stop 0) ∧
        ((perform (.stop 0)).outcome out.2).isSome) = true := by
    decide +kernel
  rw [hhold] at hreads
  obtain ⟨hmoves, hheld, hends⟩ := of_decide_eq_true hreads
  obtain ⟨⟨result, f'⟩, hmove⟩ := Option.isSome_iff_exists.mp hends
  have hholds := holds_of_hold hhold (.nil shutFanout)
  have hopen : ¬Closed history 0 := by
    rw [Closed, hmoves]
    decide
  have hclosed : Closed history 1 := by
    rw [Closed, hmoves]
    decide
  obtain ⟨-, -, hbefore, -, hnext⟩ := closed_with_last_endpoint hcreate hholds
  obtain ⟨new, hcalls, -, hlast⟩ := hnext (.stop 0) result f' hheld hmove
  refine ⟨history, f, result, f', new, hcreate, hholds, hbefore ⟨0, by decide, hopen⟩, hheld, hmove,
    hcalls, hlast.mpr ⟨0, by decide, rfl, hopen, fun j hj hne => ?_⟩⟩
  obtain rfl : j = 1 := by omega
  exact hclosed

end Fanout

end Dataflow
