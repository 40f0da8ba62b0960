import Mathlib.Data.List.DropRight
import Dataflow.Delta.Tracker

/-!
# Changes are given at most once in an interval

A history tells what a tracker was told and asked, and what it gave. From the history alone it can
be read what was shown last and when, and how many inputs came in since. This is what the tracker
knows, and it decides whether a change is given next, and which one: a snapshot that was not wanted
or that failed makes no difference to what is given later.
-/

namespace Dataflow

namespace Tracker

/-- What happens to a tracker. -/
inductive Prompt where
  | record
  | onInput (now : Nat) (snapshot : Unit → Result (List Tuple))
  /-- The end of the input calls for a change to a snapshot at a time. -/
  | onEnd (now : Nat) (snapshot : Unit → Result (List Tuple))

/-- What is given, and the tracker after that; a failure leaves the tracker as it is. -/
def settle (k : Tracker) : Result (Option Delta × Tracker) → Result (Option Delta) × Tracker
  | .ok (given, k) => (.ok given, k)
  | .error e => (.error e, k)

/-- What a tracker gives at a prompt, and the tracker after that. -/
def prompt (k : Tracker) : Prompt → Result (Option Delta) × Tracker
  | .record => (.ok none, k.record)
  | .onInput now snapshot => k.settle (k.onInput now snapshot)
  | .onEnd now snapshot => k.settle (k.onEnd now snapshot)

/-- A prompt along with what was given at it. -/
structure Reply where
  prompt : Prompt
  given : Result (Option Delta)

namespace Reply

/-- The time and the snapshot of a change that was given. -/
def update? : Reply → Option (Nat × List Tuple)
  | ⟨.onInput now snapshot, .ok (some _)⟩ | ⟨.onEnd now snapshot, .ok (some _)⟩ =>
    (snapshot ()).toOption.map (now, ·)
  | _ => none

/-- Whether an input came in. -/
def isRecord : Reply → Bool
  | ⟨.record, _⟩ => true
  | _ => false

end Reply

/-- The replies to prompts, one after another, and the tracker after them. -/
def replies (k : Tracker) : List Prompt → List Reply × Tracker
  | [] => ([], k)
  | p :: ps =>
    let (given, next) := k.prompt p
    let (rest, last) := next.replies ps
    (⟨p, given⟩ :: rest, last)

lemma replies_cons (k : Tracker) (p : Prompt) (ps : List Prompt) : k.replies (p :: ps) =
    (⟨p, (k.prompt p).1⟩ :: ((k.prompt p).2.replies ps).1, ((k.prompt p).2.replies ps).2) :=
  rfl

/-- The time and the snapshot of the last change that was given. -/
def latest? (history : List Reply) : Option (Nat × List Tuple) :=
  history.reverse.findSome? Reply.update?

/-- What was shown last, which is nothing in the beginning. -/
def shown (history : List Reply) : List Tuple :=
  (latest? history).elim [] Prod.snd

/-- The number of inputs that came in behind the last change. -/
def unseen (history : List Reply) : Nat :=
  (history.rtakeWhile fun reply => reply.update?.isNone).countP Reply.isRecord

/-- A change is due: something came in since the last change, and that is longer ago than the
interval. -/
def Due (interval : Nat) (history : List Reply) (now : Nat) : Prop :=
  0 < unseen history ∧ ∀ update ∈ latest? history, update.1 + interval < now

instance (interval : Nat) (history : List Reply) (now : Nat) :
    Decidable (Due interval history now) :=
  inferInstanceAs (Decidable (_ ∧ _))

/-- The change from what was shown to a snapshot, which is remembered along with the time; a
snapshot that fails changes nothing. -/
def updated (k : Tracker) (shown : List Tuple) (now : Nat) :
    Result (List Tuple) → Result (Option Delta) × Tracker
  | .ok snapshot => (.ok (some (.between shown snapshot)), ⟨snapshot, k.interval, some now, 0⟩)
  | .error e => (.error e, k)

variable {interval : Nat} {history : List Reply} {reply : Reply} {k : Tracker}

lemma latest?_concat (history : List Reply) (reply : Reply) :
    latest? (history ++ [reply]) = reply.update?.or (latest? history) := by
  rw [latest?, List.reverse_concat, List.findSome?_cons]
  cases reply.update? <;> rfl

lemma latest?_append_of_none {more : List Reply} (h : ∀ reply ∈ more, reply.update? = none) :
    latest? (history ++ more) = latest? history := by
  rw [latest?, List.reverse_append, List.findSome?_append,
    List.findSome?_eq_none_iff.mpr fun reply hreply => h reply (List.mem_reverse.mp hreply)]
  rfl

lemma unseen_concat (history : List Reply) (reply : Reply) : unseen (history ++ [reply]) =
    if reply.update?.isSome then 0 else unseen history + if reply.isRecord then 1 else 0 := by
  rw [unseen, List.rtakeWhile_concat]
  cases reply.update? with
  | some update => rfl
  | none =>
    simp only [Option.isNone_none, Option.isSome_none, if_true, Bool.false_eq_true, if_false]
    rw [List.countP_append, List.countP_singleton, unseen]

/-- A tracker knows what its history tells. -/
structure Recalls (interval : Nat) (history : List Reply) (k : Tracker) : Prop where
  interval_eq : k.interval = interval
  previous_eq : k.previous = shown history
  lastUpdate_eq : k.lastUpdate = (latest? history).map Prod.fst
  pending_eq : k.pending = unseen history

lemma recalls_nil (interval : Nat) : Recalls interval [] { interval } :=
  ⟨rfl, rfl, rfl, rfl⟩

lemma settle_updateIf (k : Tracker) (wanted : Bool) (now : Nat)
    (snapshot : Unit → Result (List Tuple)) : k.settle (k.updateIf wanted now snapshot) =
      if wanted then k.updated k.previous now (snapshot ()) else (.ok none, k) := by
  cases wanted with
  | false => rfl
  | true =>
    rw [updateIf, if_pos rfl, if_pos rfl]
    cases snapshot () <;> rfl

namespace Recalls

lemma isDue_iff (h : Recalls interval history k) (now : Nat) :
    k.isDue now = true ↔ Due interval history now := by
  rw [isDue, h.pending_eq, h.lastUpdate_eq, h.interval_eq, Bool.and_eq_true, bne_iff_ne,
    Nat.ne_zero_iff_zero_lt, Option.all_map, Due]
  refine and_congr_right fun _ => ?_
  cases latest? history with
  | none => simp
  | some update => simp [Nat.lt_sub_iff_add_lt']

lemma prompt_onInput (h : Recalls interval history k) (now : Nat)
    (snapshot : Unit → Result (List Tuple)) :
    k.prompt (.onInput now snapshot) =
      if Due interval history now then k.updated (shown history) now (snapshot ())
      else (.ok none, k) := by
  rw [prompt, onInput, settle_updateIf, h.previous_eq]
  exact if_congr (h.isDue_iff now) rfl rfl

lemma prompt_onEnd (h : Recalls interval history k) (now : Nat)
    (snapshot : Unit → Result (List Tuple)) :
    k.prompt (.onEnd now snapshot) =
      if 0 < unseen history then k.updated (shown history) now (snapshot ())
      else (.ok none, k) := by
  rw [prompt, onEnd, settle_updateIf, h.previous_eq, h.pending_eq]
  exact if_congr (by simp [Nat.pos_iff_ne_zero]) rfl rfl

lemma idle (h : Recalls interval history k) (hupdate : reply.update? = none)
    (hrecord : reply.isRecord = false) : Recalls interval (history ++ [reply]) k where
  interval_eq := h.interval_eq
  previous_eq := by rw [h.previous_eq, shown, shown, latest?_concat, hupdate, Option.none_or]
  lastUpdate_eq := by rw [h.lastUpdate_eq, latest?_concat, hupdate, Option.none_or]
  pending_eq := by simp [h.pending_eq, unseen_concat, hupdate, hrecord]

lemma update {now : Nat} {snapshot : List Tuple} (h : Recalls interval history k)
    (hupdate : reply.update? = some (now, snapshot)) :
    Recalls interval (history ++ [reply]) ⟨snapshot, k.interval, some now, 0⟩ where
  interval_eq := h.interval_eq
  previous_eq := by rw [shown, latest?_concat, hupdate]; rfl
  lastUpdate_eq := by rw [latest?_concat, hupdate]; rfl
  pending_eq := by simp [unseen_concat, hupdate]

/-- A tracker that is asked knows what came of it. -/
lemma ask {p : Prompt} {now : Nat} {snapshot : Unit → Result (List Tuple)} {wanted : Prop}
    [Decidable wanted] (h : Recalls interval history k)
    (hp : p = .onInput now snapshot ∨ p = .onEnd now snapshot)
    (hprompt : k.prompt p =
      if wanted then k.updated (shown history) now (snapshot ()) else (.ok none, k)) :
    Recalls interval (history ++ [⟨p, (k.prompt p).1⟩]) (k.prompt p).2 := by
  have hidle {given : Result (Option Delta)} (hgiven : ∀ d, given ≠ .ok (some d)) :
      Recalls interval (history ++ [⟨p, given⟩]) k := by
    refine h.idle ?_ ?_
    · rcases hp with rfl | rfl <;> rcases given with e | _ | d <;>
        first | rfl | exact absurd rfl (hgiven d)
    · rcases hp with rfl | rfl <;> rfl
  rw [hprompt]
  split_ifs
  · match hsnapshot : snapshot () with
    | .error e => exact hidle nofun
    | .ok new =>
      refine h.update ?_
      rcases hp with rfl | rfl <;> simp [updated, Reply.update?, hsnapshot, Except.toOption]
  · exact hidle nofun

lemma step (h : Recalls interval history k) (p : Prompt) :
    Recalls interval (history ++ [⟨p, (k.prompt p).1⟩]) (k.prompt p).2 := by
  match p with
  | .record =>
    refine ⟨h.interval_eq, ?_, ?_, ?_⟩
    · exact h.previous_eq.trans (by rw [shown, shown, latest?_concat]; rfl)
    · exact h.lastUpdate_eq.trans (by rw [latest?_concat]; rfl)
    · rw [unseen_concat, ← h.pending_eq]
      rfl
  | .onInput now snapshot => exact h.ask (.inl rfl) (h.prompt_onInput now snapshot)
  | .onEnd now snapshot => exact h.ask (.inr rfl) (h.prompt_onEnd now snapshot)

lemma replies (h : Recalls interval history k) (ps : List Prompt) :
    Recalls interval (history ++ (k.replies ps).1) (k.replies ps).2 := by
  induction ps generalizing history k with
  | nil => simpa [Tracker.replies] using h
  | cons p ps ih =>
    have hrest := ih (h.step p)
    rwa [List.append_assoc] at hrest

lemma due_of_update (h : Recalls interval history k) {now : Nat}
    {snapshot : Unit → Result (List Tuple)}
    (hupdate : (Reply.mk (.onInput now snapshot) (k.prompt (.onInput now snapshot)).1).update? ≠
      none) : Due interval history now := by
  by_contra hdue
  rw [h.prompt_onInput, if_neg hdue] at hupdate
  exact hupdate rfl

end Recalls

/-- What was given at a point of a history was given by the tracker of that point. -/
lemma exists_replies_of_split {ps : List Prompt} {before after : List Reply}
    (h : (k.replies ps).1 = before ++ reply :: after) : ∃ qs, (k.replies qs).1 = before ∧
      reply.given = ((k.replies qs).2.prompt reply.prompt).1 := by
  induction before generalizing k ps with
  | nil =>
    cases ps with
    | nil => cases h
    | cons p ps =>
      obtain ⟨rfl, -⟩ := List.cons.inj h
      exact ⟨[], rfl, rfl⟩
  | cons first before ih =>
    cases ps with
    | nil => cases h
    | cons p ps =>
      obtain ⟨rfl, hrest⟩ := List.cons.inj h
      obtain ⟨qs, rfl, hgiven⟩ := ih hrest
      exact ⟨p :: qs, rfl, hgiven⟩

/-- A change at an input is more than the interval behind the change before it. -/
lemma interval_lt_of_split {ps : List Prompt} {before mid after : List Reply} {first : Reply}
    {earlier now : Nat} {seen : List Tuple} {snapshot : Unit → Result (List Tuple)}
    (h : (replies { interval } ps).1 = before ++ first :: (mid ++ reply :: after))
    (hfirst : first.update? = some (earlier, seen)) (hmid : ∀ reply ∈ mid, reply.update? = none)
    (hprompt : reply.prompt = .onInput now snapshot) (hupdate : reply.update? ≠ none) :
    earlier + interval < now := by
  rw [← List.cons_append, ← List.append_assoc] at h
  obtain ⟨qs, hqs, hgiven⟩ := exists_replies_of_split h
  have hk := (recalls_nil interval).replies qs
  rw [List.nil_append, hqs] at hk
  obtain ⟨p, given⟩ := reply
  obtain rfl : p = .onInput now snapshot := hprompt
  change given = ((replies _ qs).2.prompt (.onInput now snapshot)).1 at hgiven
  rw [hgiven] at hupdate
  refine (hk.due_of_update hupdate).2 (earlier, seen) ?_
  rw [List.append_cons, latest?_append_of_none hmid, latest?_concat, hfirst]
  rfl

/-- A prompt at which no input comes in and no change is given leaves the tracker as it is. -/
lemma prompt_snd_of_idle {p : Prompt} (hrecord : (Reply.mk p (k.prompt p).1).isRecord = false)
    (hupdate : (Reply.mk p (k.prompt p).1).update? = none) : (k.prompt p).2 = k := by
  have hask {wanted : Bool} {now : Nat} {snapshot : Unit → Result (List Tuple)}
      (hp : p = .onInput now snapshot ∨ p = .onEnd now snapshot)
      (hprompt : k.prompt p =
        if wanted then k.updated k.previous now (snapshot ()) else (.ok none, k)) :
      (k.prompt p).2 = k := by
    rw [hprompt] at hupdate ⊢
    cases wanted with
    | false => rfl
    | true =>
      match hsnapshot : snapshot () with
      | .error e => rfl
      | .ok new =>
        rcases hp with rfl | rfl <;>
          simp [updated, Reply.update?, hsnapshot, Except.toOption] at hupdate
  match p with
  | .record => cases hrecord
  | .onInput now snapshot => exact hask (.inl rfl) (settle_updateIf ..)
  | .onEnd now snapshot => exact hask (.inr rfl) (settle_updateIf ..)

lemma replies_snd_of_idle {ps : List Prompt}
    (h : ∀ reply ∈ (k.replies ps).1, reply.isRecord = false ∧ reply.update? = none) :
    (k.replies ps).2 = k := by
  induction ps generalizing k with
  | nil => rfl
  | cons p ps ih =>
    rw [replies_cons, List.forall_mem_cons] at h
    have hk := prompt_snd_of_idle h.1.1 h.1.2
    rw [hk] at h
    rw [replies_cons, hk]
    exact ih h.2

/-- **A change is given at most once in an interval, and none is lost**, whatever happens to a
tracker and at what times, be the clock turned back. What is pending is the number of inputs behind
the last change. An input is given a change exactly if something is pending and the last change, if
there was one, is more than the interval ago; so a change at an input is more than the interval
behind the one before it. The end is given a change exactly if something is pending. The change
leads from what was shown last to the snapshot. As long as no change is given, for it was not due or
the snapshot failed, and nothing comes in, the tracker stays as it is. -/
theorem updates_debounced (interval : Nat) (prompts : List Prompt) :
    ∃ history k, replies { interval } prompts = (history, k) ∧
      k.pending = unseen history ∧
      (∀ now snapshot, k.prompt (.onInput now snapshot) =
        if Due interval history now then k.updated (shown history) now (snapshot ())
        else (.ok none, k)) ∧
      (∀ now snapshot, k.prompt (.onEnd now snapshot) =
        if 0 < unseen history then k.updated (shown history) now (snapshot ())
        else (.ok none, k)) ∧
      (∀ before first mid last after earlier seen now snapshot,
        history = before ++ first :: (mid ++ last :: after) →
        first.update? = some (earlier, seen) → (∀ reply ∈ mid, reply.update? = none) →
        last.prompt = .onInput now snapshot → last.update? ≠ none → earlier + interval < now) ∧
      ∀ more, (∀ reply ∈ (k.replies more).1, reply.isRecord = false ∧ reply.update? = none) →
        (k.replies more).2 = k := by
  have hk : Recalls interval (replies { interval } prompts).1 (replies { interval } prompts).2 :=
    (recalls_nil interval).replies prompts
  exact ⟨_, _, rfl, hk.pending_eq, hk.prompt_onInput, hk.prompt_onEnd,
    fun _ _ _ _ _ _ _ _ _ => interval_lt_of_split, fun _ => replies_snd_of_idle⟩

/-- A tuple without values. -/
def blank : Tuple :=
  ⟨.empty, [], rfl⟩

/-- The second input comes in exactly one interval behind the first change, then the clock is turned
back, and then the snapshot fails. -/
def hurried : List Prompt :=
  [.record, .onInput 100 fun _ => .ok [blank], .record, .onInput 110 fun _ => .ok [],
    .onInput 90 fun _ => .ok [], .onInput 111 fun _ => .error (.run (.fieldCount 1 2))]

/-- The change that is still pending is given a moment later, at an input or at the end. -/
theorem hurried_debounced : ∃ history k, replies { interval := 10 } hurried = (history, k) ∧
    k.pending = 1 ∧
    k.prompt (.onInput 110 fun _ => .ok []) = (.ok none, k) ∧
    k.prompt (.onInput 111 fun _ => .ok []) =
      (.ok (some ⟨[blank], []⟩), ⟨[], 10, some 111, 0⟩) ∧
    k.prompt (.onEnd 90 fun _ => .ok []) =
      (.ok (some ⟨[blank], []⟩), ⟨[], 10, some 90, 0⟩) := by
  obtain ⟨history, k, h, hpending, hinput, hend, -⟩ := updates_debounced 10 hurried
  obtain ⟨rfl, rfl⟩ := Prod.mk.inj h
  exact ⟨_, _, h, hpending.trans rfl, hinput 110 _, hinput 111 _, hend 90 _⟩

end Tracker

end Dataflow
