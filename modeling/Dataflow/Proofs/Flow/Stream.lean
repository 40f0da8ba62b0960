import Dataflow.Proofs.Tree.Wiring

/-!
# Streams

What a node gives, pulled again and again, is a stream: some tuples, and then the end or a failure.
The stream of a team follows from the streams of its inputs.
-/

namespace Dataflow

/-- Some tuples, and then the end or a failure. -/
structure Stream where
  tuples : List Tuple
  failure : Option Error

namespace Stream

/-- A stream that has come to its end. -/
def done : Stream :=
  ⟨[], none⟩

/-- A stream with some tuples in front. -/
def after (s : Stream) (given : List Tuple) : Stream :=
  ⟨given ++ s.tuples, s.failure⟩

/-- What is pulled out of a stream. -/
def head : Stream → Result (Option Tuple)
  | ⟨x :: _, _⟩ => .ok (some x)
  | ⟨[], none⟩ => .ok none
  | ⟨[], some e⟩ => .error e

/-- What is left of a stream that was pulled. -/
def tail (s : Stream) : Stream :=
  ⟨s.tuples.tail, s.failure⟩

/-- All tuples of a stream, unless it fails. -/
def all : Stream → Result (List Tuple)
  | ⟨tuples, none⟩ => .ok tuples
  | ⟨_, some e⟩ => .error e

@[simp] lemma tail_done : done.tail = done :=
  rfl

@[simp] lemma tuples_after (s : Stream) (given : List Tuple) :
    (s.after given).tuples = given ++ s.tuples :=
  rfl

@[simp] lemma failure_after (s : Stream) (given : List Tuple) :
    (s.after given).failure = s.failure :=
  rfl

@[simp] lemma after_nil (s : Stream) : s.after [] = s :=
  rfl

@[simp] lemma after_append (s : Stream) (given given' : List Tuple) :
    s.after (given ++ given') = (s.after given').after given := by
  simp [after]

lemma done_eq_after_iff {s : Stream} {given : List Tuple} :
    done = s.after given ↔ given = [] ∧ s = done := by
  obtain ⟨tuples, failure⟩ := s
  simp only [done, after, Stream.mk.injEq, List.nil_eq, List.append_eq_nil_iff]
  tauto

lemma head_eq_ok_some_iff {s : Stream} {x : Tuple} :
    s.head = .ok (some x) ↔ s = s.tail.after [x] := by
  match s with
  | ⟨y :: ys, f⟩ => simp [head, tail, after]
  | ⟨[], none⟩ => simp [head, tail, after]
  | ⟨[], some e⟩ => simp [head, tail, after]

lemma head_eq_ok_none_iff {s : Stream} : s.head = .ok none ↔ s = done := by
  match s with
  | ⟨y :: ys, f⟩ => simp [head, done]
  | ⟨[], none⟩ => simp [head, done]
  | ⟨[], some e⟩ => simp [head, done]

lemma head_eq_error_iff {s : Stream} {e : Error} : s.head = .error e ↔ s = ⟨[], some e⟩ := by
  match s with
  | ⟨y :: ys, f⟩ => simp [head]
  | ⟨[], none⟩ => simp [head]
  | ⟨[], some e⟩ => simp [head]

end Stream

/-- A source gives a stream. -/
inductive Source.Yields {σ : Type} [Source σ] : σ → Stream → Prop
  | give {s s' : σ} {x : Tuple} {out : Stream} (hnext : Source.next s = (.ok (some x), s'))
    (hrest : Yields s' out) : Yields s (out.after [x])
  | finish {s s' : σ} (hnext : Source.next s = (.ok none, s'))
    (hagain : Source.next s' = (.ok none, s')) : Yields s .done
  | fail {s s' : σ} {e : Error} (hnext : Source.next s = (.error e, s')) : Yields s ⟨[], some e⟩

/-- A source that is asked gives the head of its stream, and the rest if asked again. -/
lemma Source.Yields.next_eq {σ : Type} [Source σ] {s : σ} {out : Stream} (h : Yields s out) :
    ∃ s', Source.next s = (out.head, s') ∧
      ∀ given, out.head = .ok given → Source.Yields s' out.tail := by
  cases h with
  | give hnext hrest => exact ⟨_, hnext, fun _ _ => hrest⟩
  | finish hnext hagain => exact ⟨_, hnext, fun _ _ => .finish hagain hagain⟩
  | fail hnext => exact ⟨_, hnext, nofun⟩

/-- A worker makes something of an input, at whatever time. -/
def Worker.Makes {ω : Type} [Worker ω] (w : ω) (input : Input) (result : Result (List Tuple))
    (w' : ω) : Prop :=
  ∀ now, Worker.process now input w = (result, w')

/-- A worker makes something of an input at some time. -/
def Worker.MayMake {ω : Type} [Worker ω] (input : Input) (w : ω) (new : List Tuple × ω) : Prop :=
  ∃ now, Worker.process now input w = (.ok new.1, new.2)

lemma Worker.Makes.eq_of_mayMake {ω : Type} [Worker ω] {w : ω} {input : Input}
    {new new' : List Tuple × ω} (h : Worker.Makes w input (.ok new.1) new.2)
    (hmay : Worker.MayMake input w new') : new' = new := by
  obtain ⟨now, hmade⟩ := hmay
  rw [h now, Prod.mk.injEq, Except.ok.injEq] at hmade
  exact Prod.ext hmade.1.symm hmade.2.symm

namespace Team

variable {ω : Type}

/-- A team whose next turn is that of the input behind another one. -/
def turned (team : Team ω) (i : Nat) : Team ω :=
  { team with nextSlot := (i + 1) % team.slots.length }

/-- A team after the worker whose turn it is made some tuples of one from an input. -/
def dealt (team : Team ω) (i : Nat) (w : ω) (given : List Tuple) : Team ω :=
  { team with
    workers := team.workers.set team.nextWorker w
    nextSlot := (i + 1) % team.slots.length
    nextWorker := (team.nextWorker + 1) % team.workers.length
    pending := team.pending ++ given }

/-- A team after an input has ended and each worker made some tuples of that. -/
def ended (team : Team ω) (i : Nat) (made : List (List Tuple × ω)) : Team ω :=
  { team with
    slots := team.slots.modify i fun slot => { slot with exhausted := true }
    workers := made.map Prod.snd
    nextSlot := (i + 1) % team.slots.length
    pending := team.pending ++ made.flatMap Prod.fst }

variable [Worker ω]

/-- A team gives a stream when its inputs, in the order of its slots, give others. -/
inductive Yields : Team ω → List Stream → Stream → Prop
  | pending {t : Team ω} {ins : List Stream} {out : Stream} {x : Tuple} {rest : List Tuple}
    (hpending : t.pending = x :: rest) (hrest : Yields { t with pending := rest } ins out) :
    Yields t ins (out.after [x])
  | finish {team : Team ω} {ins : List Stream} (hpending : team.pending = [])
    (hpick : team.pick? = none) : Yields team ins .done
  | tuple {team : Team ω} {ins : List Stream} {out s : Stream} {i : Nat} {slot : Slot} {x : Tuple}
    {w w' : ω} {given : List Tuple} (hpending : team.pending = [])
    (hpick : team.pick? = some (i, slot)) (hin : ins[i]? = some s) (hhead : s.head = .ok (some x))
    (hworker : team.workers[team.nextWorker]? = some w)
    (hmakes : Worker.Makes w (.tuple x slot.link) (.ok given) w')
    (hrest : Yields (team.dealt i w' given) (ins.set i s.tail) out) : Yields team ins out
  | refused {team : Team ω} {ins : List Stream} {s : Stream} {i : Nat} {slot : Slot} {x : Tuple}
    {w w' : ω} {e : Error} (hpending : team.pending = []) (hpick : team.pick? = some (i, slot))
    (hin : ins[i]? = some s) (hhead : s.head = .ok (some x))
    (hworker : team.workers[team.nextWorker]? = some w)
    (hmakes : Worker.Makes w (.tuple x slot.link) (.error e) w') : Yields team ins ⟨[], some e⟩
  | exhausted {team : Team ω} {ins : List Stream} {out s : Stream} {i : Nat} {slot : Slot}
    {made : List (List Tuple × ω)} (hpending : team.pending = [])
    (hpick : team.pick? = some (i, slot)) (hin : ins[i]? = some s) (hhead : s.head = .ok none)
    (hmakes : List.Forall₂ (fun w new => Worker.Makes w (.exhausted slot.link) (.ok new.1) new.2)
      team.workers made)
    (hrest : Yields (team.ended i made) ins out) : Yields team ins out
  | broken {team : Team ω} {ins : List Stream} {s : Stream} {i : Nat} {slot : Slot} {e : Error}
    (hpending : team.pending = []) (hpick : team.pick? = some (i, slot)) (hin : ins[i]? = some s)
    (hhead : s.head = .error e) : Yields team ins ⟨[], some e⟩

lemma Yields.of_pending {team : Team ω} {ins : List Stream} {out : Stream}
    (h : Yields { team with pending := [] } ins out) :
    Yields team ins (out.after team.pending) := by
  obtain ⟨slots, workers, started, nextSlot, nextWorker, waiting⟩ := team
  induction waiting with
  | nil => exact h
  | cons x rest ih =>
    exact .pending (t := ⟨slots, workers, started, nextSlot, nextWorker, x :: rest⟩) rfl (ih h)

end Team

end Dataflow
