import Dataflow.Error

/-!
# Actions on a state

What feeds, connectors and trees do next depends on what happened to them before, so their
operations are actions on a state. An action gives a value or fails, and it leaves a state behind
in both cases. An action may also come to no end, and then it leaves nothing. The laws say what
an action made of smaller ones leaves behind.
-/

namespace Dataflow

/-- An action on a state: it gives a value or fails, and leaves a state behind. It is `none` when
it does not come to an end. -/
abbrev Act (σ α : Type) : Type :=
  ExceptT Error (StateT σ Option) α

namespace Act

variable {σ τ α β : Type}

/-- The outcome and the state that an action leaves behind. -/
def outcome (a : Act σ α) (s : σ) : Option (Result α × σ) :=
  a.run.run s

/-- An action given by its outcome and the state it leaves behind. -/
def of (f : σ → Option (Result α × σ)) : Act σ α :=
  ExceptT.mk f

/-- An action that does not come to an end. -/
def endless : Act σ α :=
  of fun _ => none

/-- An action on a part of a state. -/
def within (get : σ → τ) (set : τ → σ → σ) (a : Act τ α) : Act σ α :=
  of fun s => (a.outcome (get s)).map fun (result, part) => (result, set part s)

/-- What an action does, as a value: its failure does not stop the actions after it. -/
def attempt (a : Act σ α) : Act σ (Result α) :=
  of fun s => (a.outcome s).map fun (result, s) => (.ok result, s)

/-- What comes after an outcome: nothing after a failure. -/
def andThen (f : α → Act σ β) : Option (Result α × σ) → Option (Result β × σ)
  | none => none
  | some (.error e, s) => some (.error e, s)
  | some (.ok a, s) => (f a).outcome s

@[simp] theorem outcome_of (f : σ → Option (Result α × σ)) (s : σ) : (of f).outcome s = f s :=
  rfl

@[simp] theorem outcome_endless (s : σ) : (endless : Act σ α).outcome s = none :=
  rfl

@[simp] theorem outcome_within (get : σ → τ) (set : τ → σ → σ) (a : Act τ α) (s : σ) :
    (within get set a).outcome s =
      (a.outcome (get s)).map fun (result, part) => (result, set part s) :=
  rfl

@[simp] theorem outcome_attempt (a : Act σ α) (s : σ) :
    a.attempt.outcome s = (a.outcome s).map fun (result, s) => (.ok result, s) :=
  rfl

@[simp] theorem outcome_pure (a : α) (s : σ) :
    (pure a : Act σ α).outcome s = some (.ok a, s) :=
  rfl

@[simp] theorem outcome_throw (e : Error) (s : σ) :
    (throw e : Act σ α).outcome s = some (.error e, s) :=
  rfl

@[simp] theorem outcome_get (s : σ) : (get : Act σ σ).outcome s = some (.ok s, s) :=
  rfl

@[simp] theorem outcome_set (t s : σ) : (set t : Act σ PUnit).outcome s = some (.ok ⟨⟩, t) :=
  rfl

@[simp] theorem outcome_modify (f : σ → σ) (s : σ) :
    (modify f : Act σ PUnit).outcome s = some (.ok ⟨⟩, f s) :=
  rfl

@[simp] theorem outcome_lift (r : Result α) (s : σ) :
    (liftM r : Act σ α).outcome s = some (r, s) :=
  rfl

/-- One action behind another: the second one is done unless the first one fails. -/
@[simp] theorem outcome_bind (a : Act σ α) (f : α → Act σ β) (s : σ) :
    (a >>= f).outcome s = andThen f (a.outcome s) := by
  rw [outcome, ExceptT.run_bind, StateT.run_bind]
  change Option.bind (a.outcome s) _ = _
  rcases a.outcome s with _ | ⟨_ | _, _⟩ <;> rfl

/-- A function of what an action gives changes nothing else. -/
@[simp] theorem outcome_map (f : α → β) (a : Act σ α) (s : σ) :
    (f <$> a).outcome s = (a.outcome s).map fun (result, s) => (result.map f, s) := by
  rw [outcome, ExceptT.run_map, StateT.run_map]
  change (a.outcome s).map _ = _
  rcases a.outcome s with _ | ⟨_ | _, _⟩ <;> rfl

end Act

end Dataflow
