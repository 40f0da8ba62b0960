import Dataflow.Proofs.Act

/-!
# Actions in step

Two actions go in step on two states if both come to an end or neither does, with the same outcome
and with states that are related again. Sequences of actions that go in step do so as well, so that
two large machines are compared one action at a time. An action that only one of the machines does
need not be matched if it leaves its own state related to the state of the other.
-/

namespace Dataflow

namespace Act

variable {σ τ α β γ : Type} {R : σ → τ → Prop} {s : σ} {t : τ}

/-- Two actions end in the same way, in related states, or both do not end. -/
def InStep (R : σ → τ → Prop) (a : Act σ α) (b : Act τ α) (s : σ) (t : τ) : Prop :=
  Option.Rel (fun x y => x.1 = y.1 ∧ R x.2 y.2) (a.outcome s) (b.outcome t)

variable {a : Act σ α} {b : Act τ α} {f : α → Act σ β} {g : α → Act τ β}

lemma inStep_pure {x : α} (h : R s t) : InStep R (pure x : Act σ α) (pure x) s t :=
  .some ⟨rfl, h⟩

lemma inStep_throw {e : Error} (h : R s t) :
    InStep R (throw e : Act σ α) (throw e : Act τ α) s t :=
  .some ⟨rfl, h⟩

lemma inStep_endless : InStep R (endless : Act σ α) endless s t :=
  .none

lemma inStep_lift {result : Result α} (h : R s t) :
    InStep R (liftM result : Act σ α) (liftM result) s t :=
  .some ⟨rfl, h⟩

lemma inStep_modify {c : σ → σ} {d : τ → τ} (h : R (c s) (d t)) :
    InStep R (modify c : Act σ PUnit) (modify d) s t :=
  .some ⟨rfl, h⟩

/-- Two sequences go in step if their first parts do, and what comes behind a success. -/
lemma InStep.bind (h : InStep R a b s t)
    (hnext : ∀ x s' t', R s' t' → InStep R (f x) (g x) s' t') :
    InStep R (a >>= f) (b >>= g) s t := by
  unfold InStep at h ⊢
  rw [outcome_bind, outcome_bind]
  cases h' : a.outcome s <;> cases h'' : b.outcome t <;> rw [h', h''] at h <;> cases h
  · exact .none
  · rename_i x y hxy
    obtain ⟨result, s'⟩ := x
    obtain ⟨result', t'⟩ := y
    obtain ⟨rfl, hR⟩ := hxy
    cases result with
    | error e => exact .some ⟨rfl, hR⟩
    | ok x => exact hnext x s' t' hR

lemma inStep_get_bind {f : σ → Act σ β} {g : τ → Act τ β} (h : InStep R (f s) (g t) s t) :
    InStep R ((get : Act σ σ) >>= f) ((get : Act τ τ) >>= g) s t := by
  unfold InStep
  rw [outcome_bind, outcome_bind]
  exact h

lemma inStep_modify_bind {c : σ → σ} {d : τ → τ} {f : PUnit → Act σ β} {g : PUnit → Act τ β}
    (h : InStep R (f ⟨⟩) (g ⟨⟩) (c s) (d t)) :
    InStep R ((modify c : Act σ PUnit) >>= f) ((modify d : Act τ PUnit) >>= g) s t := by
  unfold InStep
  rw [outcome_bind, outcome_bind]
  exact h

lemma inStep_lift_bind {result : Result α} (hR : R s t)
    (h : ∀ x, result = .ok x → InStep R (f x) (g x) s t) :
    InStep R ((liftM result : Act σ α) >>= f) ((liftM result : Act τ α) >>= g) s t := by
  unfold InStep
  rw [outcome_bind, outcome_bind, outcome_lift, outcome_lift]
  cases result with
  | error e => exact .some ⟨rfl, hR⟩
  | ok x => exact h x rfl

lemma inStep_ok_bind {x : α} {y : γ} {f : α → Act σ β} {g : γ → Act τ β}
    (h : InStep R (f x) (g y) s t) :
    InStep R ((liftM (.ok x : Result α) : Act σ α) >>= f)
      ((liftM (.ok y : Result γ) : Act τ γ) >>= g) s t := by
  unfold InStep
  rw [outcome_bind, outcome_bind]
  exact h

lemma InStep.attempt (h : InStep R a b s t) : InStep R a.attempt b.attempt s t := by
  unfold InStep at h ⊢
  rw [outcome_attempt, outcome_attempt]
  cases h' : a.outcome s <;> cases h'' : b.outcome t <;> rw [h', h''] at h <;> cases h
  · exact .none
  · rename_i h
    exact .some ⟨congrArg Except.ok h.1, h.2⟩

/-- Two actions that come to the same on their own go in step if they leave related states
behind. -/
lemma inStep_of_after {result : Result α} {P : σ → Prop}
    (ha : a.After False s fun found s' => found = result ∧ P s')
    (hb : ∀ s', P s' → b.After False t fun found t' => found = result ∧ R s' t') :
    InStep R a b s t := by
  obtain ⟨_, s', houtcome, rfl, hP⟩ := ha.exists
  obtain ⟨_, t', houtcome', rfl, hR⟩ := (hb s' hP).exists
  unfold InStep
  rw [houtcome, houtcome']
  exact .some ⟨rfl, hR⟩

lemma InStep.outcome_eq (h : InStep R a b s t) :
    (a.outcome s).map Prod.fst = (b.outcome t).map Prod.fst := by
  unfold InStep at h
  cases h' : a.outcome s <;> cases h'' : b.outcome t <;> rw [h', h''] at h <;> cases h
  · rfl
  · rename_i h
    simp [h.1]

/-- An action that goes in step with itself on related states. -/
def Mirrors (R : σ → σ → Prop) (a : Act σ α) : Prop :=
  ∀ s t, R s t → InStep R a a s t

section Mirrors

variable {R : σ → σ → Prop} {a : Act σ α} {f : α → Act σ β}

lemma mirrors_pure (x : α) : Mirrors R (pure x : Act σ α) :=
  fun _ _ h => inStep_pure h

lemma mirrors_throw (e : Error) : Mirrors R (throw e : Act σ α) :=
  fun _ _ h => inStep_throw h

lemma mirrors_endless : Mirrors R (endless : Act σ α) :=
  fun _ _ _ => inStep_endless

lemma mirrors_lift (result : Result α) : Mirrors R (liftM result : Act σ α) :=
  fun _ _ h => inStep_lift h

lemma mirrors_modify {c : σ → σ} (h : ∀ s t, R s t → R (c s) (c t)) :
    Mirrors R (modify c : Act σ PUnit) :=
  fun s t hst => inStep_modify (h s t hst)

lemma Mirrors.bind (h : Mirrors R a) (hf : ∀ x, Mirrors R (f x)) : Mirrors R (a >>= f) :=
  fun s t hst => (h s t hst).bind fun x s' t' => hf x s' t'

lemma Mirrors.attempt (h : Mirrors R a) : Mirrors R a.attempt :=
  fun s t hst => (h s t hst).attempt

lemma mirrors_forM {ι : Type} {act : ι → Act σ PUnit} (xs : List ι) (h : ∀ x, Mirrors R (act x)) :
    Mirrors R (xs.forM act) := by
  induction xs with
  | nil => exact mirrors_pure _
  | cons x xs ih => exact (h x).bind fun _ => ih

end Mirrors

end Act

end Dataflow
