import Mathlib.Tactic
import Dataflow.Act

/-!
# What actions lead to

A statement about an action speaks of its outcome and of the state that it leaves behind, for a
success and for a failure, and says what is known if the action does not come to an end. For
steps that are worth nothing unless they succeed, a shorter statement speaks of successes only, or
of these and of what is to blame for a failure.
-/

namespace Dataflow

namespace Act

variable {σ α β : Type} {s : σ} {E F : Prop}

/-! ### All outcomes -/

/-- What an action leads to: `Q` holds of its outcome and of the state it leaves behind; if it
does not come to an end, `E` holds. -/
def After (E : Prop) (a : Act σ α) (s : σ) (Q : Result α → σ → Prop) : Prop :=
  match a.outcome s with
  | none => E
  | some (result, s') => Q result s'

variable {a : Act σ α} {f : α → Act σ β} {Q : Result α → σ → Prop}
  {goal : Result β → σ → Prop}

lemma after_iff :
    a.After E s Q ↔
      (a.outcome s = none → E) ∧
        ∀ result s', a.outcome s = some (result, s') → Q result s' := by
  unfold After
  rcases a.outcome s with _ | ⟨result, s'⟩ <;> simp

lemma After.of_outcome (h : a.After E s Q) {result : Result α} {s' : σ}
    (houtcome : a.outcome s = some (result, s')) : Q result s' :=
  (after_iff.mp h).2 result s' houtcome

lemma After.isSome (h : a.After E s Q) (hE : ¬E) : (a.outcome s).isSome := by
  rw [Option.isSome_iff_ne_none]
  exact fun hnone => hE ((after_iff.mp h).1 hnone)

lemma After.exists (h : a.After False s Q) :
    ∃ result s', a.outcome s = some (result, s') ∧ Q result s' := by
  obtain ⟨⟨result, s'⟩, houtcome⟩ := Option.isSome_iff_exists.mp (h.isSome id)
  exact ⟨result, s', houtcome, h.of_outcome houtcome⟩

lemma after_of_outcome {result : Result α} {s' : σ} (houtcome : a.outcome s = some (result, s')) :
    a.After E s Q ↔ Q result s' := by
  rw [After, houtcome]

lemma After.imp {Q' : Result α → σ → Prop} (h : a.After E s Q) (hE : E → F)
    (hpost : ∀ result s', Q result s' → Q' result s') : a.After F s Q' := by
  rw [after_iff] at h ⊢
  exact ⟨fun hnone => hE (h.1 hnone), fun result s' houtcome =>
    hpost result s' (h.2 result s' houtcome)⟩

lemma After.mono {Q' : Result α → σ → Prop} (h : a.After E s Q)
    (hpost : ∀ result s', Q result s' → Q' result s') : a.After E s Q' :=
  h.imp id hpost

lemma After.and {Q' : Result α → σ → Prop} (h : a.After E s Q) (h' : a.After F s Q') :
    a.After E s fun result s' => Q result s' ∧ Q' result s' := by
  rw [after_iff] at h h' ⊢
  exact ⟨h.1, fun result s' houtcome => ⟨h.2 result s' houtcome, h'.2 result s' houtcome⟩⟩

/-- A sequence goes on after a success of its first part and stops at a failure. -/
lemma After.bind (h : a.After E s Q)
    (herror : ∀ e s', Q (.error e) s' → goal (.error e) s')
    (hok : ∀ x s', Q (.ok x) s' → (f x).After E s' goal) : (a >>= f).After E s goal := by
  unfold After at h ⊢
  rw [outcome_bind]
  revert h
  rcases a.outcome s with _ | ⟨e | x, s'⟩
  · exact id
  · exact herror e s'
  · exact hok x s'

@[simp] lemma after_pure {x : α} : (pure x : Act σ α).After E s Q ↔ Q (.ok x) s :=
  .rfl

@[simp] lemma after_throw {e : Error} :
    (throw e : Act σ α).After E s Q ↔ Q (.error e) s :=
  .rfl

@[simp] lemma after_endless : (endless : Act σ α).After E s Q ↔ E :=
  .rfl

@[simp] lemma after_lift {result : Result α} :
    (liftM result : Act σ α).After E s Q ↔ Q result s :=
  .rfl

@[simp] lemma after_modify {g : σ → σ} {Q : Result PUnit → σ → Prop} :
    (modify g : Act σ PUnit).After E s Q ↔ Q (.ok ⟨⟩) (g s) :=
  .rfl

@[simp] lemma after_attempt {Q : Result (Result α) → σ → Prop} :
    a.attempt.After E s Q ↔ a.After E s fun result s' => Q (.ok result) s' := by
  unfold After
  rw [outcome_attempt]
  rcases a.outcome s with _ | ⟨result, s'⟩ <;> rfl

lemma after_attempt_bind {f : Result α → Act σ β} :
    (a.attempt >>= f).After E s goal ↔
      a.After E s fun result s' => (f result).After E s' goal := by
  unfold After
  rw [outcome_bind, outcome_attempt]
  rcases a.outcome s with _ | ⟨result, s'⟩ <;> rfl

lemma after_get_bind {f : σ → Act σ β} :
    ((get : Act σ σ) >>= f).After E s goal ↔ (f s).After E s goal := by
  unfold After
  rw [outcome_bind, outcome_get, andThen]

lemma after_modify_bind {g : σ → σ} {f : PUnit → Act σ β} :
    ((modify g : Act σ PUnit) >>= f).After E s goal ↔ (f ⟨⟩).After E (g s) goal := by
  unfold After
  rw [outcome_bind, outcome_modify, andThen]

lemma after_set_bind {t : σ} {f : PUnit → Act σ β} :
    ((set t : Act σ PUnit) >>= f).After E s goal ↔ (f ⟨⟩).After E t goal := by
  unfold After
  rw [outcome_bind, outcome_set, andThen]

lemma after_lift_bind {result : Result α} :
    ((liftM result : Act σ α) >>= f).After E s goal ↔
      (∀ e, result = .error e → goal (.error e) s) ∧
        ∀ x, result = .ok x → (f x).After E s goal := by
  unfold After
  rw [outcome_bind, outcome_lift]
  cases result <;> simp [andThen]

/-- An invariant of each element's action is one of the whole list's. -/
lemma After.forM {ι : Type} {act : ι → Act σ PUnit} {I : List ι → σ → Prop}
    {Q : Result PUnit → σ → Prop} {xs : List ι} (h : I xs s)
    (hstep : ∀ x rest s, x ∈ xs → I (x :: rest) s → (act x).After E s fun result s' =>
      match result with
      | .ok _ => I rest s'
      | .error e => Q (.error e) s')
    (hend : ∀ s, I [] s → Q (.ok ⟨⟩) s) : (xs.forM act).After E s Q := by
  induction xs generalizing s with
  | nil => exact hend s h
  | cons x rest ih =>
    change ((act x) >>= fun _ => rest.forM act).After E s Q
    refine (hstep x rest s List.mem_cons_self h).bind (fun _ _ herror => herror) ?_
    exact fun _ s' hrest =>
      ih hrest fun y ys s hy => hstep y ys s (List.mem_cons_of_mem x hy)

/-! ### What is kept -/

/-- An action that never loses a property of the state. -/
def Keeps (P : σ → Prop) (a : Act σ α) : Prop :=
  ∀ s, P s → a.After True s fun _ s' => P s'

section Keeps

variable {P : σ → Prop}

lemma keeps_pure (x : α) : (pure x : Act σ α).Keeps P :=
  fun _ hs => after_pure.mpr hs

lemma keeps_lift (result : Result α) : (liftM result : Act σ α).Keeps P :=
  fun _ hs => after_lift.mpr hs

lemma keeps_endless : (endless : Act σ α).Keeps P :=
  fun _ _ => after_endless.mpr trivial

lemma keeps_modify {g : σ → σ} (h : ∀ s, P s → P (g s)) : (modify g : Act σ PUnit).Keeps P :=
  fun s hs => after_modify.mpr (h s hs)

lemma Keeps.bind (h : a.Keeps P) (hf : ∀ x, (f x).Keeps P) : (a >>= f).Keeps P :=
  fun s hs => (h s hs).bind (fun _ _ => id) fun x s' => hf x s'

lemma Keeps.attempt (h : a.Keeps P) : a.attempt.Keeps P :=
  fun s hs => after_attempt.mpr (h s hs)

lemma keeps_forM {ι : Type} {act : ι → Act σ PUnit} (xs : List ι)
    (h : ∀ x ∈ xs, (act x).Keeps P) : (xs.forM act).Keeps P :=
  fun _ hs => After.forM (I := fun _ => P) hs
    (fun x _ s hx hs => (h x hx s hs).mono fun result _ hs' => by cases result <;> exact hs')
    fun _ => id

end Keeps

/-- An action that never changes what a function tells of the state. -/
def Preserves {γ : Type} (tell : σ → γ) (a : Act σ α) : Prop :=
  ∀ s, a.After True s fun _ s' => tell s' = tell s

section Preserves

variable {γ : Type} {tell : σ → γ}

lemma preserves_iff_keeps : a.Preserves tell ↔ ∀ value, a.Keeps fun s => tell s = value := by
  constructor
  · rintro h _ s rfl
    exact h s
  · exact fun h s => h (tell s) s rfl

lemma preserves_modify {g : σ → σ} (h : ∀ s, tell (g s) = tell s) :
    (modify g : Act σ PUnit).Preserves tell :=
  preserves_iff_keeps.mpr fun _ => keeps_modify fun s => (h s).trans

end Preserves

/-! ### Coming to an end -/

/-- Whenever an action comes to an end, another one ends in the same way. -/
def Refines (a b : Act σ α) : Prop :=
  ∀ s, a.outcome s = none ∨ a.outcome s = b.outcome s

section Refines

variable {b : Act σ α} {g : α → Act σ β}

lemma Refines.refl : a.Refines a :=
  fun _ => .inr rfl

lemma refines_endless : (endless : Act σ α).Refines a :=
  fun _ => .inl rfl

lemma Refines.bind (h : a.Refines b) (hf : ∀ x, (f x).Refines (g x)) :
    (a >>= f).Refines (b >>= g) := by
  intro s
  rw [outcome_bind, outcome_bind]
  rcases h s with hnone | heq
  · rw [hnone]
    exact .inl rfl
  · rw [heq]
    rcases b.outcome s with _ | ⟨e | x, s'⟩
    · exact .inr rfl
    · exact .inr rfl
    · exact hf x s'

lemma Refines.bind_right (hf : ∀ x, (f x).Refines (g x)) : (a >>= f).Refines (a >>= g) :=
  Refines.refl.bind hf

lemma Refines.attempt (h : a.Refines b) : a.attempt.Refines b.attempt := by
  intro s
  rw [outcome_attempt, outcome_attempt]
  rcases h s with hnone | heq
  · rw [hnone]
    exact .inl rfl
  · rw [heq]
    exact .inr rfl

lemma refines_forM {ι : Type} {act act' : ι → Act σ PUnit} (xs : List ι)
    (h : ∀ x, (act x).Refines (act' x)) : (xs.forM act).Refines (xs.forM act') := by
  induction xs with
  | nil => exact .refl
  | cons x xs ih => exact (h x).bind fun _ => ih

lemma Refines.outcome_eq (h : a.Refines b) {result : Result α × σ}
    (houtcome : a.outcome s = some result) : b.outcome s = some result := by
  rcases h s with hnone | heq
  · rw [hnone] at houtcome
    cases houtcome
  · rw [← heq, houtcome]

lemma Refines.isSome (h : a.Refines b) (hends : (a.outcome s).isSome) : (b.outcome s).isSome := by
  obtain ⟨last, hlast⟩ := Option.isSome_iff_exists.mp hends
  exact Option.isSome_of_eq_some (h.outcome_eq hlast)

/-- What may go deeper and deeper and ends at some depth ends in the same way at all depths from
there on. -/
lemma exists_outcome {deep : Nat → Act σ α}
    (hrefines : ∀ n m, n ≤ m → (deep n).Refines (deep m))
    (hends : ∃ n, ((deep n).outcome s).isSome) :
    ∃ result s' n, ∀ m, n ≤ m → (deep m).outcome s = some (result, s') := by
  obtain ⟨n, hn⟩ := hends
  obtain ⟨⟨result, s'⟩, houtcome⟩ := Option.isSome_iff_exists.mp hn
  exact ⟨result, s', n, fun m hle => (hrefines n m hle).outcome_eq houtcome⟩

/-- What an action is sure to lead to, so is another one that ends whenever it does. -/
lemma Refines.after (h : a.Refines b) (hafter : a.After False s Q) : b.After False s Q := by
  unfold After at hafter ⊢
  rcases h s with hnone | heq
  · rw [hnone] at hafter
    exact hafter.elim
  · rwa [← heq]

end Refines

/-! ### Successes -/

/-- What holds of the value and of the state if an action succeeds. -/
def Gives (a : Act σ α) (s : σ) (Q : α → σ → Prop) : Prop :=
  a.After True s fun result s' => ∀ x, result = .ok x → Q x s'

variable {want : α → σ → Prop} {aim : β → σ → Prop}

lemma gives_iff : a.Gives s want ↔ ∀ x s', a.outcome s = some (.ok x, s') → want x s' := by
  rw [Gives, after_iff]
  constructor
  · exact fun h x s' houtcome => h.2 (.ok x) s' houtcome x rfl
  · rintro h
    refine ⟨fun _ => trivial, ?_⟩
    rintro result s' houtcome x rfl
    exact h x s' houtcome

lemma Gives.mono {want' : α → σ → Prop} (h : a.Gives s want)
    (himp : ∀ x s', want x s' → want' x s') : a.Gives s want' := by
  rw [gives_iff] at h ⊢
  exact fun x s' houtcome => himp x s' (h x s' houtcome)

lemma Gives.and {want' : α → σ → Prop} (h : a.Gives s want) (h' : a.Gives s want') :
    a.Gives s fun x s' => want x s' ∧ want' x s' := by
  rw [gives_iff] at h h' ⊢
  exact fun x s' houtcome => ⟨h x s' houtcome, h' x s' houtcome⟩

lemma Gives.and_keeps {P : σ → Prop} (h : a.Gives s want) (hkeeps : a.Keeps P) (hs : P s) :
    a.Gives s fun x s' => want x s' ∧ P s' :=
  (After.and h (hkeeps s hs)).mono fun _ _ h' x hx => ⟨h'.1 x hx, h'.2⟩

@[simp] lemma gives_bind :
    (a >>= f).Gives s aim ↔ a.Gives s fun x s' => (f x).Gives s' aim := by
  simp only [gives_iff, outcome_bind]
  rcases a.outcome s with _ | ⟨_ | x, s'⟩ <;> simp [andThen]

@[simp] lemma gives_pure {x : α} : (pure x : Act σ α).Gives s want ↔ want x s := by
  simp [gives_iff]

@[simp] lemma gives_throw {e : Error} : (throw e : Act σ α).Gives s want := by
  simp [gives_iff]

@[simp] lemma gives_endless : (endless : Act σ α).Gives s want := by
  simp [gives_iff]

@[simp] lemma gives_get {want : σ → σ → Prop} : (get : Act σ σ).Gives s want ↔ want s s := by
  simp [gives_iff]

@[simp] lemma gives_set {t : σ} {want : PUnit → σ → Prop} :
    (set t : Act σ PUnit).Gives s want ↔ want ⟨⟩ t := by
  rw [gives_iff]
  exact ⟨fun h => h _ _ rfl, by rintro h _ _ ⟨⟩; exact h⟩

@[simp] lemma gives_modify {g : σ → σ} {want : PUnit → σ → Prop} :
    (modify g : Act σ PUnit).Gives s want ↔ want ⟨⟩ (g s) := by
  rw [gives_iff]
  exact ⟨fun h => h _ _ rfl, by rintro h _ _ ⟨⟩; exact h⟩

@[simp] lemma gives_lift {result : Result α} :
    (liftM result : Act σ α).Gives s want ↔ ∀ x, result = .ok x → want x s := by
  simp [gives_iff]

/-! ### Actions that always end -/

/-- An action that comes to an end in every state. -/
def Ends (a : Act σ α) : Prop :=
  ∀ s, (a.outcome s).isSome

lemma isSome_bind (h : (a.outcome s).isSome) (hf : ∀ x, (f x).Ends) :
    ((a >>= f).outcome s).isSome := by
  rw [outcome_bind]
  obtain ⟨⟨result, s'⟩, houtcome⟩ := Option.isSome_iff_exists.mp h
  rw [houtcome]
  cases result with
  | error e => rfl
  | ok x => exact hf x s'

lemma Ends.bind (h : a.Ends) (hf : ∀ x, (f x).Ends) : (a >>= f).Ends :=
  fun s => isSome_bind (h s) hf

lemma ends_pure (x : α) : (pure x : Act σ α).Ends :=
  fun _ => rfl

lemma ends_throw (e : Error) : (throw e : Act σ α).Ends :=
  fun _ => rfl

lemma ends_lift (result : Result α) : (liftM result : Act σ α).Ends :=
  fun _ => rfl

lemma ends_modify (g : σ → σ) : (modify g : Act σ PUnit).Ends :=
  fun _ => rfl

lemma ends_set (s : σ) : (set s : Act σ PUnit).Ends :=
  fun _ => rfl

lemma ends_get : (get : Act σ σ).Ends :=
  fun _ => rfl

lemma ends_mapM {ι : Type} {act : ι → Act σ α} (xs : List ι) (h : ∀ x, (act x).Ends) :
    (xs.mapM act).Ends := by
  induction xs with
  | nil => exact ends_pure _
  | cons x xs ih =>
    rw [List.mapM_cons]
    exact (h x).bind fun _ => ih.bind fun _ => ends_pure _

lemma ends_forM {ι : Type} {act : ι → Act σ PUnit} (xs : List ι) (h : ∀ x, (act x).Ends) :
    (xs.forM act).Ends := by
  induction xs with
  | nil => exact ends_pure _
  | cons x xs ih => exact (h x).bind fun _ => ih

lemma isSome_lift_bind {result : Result α}
    (h : ∀ x, result = .ok x → ((f x).outcome s).isSome) :
    (((liftM result : Act σ α) >>= f).outcome s).isSome := by
  rw [outcome_bind, outcome_lift]
  cases result with
  | error e => rfl
  | ok x => exact h x rfl

/-- An action comes to an end in a state, and if it succeeds, it gives what is wanted. -/
structure Brings (a : Act σ α) (s : σ) (want : α → σ → Prop) : Prop where
  ends : (a.outcome s).isSome
  gives : a.Gives s want

section Brings

variable {want want' : α → σ → Prop} {aim : β → σ → Prop}

lemma Brings.mono (h : a.Brings s want) (himp : ∀ x s', want x s' → want' x s') :
    a.Brings s want' :=
  ⟨h.ends, h.gives.mono himp⟩

lemma Brings.bind (h : a.Brings s want) (hf : ∀ x s', want x s' → (f x).Brings s' aim) :
    (a >>= f).Brings s aim := by
  refine ⟨?_, gives_bind.mpr (h.gives.mono fun x s' hx => (hf x s' hx).gives)⟩
  obtain ⟨⟨result, s'⟩, houtcome⟩ := Option.isSome_iff_exists.mp h.ends
  rw [outcome_bind, houtcome]
  cases result with
  | error e => rfl
  | ok x => exact (hf x s' (gives_iff.mp h.gives x s' houtcome)).ends

end Brings

/-! ### Failures with a cause -/

/-- What holds of the value and of the state if an action succeeds, and what holds of the error and
of the state if it fails. -/
def Answers (a : Act σ α) (s : σ) (blame : Error → σ → Prop) (want : α → σ → Prop) : Prop :=
  a.After True s fun result s' =>
    match result with
    | .ok x => want x s'
    | .error e => blame e s'

section Answers

variable {blame : Error → σ → Prop} {want : α → σ → Prop} {aim : β → σ → Prop}

lemma Answers.of_outcome_ok (h : a.Answers s blame want) {x : α} {s' : σ}
    (houtcome : a.outcome s = some (.ok x, s')) : want x s' :=
  After.of_outcome h houtcome

lemma Answers.of_outcome_error (h : a.Answers s blame want) {e : Error} {s' : σ}
    (houtcome : a.outcome s = some (.error e, s')) : blame e s' :=
  After.of_outcome h houtcome

lemma Answers.mono {want' : α → σ → Prop} (h : a.Answers s blame want)
    (himp : ∀ x s', want x s' → want' x s') : a.Answers s blame want' :=
  After.mono h fun result s' => by
    cases result with
    | ok x => exact himp x s'
    | error e => exact id

lemma Answers.mono_blame {blame' : Error → σ → Prop} (h : a.Answers s blame want)
    (himp : ∀ e s', blame e s' → blame' e s') : a.Answers s blame' want :=
  After.mono h fun result s' => by
    cases result with
    | ok x => exact id
    | error e => exact himp e s'

lemma Answers.gives (h : a.Answers s blame want) : a.Gives s want :=
  After.mono h fun result s' hanswer x hx => by
    subst hx
    exact hanswer

lemma Gives.answers (h : a.Gives s want) : a.Answers s (fun _ _ => True) want :=
  After.mono h fun result s' hgives => by
    cases result with
    | ok x => exact hgives x rfl
    | error e => trivial

lemma Answers.and_gives {want' : α → σ → Prop} (h : a.Answers s blame want)
    (h' : a.Gives s want') : a.Answers s blame fun x s' => want x s' ∧ want' x s' := by
  refine (After.and h h').mono ?_
  rintro (e | x) s' ⟨hanswer, hgives⟩
  · exact hanswer
  · exact ⟨hanswer, hgives x rfl⟩

lemma Answers.bind (h : a.Answers s blame want)
    (hf : ∀ x s', want x s' → (f x).Answers s' blame aim) : (a >>= f).Answers s blame aim :=
  After.bind h (fun _ _ => id) hf

lemma answers_pure {x : α} (h : want x s) : (pure x : Act σ α).Answers s blame want :=
  after_pure.mpr h

lemma answers_endless : (endless : Act σ α).Answers s blame want :=
  after_endless.mpr trivial

lemma answers_bind_of_outcome {x : α} {s' : σ} (houtcome : a.outcome s = some (.ok x, s'))
    (h : (f x).Answers s' blame aim) : (a >>= f).Answers s blame aim :=
  have hx : a.Answers s blame fun y s'' => y = x ∧ s'' = s' :=
    (after_of_outcome houtcome).mpr ⟨rfl, rfl⟩
  hx.bind fun _ _ ⟨hx, hs'⟩ => hx ▸ hs' ▸ h

lemma answers_lift_bind {result : Result α} (herror : ∀ e, result = .error e → blame e s)
    (hok : ∀ x, result = .ok x → (f x).Answers s blame aim) :
    ((liftM result : Act σ α) >>= f).Answers s blame aim :=
  after_lift_bind.mpr ⟨herror, hok⟩

end Answers

end Act

end Dataflow
