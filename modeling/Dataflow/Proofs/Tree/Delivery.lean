import Dataflow.Proofs.Tree.History
import Dataflow.Proofs.Tree.Turns

/-!
# What a node delivers

A node with a team pulls its inputs in turn, deals their tuples to its workers in turn, and tells
every worker when an input has ended. It gives what its workers make, in the order in which they
make it. The invariant says how far a team has come with a history.
-/

namespace Dataflow

namespace Moment

/-- The input that something is about. -/
def input : Moment → Nat
  | pulled i _ => i
  | handed i .. => i

/-- The input that is pulled, and what it gives. -/
def pull? : Moment → Option (Nat × Option Tuple)
  | pulled i given => some (i, given)
  | handed .. => none

/-- What an input gives when it is pulled. -/
def givenBy? (i : Nat) : Moment → Option (Option Tuple)
  | pulled j given => if j = i then some given else none
  | handed .. => none

/-- What is taken in that came from an input, and by which worker. -/
def takenFrom? (i : Nat) : Moment → Option (Nat × Input)
  | pulled .. => none
  | handed j worker taken _ => if j = i then some (worker, taken) else none

/-- The worker that takes in a tuple. -/
def dealt? : Moment → Option Nat
  | handed _ worker (.tuple ..) _ => some worker
  | _ => none

variable {i : Nat} {moment : Moment}

lemma givenBy?_eq_none (h : moment.input ≠ i) : moment.givenBy? i = none := by
  cases moment with
  | pulled => exact if_neg h
  | handed => rfl

lemma takenFrom?_eq_none (h : moment.input ≠ i) : moment.takenFrom? i = none := by
  cases moment with
  | pulled => rfl
  | handed => exact if_neg h

end Moment

/-- The pulls of a history. -/
def pulls (history : List Moment) : List (Nat × Option Tuple) :=
  history.filterMap Moment.pull?

/-- The workers that tuples were dealt to. -/
def dealtTo (history : List Moment) : List Nat :=
  history.filterMap Moment.dealt?

/-- Whether an input has ended. -/
def hasEnded (i : Nat) (history : List Moment) : Bool :=
  decide ((i, none) ∈ pulls history)

variable {σ ω : Type} [Worker ω] {t t' : Tree σ ω} {q workers i j k : Nat} {link : Link}
  {history more told : List Moment} {x : Tuple} {made : List Tuple}

lemma pulls_append (history more : List Moment) :
    pulls (history ++ more) = pulls history ++ pulls more :=
  List.filterMap_append

lemma dealtTo_append (history more : List Moment) :
    dealtTo (history ++ more) = dealtTo history ++ dealtTo more :=
  List.filterMap_append

lemma hasEnded_eq_false_iff : hasEnded i history = false ↔ (i, none) ∉ pulls history :=
  decide_eq_false_iff_not

lemma hasEnded_append (i : Nat) (history more : List Moment) :
    hasEnded i (history ++ more) = (hasEnded i history || hasEnded i more) := by
  simp only [hasEnded, pulls_append, List.mem_append, Bool.decide_or]

/-- The workers that are told take in the end of the input one after another, whatever they make
of it. -/
lemma Tree.Tells.filterMap_eq {ws : List Nat} {β : Type} {read : Moment → Option β}
    (h : Tells q i link ws t told t')
    (hread : ∀ k made, read (.handed i k (.exhausted link) made) =
      read (.handed i k (.exhausted link) [])) :
    told.filterMap read = ws.filterMap fun k => read (.handed i k (.exhausted link) []) := by
  induction h with
  | nil => rfl
  | cons _ _ ih => rw [List.filterMap_cons, List.filterMap_cons, hread, ih]

lemma Tree.Tells.input_eq {ws : List Nat} (h : Tells q i link ws t told t') :
    ∀ moment ∈ told, moment.input = i := by
  induction h with
  | nil => simp
  | cons _ _ ih => exact List.forall_mem_cons.mpr ⟨rfl, ih⟩

lemma Tree.Tells.pulls_eq {ws : List Nat} (h : Tells q i link ws t told t') : pulls told = [] :=
  (h.filterMap_eq fun _ _ => rfl).trans (List.filterMap_none _)

lemma Tree.Tells.dealtTo_eq {ws : List Nat} (h : Tells q i link ws t told t') :
    dealtTo told = [] :=
  (h.filterMap_eq fun _ _ => rfl).trans (List.filterMap_none _)

lemma hasEnded_dealt (i j k : Nat) (x : Tuple) (taken : Input) (made : List Tuple) :
    hasEnded j [.pulled i (some x), .handed i k taken made] = false := by
  simp [hasEnded, pulls, Moment.pull?]

lemma Tree.Tells.pulls_ended {ws : List Nat} (h : Tells q i link ws t told t') :
    pulls (.pulled i none :: told) = [(i, none)] :=
  congrArg ((i, none) :: ·) h.pulls_eq

lemma Tree.Tells.hasEnded_eq {ws : List Nat} (h : Tells q i link ws t told t') (j : Nat) :
    hasEnded j (.pulled i none :: told) = decide (j = i) := by
  simp [hasEnded, h.pulls_ended]

/-- The tuples of an input are taken in by one worker each, in the order in which they come. Its
end, once it has come, is then taken in by every worker once. -/
def Delivered (workers : Nat) (link : Link) (i : Nat) (ended : Bool) (history : List Moment) :
    Prop :=
  ∃ dealt : List (Nat × Tuple),
    history.filterMap (Moment.givenBy? i) =
      dealt.map (fun (_, x) => some x) ++ (if ended then [none] else []) ∧
    history.filterMap (Moment.takenFrom? i) =
      dealt.map (fun (k, x) => (k, .tuple x link)) ++
        (if ended then (List.range workers).map fun k => (k, .exhausted link) else [])

namespace Delivered

lemma append {ended : Bool} (h : Delivered workers link i ended history)
    (hmore : ∀ moment ∈ more, moment.input ≠ i) :
    Delivered workers link i ended (history ++ more) := by
  obtain ⟨dealt, hgiven, htaken⟩ := h
  refine ⟨dealt, ?_, ?_⟩
  · rw [List.filterMap_append, hgiven, List.filterMap_eq_nil_iff.mpr fun moment hmem =>
      Moment.givenBy?_eq_none (hmore moment hmem), List.append_nil]
  · rw [List.filterMap_append, htaken, List.filterMap_eq_nil_iff.mpr fun moment hmem =>
      Moment.takenFrom?_eq_none (hmore moment hmem), List.append_nil]

lemma deal (h : Delivered workers link i false history) (k : Nat) (x : Tuple) (made : List Tuple) :
    Delivered workers link i false
      (history ++ [.pulled i (some x), .handed i k (.tuple x link) made]) := by
  obtain ⟨dealt, hgiven, htaken⟩ := h
  refine ⟨dealt ++ [(k, x)], ?_, ?_⟩
  · rw [List.filterMap_append, hgiven]
    simp [List.filterMap_cons, Moment.givenBy?]
  · rw [List.filterMap_append, htaken]
    simp [List.filterMap_cons, Moment.takenFrom?]

lemma finish (h : Delivered workers link i false history)
    (htells : Tree.Tells q i link (List.range workers) t told t') :
    Delivered workers link i true (history ++ .pulled i none :: told) := by
  obtain ⟨dealt, hgiven, htaken⟩ := h
  refine ⟨dealt, ?_, ?_⟩
  · have htold : told.filterMap (Moment.givenBy? i) = [] :=
      (htells.filterMap_eq fun _ _ => rfl).trans (List.filterMap_none _)
    rw [List.filterMap_append, hgiven, List.filterMap_cons, htold]
    simp [Moment.givenBy?]
  · have htold : told.filterMap (Moment.takenFrom? i) = _ := htells.filterMap_eq fun _ _ => rfl
    rw [List.filterMap_append, htaken, List.filterMap_cons, htold]
    simp [Moment.takenFrom?]

end Delivered

/-- What comes from the inputs is delivered, and the tuples are dealt to the workers in turn. -/
structure Deliveries (slots : List Slot) (workers : Nat) (history : List Moment) : Prop where
  inside : ∀ moment ∈ history, moment.input < slots.length
  dealt : ∀ n k, (dealtTo history)[n]? = some k → k = n % workers
  delivered : ∀ i slot, slots[i]? = some slot →
    Delivered workers slot.link i (hasEnded i history) history

namespace Deliveries

variable {slots : List Slot} {slot : Slot}

lemma nil : Deliveries slots workers [] where
  inside := by simp
  dealt := by simp [dealtTo]
  delivered _ _ _ := ⟨[], rfl, rfl⟩

/-- An input gives a tuple, and the worker whose turn it is takes it in. -/
lemma deal (h : Deliveries slots workers history) (hslot : slots[i]? = some slot)
    (hlive : (i, none) ∉ pulls history) (hk : k = (dealtTo history).length % workers) (x : Tuple)
    (made : List Tuple) : Deliveries slots workers
      (history ++ [.pulled i (some x), .handed i k (.tuple x slot.link) made]) where
  inside := by
    have hi := (List.getElem?_eq_some_iff.mp hslot).1
    simpa [or_imp, forall_and, Moment.input, hi] using h.inside
  dealt n k' hn := by
    rw [dealtTo_append] at hn
    rcases getElem?_concat_eq_some_iff.mp hn with hold | ⟨rfl, rfl⟩
    · exact h.dealt n k' hold
    · exact hk
  delivered j slot' hj := by
    rw [hasEnded_append, hasEnded_dealt, Bool.or_false]
    by_cases hij : i = j
    · subst hij
      cases hslot.symm.trans hj
      have hdelivered := h.delivered i slot hslot
      rw [hasEnded_eq_false_iff.mpr hlive] at hdelivered ⊢
      exact hdelivered.deal k x made
    · exact (h.delivered j slot' hj).append (by simpa [Moment.input] using hij)

/-- An input ends, and all workers take that in. -/
lemma finish (h : Deliveries slots workers history) (hslot : slots[i]? = some slot)
    (hlive : (i, none) ∉ pulls history)
    (htells : Tree.Tells q i slot.link (List.range workers) t told t') :
    Deliveries slots workers (history ++ .pulled i none :: told) where
  inside moment hmem := by
    rcases List.mem_append.mp hmem with hold | hnew
    · exact h.inside moment hold
    · have hi := (List.getElem?_eq_some_iff.mp hslot).1
      rcases List.mem_cons.mp hnew with rfl | htold
      · exact hi
      · rwa [htells.input_eq moment htold]
  dealt := by
    have hnone : dealtTo (.pulled i none :: told) = [] := htells.dealtTo_eq
    rw [dealtTo_append, hnone, List.append_nil]
    exact h.dealt
  delivered j slot' hj := by
    rw [hasEnded_append, htells.hasEnded_eq]
    by_cases hij : i = j
    · subst hij
      cases hslot.symm.trans hj
      have hdelivered := h.delivered i slot hslot
      rw [hasEnded_eq_false_iff.mpr hlive] at hdelivered ⊢
      simpa using hdelivered.finish htells
    · rw [decide_eq_false (Ne.symm hij), Bool.or_false]
      refine (h.delivered j slot' hj).append (List.forall_mem_cons.mpr ⟨hij, ?_⟩)
      exact fun moment htold => htells.input_eq moment htold ▸ hij

end Deliveries

end Dataflow
