import Dataflow.Proofs.Act
import Dataflow.Tree.Drive

/-!
# More depth changes nothing

An operation that comes to an end at some depth ends in the same way wherever it may go deeper.
-/

namespace Dataflow

namespace Tree

open Act

variable {σ ω : Type}

section Nodes

variable {place : Nat}

lemma refines_startEndpoint {a b : Drive σ ω Unit} (h : a.Refines b) (c : ConnectorId) (i : Nat) :
    ((seat c).startEndpoint a i).Refines ((seat c).startEndpoint b i) := by
  refine .bind_right fun t => .bind_right fun opened => .bind_right fun _ => ?_
  split_ifs
  · exact h
  · exact .refl

lemma refines_pull {a b : Drive σ ω (Option Tuple)} (h : a.Refines b) (c : ConnectorId) (i : Nat) :
    ((seat c).pull a i).Refines ((seat c).pull b i) := by
  refine .bind_right fun t => .bind_right fun _ => ?_
  split_ifs
  · exact .refl
  · exact .refl
  · exact h.bind fun _ => .refl

/-- What is done to a supply may go deeper along with what is done to the node behind it. -/
lemma refines_onSupply {α : Type} {onNode onNode' : Nat → Drive σ ω α}
    {onEndpoint : Seat (Tree σ ω) → Drive σ ω α → Nat → Drive σ ω α}
    (hnode : ∀ q, (onNode q).Refines (onNode' q))
    (hendpoint : ∀ c q i,
      (onEndpoint (seat c) (onNode q) i).Refines (onEndpoint (seat c) (onNode' q) i)) :
    ∀ x, (onSupply onNode onEndpoint x).Refines (onSupply onNode' onEndpoint x)
  | .node q => hnode q
  | .endpoint c i => .bind_right fun _ => hendpoint c _ i

lemma refines_startAt [Source σ] [Worker ω] {a b : Nat → Drive σ ω Unit}
    (h : ∀ q, (a q).Refines (b q)) : (startAt a place).Refines (startAt b place) := by
  refine .bind_right fun t => ?_
  split
  · exact .refl
  · refine .bind_right fun _ => .bind_right fun _ => ?_
    split
    · exact .refl
    · refine Refines.bind (refines_forM _ fun slot => ?_) fun _ => .refl
      exact refines_onSupply h (fun c q i => refines_startEndpoint (h q) c i) _

lemma refines_feed [Worker ω] {a b : Nat → Drive σ ω (Option Tuple)}
    (h : ∀ q, (a q).Refines (b q)) (i : Nat) (slot : Slot) :
    (feed a place i slot).Refines (feed b place i slot) := by
  refine .bind_right fun _ => Refines.bind ?_ fun _ => .refl
  exact refines_onSupply h (fun c q i => refines_pull (h q) c i) _

lemma refines_nextAt [Source σ] [Worker ω] {a b : Nat → Drive σ ω (Option Tuple)}
    (h : ∀ q, (a q).Refines (b q)) : (nextAt a place).Refines (nextAt b place) := by
  refine .bind_right fun t => ?_
  split
  · exact .refl
  · refine .bind_right fun _ => ?_
    split
    · exact .refl
    · split
      · exact .refl
      · split
        · exact .refl
        · exact (refines_feed h _ _).bind fun _ => h _

lemma refines_stopEndpoint {a b : Drive σ ω Unit} (h : a.Refines b) (c : ConnectorId) (i : Nat) :
    ((seat c).stopEndpoint a i).Refines ((seat c).stopEndpoint b i) := by
  refine .bind_right fun t => .bind_right fun con => .bind_right fun _ => ?_
  split_ifs
  · exact h
  · exact .refl

lemma refines_tryAll {ι : Type} {a b : ι → Drive σ ω Unit} (h : ∀ x, (a x).Refines (b x))
    (xs : List ι) (rest : List (Drive σ ω Unit)) :
    (tryAll (xs.map a ++ rest)).Refines (tryAll (xs.map b ++ rest)) := by
  induction xs with
  | nil => exact .refl
  | cons x xs ih => exact (h x).attempt.bind fun _ => ih.attempt.bind fun _ => .refl

lemma refines_stopAt [Source σ] [Worker ω] {a b : Nat → Drive σ ω Unit}
    (h : ∀ q, (a q).Refines (b q)) : (stopAt a place).Refines (stopAt b place) := by
  refine .bind_right fun t => ?_
  split
  · exact .refl
  · refine .bind_right fun _ => .bind_right fun _ => ?_
    split
    · exact .refl
    · refine .bind_right fun _ => refines_tryAll (fun slot => ?_) _ _
      exact refines_onSupply h (fun c q i => refines_stopEndpoint (h q) c i) _

end Nodes

section Trees

variable [Source σ] [Worker ω] {depth depth' : Nat}

lemma refines_startNode (hle : depth ≤ depth') (place : Nat) :
    (startNode depth place : Drive σ ω Unit).Refines (startNode depth' place) := by
  induction depth generalizing depth' place with
  | zero => exact refines_endless
  | succ depth ih =>
    obtain ⟨depth', rfl⟩ := Nat.exists_eq_add_of_le' (Nat.one_le_of_lt hle)
    exact refines_startAt fun q => ih (Nat.le_of_succ_le_succ hle) q

lemma refines_start (hle : depth ≤ depth') :
    (start depth : Drive σ ω Unit).Refines (start depth') :=
  .bind_right fun t => refines_startNode hle t.root

lemma refines_nextNode (hle : depth ≤ depth') (place : Nat) :
    (nextNode depth place : Drive σ ω (Option Tuple)).Refines (nextNode depth' place) := by
  induction depth generalizing depth' place with
  | zero => exact refines_endless
  | succ depth ih =>
    obtain ⟨depth', rfl⟩ := Nat.exists_eq_add_of_le' (Nat.one_le_of_lt hle)
    exact refines_nextAt fun q => ih (Nat.le_of_succ_le_succ hle) q

lemma refines_next (hle : depth ≤ depth') :
    (next depth : Drive σ ω (Option Tuple)).Refines (next depth') :=
  .bind_right fun t => refines_nextNode hle t.root

lemma refines_drain {rounds rounds' : Nat} (hle : depth ≤ depth') (hrounds : rounds ≤ rounds')
    (given : List Tuple) :
    (drain depth rounds given : Drive σ ω (List Tuple)).Refines (drain depth' rounds' given) := by
  induction rounds generalizing rounds' given with
  | zero => exact refines_endless
  | succ rounds ih =>
    obtain ⟨rounds', rfl⟩ := Nat.exists_eq_add_of_le' (Nat.one_le_of_lt hrounds)
    refine (refines_next hle).bind fun x => ?_
    match x with
    | some x => exact ih (Nat.le_of_succ_le_succ hrounds) (x :: given)
    | none => exact .refl

lemma refines_stopNode (hle : depth ≤ depth') (place : Nat) :
    (stopNode depth place : Drive σ ω Unit).Refines (stopNode depth' place) := by
  induction depth generalizing depth' place with
  | zero => exact refines_endless
  | succ depth ih =>
    obtain ⟨depth', rfl⟩ := Nat.exists_eq_add_of_le' (Nat.one_le_of_lt hle)
    exact refines_stopAt fun q => ih (Nat.le_of_succ_le_succ hle) q

lemma refines_stop (hle : depth ≤ depth') :
    (stop depth : Drive σ ω Unit).Refines (stop depth') :=
  .bind_right fun t => refines_stopNode hle t.root

lemma refines_complete (hle : depth ≤ depth') :
    (complete depth : Drive σ ω (List Tuple)).Refines (complete depth') := by
  refine Refines.bind ?_ fun _ => (refines_stop hle).attempt.bind fun _ => .refl
  exact ((refines_start hle).bind fun _ => refines_drain hle hle []).attempt

end Trees

end Tree

end Dataflow
