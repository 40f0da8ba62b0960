import Mathlib.Data.Fintype.EquivFin
import Mathlib.Order.WellFounded
import Dataflow.Proofs.Plan.Conditions

/-!
# The order of the operators

Taking out the operators whose producers are gone, one by one, gives an order in which producers
come before consumers. Operators are left over exactly when the plan has a cycle.
-/

namespace Dataflow

namespace Plan

open Relation

variable {p : Plan} {remaining : List OperatorId}

lemma isReady_iff {id : OperatorId} :
    p.isReady remaining id = true ↔ ∀ a, p.Feeds a id → a ∉ remaining := by
  simp [isReady, mem_producersOf]

lemma takeReady_of_none (h : remaining.find? (p.isReady remaining) = none) :
    p.takeReady remaining = ([], remaining) := by
  rw [takeReady]
  split
  · rfl
  · simp_all

lemma takeReady_of_some {id : OperatorId} (h : remaining.find? (p.isReady remaining) = some id) :
    p.takeReady remaining =
      (id :: (p.takeReady (remaining.erase id)).1, (p.takeReady (remaining.erase id)).2) := by
  rw [takeReady]
  split
  · simp_all
  · simp_all

lemma perm_takeReady (p : Plan) (remaining : List OperatorId) :
    ((p.takeReady remaining).1 ++ (p.takeReady remaining).2).Perm remaining := by
  induction remaining using takeReady.induct p with
  | case1 remaining hnone =>
    rw [takeReady_of_none hnone]
    exact .refl _
  | case2 remaining id hsome _ _ _ ih =>
    rw [takeReady_of_some hsome]
    exact (ih.cons id).trans (List.perm_cons_erase (List.mem_of_find?_eq_some hsome)).symm

lemma exists_producer_of_mem_left {id : OperatorId} (h : id ∈ (p.takeReady remaining).2) :
    ∃ a ∈ (p.takeReady remaining).2, p.Feeds a id := by
  induction remaining using takeReady.induct p with
  | case1 remaining hnone =>
    rw [takeReady_of_none hnone] at h ⊢
    have hready := List.find?_eq_none.mp hnone id h
    rw [isReady_iff] at hready
    push Not at hready
    obtain ⟨a, hfeeds, ha⟩ := hready
    exact ⟨a, ha, hfeeds⟩
  | case2 remaining first hsome _ _ _ ih =>
    rw [takeReady_of_some hsome] at h ⊢
    exact ih h

/-- An operator that is taken is fed neither by itself nor by an operator that is taken later or
left. -/
lemma not_feeds_of_taken {before after : List OperatorId} {id a : OperatorId}
    (htaken : (p.takeReady remaining).1 = before ++ id :: after)
    (ha : a ∈ id :: after ++ (p.takeReady remaining).2) : ¬ p.Feeds a id := by
  induction remaining using takeReady.induct p generalizing before with
  | case1 remaining hnone =>
    simp [takeReady_of_none hnone] at htaken
  | case2 remaining first hsome _ _ _ ih =>
    have hperm := perm_takeReady p remaining
    rw [takeReady_of_some hsome] at htaken ha hperm
    rcases before with _ | ⟨_, before⟩
    · obtain ⟨rfl, rfl⟩ := List.cons.inj htaken
      exact fun hfeeds => isReady_iff.mp (List.find?_some hsome) a hfeeds (hperm.mem_iff.mp ha)
    · obtain ⟨-, hrest⟩ := List.cons.inj htaken
      exact ih hrest ha

/-- If each entry of a list has one of the list before it, some entry comes before itself. -/
lemma exists_cycle {α : Type} [DecidableEq α] {r : α → α → Prop} {left : List α}
    (hne : left ≠ []) (hleft : ∀ a ∈ left, ∃ b ∈ left, r b a) : ∃ a, TransGen r a a := by
  by_contra hacyclic
  push Not at hacyclic
  -- without a cycle, paths order the finite list, which then has a first entry
  let before (a b : {a // a ∈ left}) : Prop := TransGen r a.1 b.1
  have : Std.Irrefl before := ⟨fun a => hacyclic a.1⟩
  have : IsTrans _ before := ⟨fun _ _ _ hab hbc => TransGen.trans hab hbc⟩
  have wf : WellFounded before := Finite.wellFounded_of_trans_of_irrefl before
  obtain ⟨a, ha⟩ := List.exists_mem_of_ne_nil left hne
  obtain ⟨first, -, hfirst⟩ := wf.has_min Set.univ ⟨⟨a, ha⟩, trivial⟩
  obtain ⟨b, hb, hbefore⟩ := hleft first.1 first.2
  exact hfirst ⟨b, hb⟩ trivial (TransGen.single hbefore)

/-- Producers come before consumers. -/
def Sorted (p : Plan) (order : List OperatorId) : Prop :=
  ∀ before id after, order = before ++ id :: after → ∀ a, p.Feeds a id → a ∈ before

/-- An order in which producers come before consumers has each consumer at a greater place. -/
lemma Sorted.idxOf_lt {order : List OperatorId} (h : p.Sorted order) (hnodup : order.Nodup)
    {a b : OperatorId} (hb : b ∈ order) (hfeeds : p.Feeds a b) :
    order.idxOf a < order.idxOf b := by
  obtain ⟨before, after, rfl⟩ := List.append_of_mem hb
  have ha := h before b after rfl a hfeeds
  have hnot : b ∉ before := fun hmem =>
    (List.nodup_append.mp hnodup).2.2 b hmem b List.mem_cons_self rfl
  rw [List.idxOf_append_of_mem ha, List.idxOf_append_of_notMem hnot]
  have := List.idxOf_lt_length_of_mem ha
  omega

/-- No operator feeds one that comes before it, or itself. -/
lemma Sorted.not_mem_of_feeds {before after : List OperatorId} {id c : OperatorId}
    (h : p.Sorted (before ++ id :: after)) (hnodup : (before ++ id :: after).Nodup)
    (hfeeds : p.Feeds id c) : c ∉ before ∧ c ≠ id := by
  have hnot : id ∉ before := fun hmem =>
    (List.nodup_append.mp hnodup).2.2 id hmem id List.mem_cons_self rfl
  have hid : (before ++ id :: after).idxOf id = before.length := by
    rw [List.idxOf_append_of_notMem hnot, List.idxOf_cons_self, Nat.add_zero]
  constructor
  · intro hc
    have hlt := h.idxOf_lt hnodup (List.mem_append_left _ hc) hfeeds
    rw [hid, List.idxOf_append_of_mem hc] at hlt
    exact absurd (List.idxOf_lt_length_of_mem hc) (by omega)
  · rintro rfl
    exact lt_irrefl _ (h.idxOf_lt hnodup (by simp) hfeeds)

lemma Sorted.acyclic {order : List OperatorId} (h : p.Sorted order) (hnodup : order.Nodup)
    (hall : ∀ a b, p.Feeds a b → b ∈ order) : ShapeCondition.acyclic.Holds p := by
  have hlt : ∀ a b, TransGen p.Feeds a b → order.idxOf a < order.idxOf b := by
    intro a b hpath
    induction hpath with
    | single hfeeds => exact h.idxOf_lt hnodup (hall _ _ hfeeds) hfeeds
    | tail _ hfeeds ih => exact ih.trans (h.idxOf_lt hnodup (hall _ _ hfeeds) hfeeds)
  exact fun id hcycle => lt_irrefl _ (hlt id id hcycle)

/-- The order of a plan has each of its operators once, producers before consumers. -/
lemma order_eq_ok {order : List OperatorId} (hresolved : ShapeCondition.resolved.Holds p)
    (h : p.order = .ok order) : order.Perm p.ids ∧ p.Sorted order := by
  have hperm := perm_takeReady p p.ids
  unfold Plan.order at h
  split at h
  · rename_i taken htake
    obtain rfl : taken = order := by simpa using h
    rw [htake, List.append_nil] at hperm
    refine ⟨hperm, fun before id after heq a hfeeds => ?_⟩
    have ha : a ∈ taken := hperm.mem_iff.mpr (hresolved.ids_of_feeds hfeeds).1
    rw [heq] at ha
    rcases List.mem_append.mp ha with ha | ha
    · exact ha
    · have hnot := not_feeds_of_taken (p := p) (a := a) (by rw [htake]; exact heq)
        (List.mem_append_left _ ha)
      exact absurd hfeeds hnot
  · simp at h

lemma acyclic_of_order_eq_ok {order : List OperatorId}
    (hresolved : ShapeCondition.resolved.Holds p) (h : p.order = .ok order) :
    ShapeCondition.acyclic.Holds p := by
  obtain ⟨hperm, hsorted⟩ := order_eq_ok hresolved h
  refine hsorted.acyclic (hperm.nodup_iff.mpr p.nodup_ids) fun a b hfeeds => ?_
  exact hperm.mem_iff.mpr (hresolved.ids_of_feeds hfeeds).2

lemma order_eq_error {e : ShapeError} (h : p.order = .error e) :
    (∃ id, e = .cycle id) ∧ ¬ ShapeCondition.acyclic.Holds p := by
  unfold Plan.order at h
  split at h
  · simp at h
  · rename_i taken first rest htake
    refine ⟨⟨_, (Except.error.inj h).symm⟩, fun hacyclic => ?_⟩
    have hproducer (id : OperatorId) (hid : id ∈ first :: rest) :=
      exists_producer_of_mem_left (by rwa [htake] : id ∈ (p.takeReady p.ids).2)
    simp only [htake] at hproducer
    obtain ⟨id, hcycle⟩ := exists_cycle (List.cons_ne_nil first rest) hproducer
    exact hacyclic id hcycle

end Plan

end Dataflow
