import Dataflow.Proofs.Plan.Conditions

/-!
# What a search misses

A search from a frontier leaves exactly those operators that no path from the frontier leads to.
-/

namespace Dataflow

namespace Plan

open Relation

variable {next : OperatorId → List OperatorId} {unseen frontier : List OperatorId}

lemma mem_met {targets : List OperatorId} {id : OperatorId} :
    id ∈ met targets unseen ↔ id ∈ unseen ∧ id ∈ targets := by
  simp [met]

lemma mem_missed {targets : List OperatorId} {id : OperatorId} :
    id ∈ missed targets unseen ↔ id ∈ unseen ∧ id ∉ targets := by
  simp [missed]

/-- What is never reached was unseen in the beginning, and stays in its order. -/
lemma beyond_sublist : (beyond next unseen frontier).Sublist unseen := by
  induction unseen, frontier using beyond.induct next with
  | case1 unseen =>
    rw [beyond]
  | case2 unseen first frontier ih =>
    rw [beyond]
    exact ih.trans List.filter_sublist

lemma mem_unseen_of_mem_beyond {id : OperatorId} (h : id ∈ beyond next unseen frontier) :
    id ∈ unseen :=
  beyond_sublist.mem h

lemma exists_path_of_not_mem_beyond {id : OperatorId} (hunseen : id ∈ unseen)
    (h : id ∉ beyond next unseen frontier) :
    ∃ start ∈ frontier, ReflTransGen (fun a b => b ∈ next a) start id := by
  induction unseen, frontier using beyond.induct next with
  | case1 unseen =>
    rw [beyond] at h
    exact absurd hunseen h
  | case2 unseen first frontier ih =>
    rw [beyond] at h
    by_cases hnext : id ∈ next first
    · exact ⟨first, List.mem_cons_self, .single hnext⟩
    · obtain ⟨start, hstart, hpath⟩ := ih (mem_missed.mpr ⟨hunseen, hnext⟩) h
      rcases List.mem_append.mp hstart with hstart | hstart
      · exact ⟨start, List.mem_cons_of_mem _ hstart, hpath⟩
      · exact ⟨first, List.mem_cons_self, .head (mem_met.mp hstart).2 hpath⟩

/-- No step leads from what is reached to what is never reached. -/
lemma not_mem_beyond_of_mem_next {a b : OperatorId}
    (ha : a ∈ frontier ∨ a ∈ unseen ∧ a ∉ beyond next unseen frontier) (hab : b ∈ next a) :
    b ∉ beyond next unseen frontier := by
  induction unseen, frontier using beyond.induct next with
  | case1 unseen =>
    rw [beyond] at ha
    simp only [List.not_mem_nil, false_or] at ha
    exact absurd ha.1 ha.2
  | case2 unseen first frontier ih =>
    rw [beyond] at ha ⊢
    intro hb
    have hmissed := mem_missed.mp (mem_unseen_of_mem_beyond hb)
    rcases ha with ha | ⟨hunseen, ha⟩
    · rcases List.mem_cons.mp ha with rfl | ha
      · exact hmissed.2 hab
      · exact ih (.inl (List.mem_append_left _ ha)) hb
    · by_cases hnext : a ∈ next first
      · exact ih (.inl (List.mem_append_right _ (mem_met.mpr ⟨hunseen, hnext⟩))) hb
      · exact ih (.inr ⟨mem_missed.mpr ⟨hunseen, hnext⟩, ha⟩) hb

/-- When all steps stay among the frontier and what is unseen, a search from the frontier misses
exactly what no path leads to. -/
lemma mem_beyond_iff (stays : ∀ a b, b ∈ next a → b ∈ frontier ∨ b ∈ unseen)
    (apart : ∀ a ∈ frontier, a ∉ unseen) {id : OperatorId} :
    id ∈ beyond next unseen frontier ↔
      id ∈ unseen ∧ ∀ start ∈ frontier, ¬ ReflTransGen (fun a b => b ∈ next a) start id := by
  constructor
  · intro h
    refine ⟨mem_unseen_of_mem_beyond h, fun start hstart hpath => ?_⟩
    -- everything on the path is reached, so the search could not miss its end
    suffices hreached : id ∉ beyond next unseen frontier from hreached h
    clear h
    induction hpath with
    | refl =>
      exact fun hbeyond => apart start hstart (mem_unseen_of_mem_beyond hbeyond)
    | @tail a b hpath hab ih =>
      refine not_mem_beyond_of_mem_next ?_ hab
      rcases hpath.cases_tail with rfl | ⟨c, -, hca⟩
      · exact .inl hstart
      · rcases stays c a hca with ha | ha
        · exact .inl ha
        · exact .inr ⟨ha, ih⟩
  · rintro ⟨hunseen, hpath⟩
    by_contra h
    obtain ⟨start, hstart, hreach⟩ := exists_path_of_not_mem_beyond hunseen h
    exact hpath start hstart hreach

end Plan

end Dataflow
