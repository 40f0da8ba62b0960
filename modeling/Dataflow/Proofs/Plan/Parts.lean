import Dataflow.Proofs.Lists
import Dataflow.Proofs.Plan.Conditions

/-!
# Plans and their parts

A plan is made of its operators in any order, and of its links in theirs: a list of operators and a
list of links make a plan exactly if the operators of the plan are those of the list, in the order
of their names, and the links are those of the list as they are.
-/

namespace Dataflow

open List

lemma insertOperator_perm (new : Operator) (operators : List Operator) :
    insertOperator new operators ~ new :: operators := by
  induction operators with
  | nil => exact .refl _
  | cons operator operators ih =>
    rw [insertOperator]
    split_ifs
    · exact .refl _
    · exact (ih.cons operator).trans (.swap new operator operators)

lemma Ascending.eq_of_perm {operators operators' : List Operator} (h : Ascending operators)
    (h' : Ascending operators') (hperm : operators ~ operators') : operators = operators' :=
  hperm.eq_of_pairwise (fun _ _ _ _ hlt hgt => absurd hlt (String.lt_asymm hgt)) h h'

namespace Plan

variable {p q : Plan} {operators : List Operator} {links : List Link}

lemma ext_parts (hoperators : p.operators = q.operators) (hlinks : p.links = q.links) : p = q := by
  cases p
  cases q
  simp_all

lemma exists_addOperator {operator : Operator} (h : operator.id ∉ p.ids) :
    ∃ more, p.addOperator operator = .ok more := by
  have hfresh : ∀ x ∈ p.operators, x.id ≠ operator.id :=
    fun x hx heq => h (mem_ids.mpr ⟨x, hx, heq⟩)
  exact ⟨_, dif_pos hfresh⟩

lemma addOperator_eq_ok {operator : Operator} (h : p.addOperator operator = .ok q) :
    q.operators ~ operator :: p.operators ∧ q.links = p.links := by
  unfold addOperator at h
  split_ifs at h
  obtain rfl := Except.ok.inj h
  exact ⟨insertOperator_perm operator p.operators, rfl⟩

/-- Operators one by one make a plan exactly if there is a plan with all of them. -/
lemma foldlM_addOperator_eq_ok_iff : operators.foldlM addOperator p = .ok q ↔
    q.operators ~ p.operators ++ operators ∧ q.links = p.links := by
  induction operators generalizing p with
  | nil =>
    rw [append_nil]
    constructor
    · intro h
      obtain rfl := Except.ok.inj h
      exact ⟨.refl _, rfl⟩
    · rintro ⟨hperm, hlinks⟩
      exact congrArg Except.ok (ext_parts (q.ascending.eq_of_perm p.ascending hperm) hlinks).symm
  | cons operator operators ih =>
    rw [foldlM_cons, seq_eq_ok_iff]
    constructor
    · rintro ⟨more, hadd, h⟩
      obtain ⟨hmore, hlinks⟩ := addOperator_eq_ok hadd
      obtain ⟨hall, hlinks'⟩ := ih.mp h
      refine ⟨hall.trans ?_, hlinks'.trans hlinks⟩
      exact (hmore.append_right operators).trans perm_middle.symm
    · rintro ⟨hperm, hlinks⟩
      -- The names in the greater plan tell that the operator is new.
      have hperm' : q.operators ~ operator :: p.operators ++ operators := hperm.trans perm_middle
      have hids : (operator.id :: p.ids ++ operators.map (·.id)).Nodup := by
        have hall : q.ids ~ (operator :: p.operators ++ operators).map (·.id) := hperm'.map _
        rw [map_append, map_cons] at hall
        exact hall.nodup_iff.mp q.nodup_ids
      obtain ⟨more, hadd⟩ := exists_addOperator (nodup_cons.mp hids.of_append_left).1
      obtain ⟨hmore, hlinks'⟩ := addOperator_eq_ok hadd
      exact ⟨more, hadd, ih.mpr
        ⟨hperm'.trans (hmore.symm.append_right operators), hlinks.trans hlinks'.symm⟩⟩

lemma addLink_of_not_mem {link : Link} (h : link ∉ p.links) :
    ∃ more, p.addLink link = .ok more ∧ more.operators = p.operators ∧
      more.links = p.links ++ [link] :=
  ⟨_, dif_pos h, rfl, rfl⟩

/-- Links one by one make a plan exactly if there is a plan with all of them. -/
lemma foldlM_addLink_eq_ok_iff : links.foldlM addLink p = .ok q ↔
    q.operators = p.operators ∧ q.links = p.links ++ links := by
  induction links generalizing p with
  | nil =>
    rw [append_nil]
    constructor
    · intro h
      obtain rfl := Except.ok.inj h
      exact ⟨rfl, rfl⟩
    · rintro ⟨hoperators, hlinks⟩
      exact congrArg Except.ok (ext_parts hoperators hlinks).symm
  | cons link links ih =>
    rw [foldlM_cons, ← singleton_append, ← append_assoc]
    by_cases hmem : link ∈ p.links
    · constructor
      · intro h
        rw [addLink, dif_neg (not_not.mpr hmem)] at h
        cases h
      · rintro ⟨-, hlinks⟩
        have hnodup := hlinks ▸ q.distinct
        exact absurd hmem (disjoint_right.mp (disjoint_of_nodup_append hnodup.of_append_left)
          mem_cons_self)
    · obtain ⟨more, hadd, hoperators, hlinks⟩ := addLink_of_not_mem hmem
      rw [hadd, ← hoperators, ← hlinks]
      exact ih

/-- Operators and links make a plan exactly if they are those of the plan, the links in its
order. -/
theorem ofParts_eq_ok_iff : ofParts operators links = .ok p ↔
    p.operators ~ operators ∧ p.links = links := by
  rw [ofParts, seq_eq_ok_iff]
  simp only [foldlM_addOperator_eq_ok_iff, foldlM_addLink_eq_ok_iff]
  constructor
  · rintro ⟨q, ⟨hoperators, hnil⟩, hsame, hlinks⟩
    rw [hnil] at hlinks
    exact ⟨hsame ▸ hoperators, hlinks⟩
  · rintro ⟨hoperators, hlinks⟩
    exact ⟨⟨p.operators, [], p.ascending, nodup_nil⟩, ⟨hoperators, rfl⟩, rfl, hlinks⟩

end Plan

end Dataflow
