import Mathlib.Order.Bounds.Basic
import Dataflow.Proofs.Plan.Shape

/-!
# Whom the errors of a plan name

An error about the shape of a plan names those who are to blame: an operator on a cycle, and not one
that a cycle only leads to; the least operator that is not connected, not fed, or linked otherwise
than its kind declares; and all sinks where there are several.
-/

namespace Dataflow

namespace Plan

/-- A way back within `left` that starts at an operator and has come to another one, with the
operators it came through, the last one first. From an operator it goes to the first producer that
is in `left`, in the order of the links, and it ends where it has been before. -/
inductive WalksBack (p : Plan) (left : List OperatorId) (start : OperatorId) :
    List OperatorId → OperatorId → Prop
  | start : WalksBack p left start [] start
  | step {seen : List OperatorId} {current producer : OperatorId}
      (walk : WalksBack p left start seen current) (new : current ∉ seen)
      (found : (p.producersOf current).find? left.contains = some producer) :
      WalksBack p left start (current :: seen) producer

end Plan

open Relation in
/-- Whom an error names, and why. -/
def ShapeError.Names (p : Plan) : ShapeError → Prop
  | unknownOperator link missing =>
    link ∈ p.links ∧ (missing = link.producer ∨ missing = link.consumer) ∧ missing ∉ p.ids
  | cycle id => TransGen p.Feeds id id ∧
      -- the way back from the first operator that is left over has come to `id` twice
      ∃ first seen, (p.takeReady p.ids).2.head? = some first ∧
        p.WalksBack (p.takeReady p.ids).2 first seen id ∧ id ∈ seen ∧
        ∀ seen current, p.WalksBack (p.takeReady p.ids).2 first seen current →
          ∃ producer, (p.producersOf current).find? (p.takeReady p.ids).2.contains = some producer
  | disconnected id => ∃ least, IsLeast {a | a ∈ p.ids} least ∧
      IsLeast {a | a ∈ p.ids ∧ ¬ EqvGen p.Feeds least a} id
  | noSink => ∀ operator ∈ p.operators, operator.kind.outputArity ≠ 0
  | multipleSink sinks => 2 ≤ sinks.length ∧ sinks.Pairwise (· < ·) ∧
      ∀ id, id ∈ sinks ↔ ∃ operator ∈ p.operators, operator.kind.outputArity = 0 ∧ operator.id = id
  | noSource id => IsLeast {a | a ∈ p.ids ∧ ∀ source ∈ p.operators,
      source.kind.inputArity = 0 → ¬ ReflTransGen p.Feeds source.id a} id
  | arity id side declared actual =>
    IsLeast {a | ∃ operator ∈ p.operators, operator.id = a ∧
      ¬ ShapeCondition.LinksAgree p operator} id ∧
    ∃ operator ∈ p.operators, operator.id = id ∧
      let inputs := p.links.countP (·.consumer = id)
      match side with
      | .input => inputs ≠ operator.kind.inputArity ∧
          declared = operator.kind.inputArity ∧ actual = inputs
      | .output => inputs = operator.kind.inputArity ∧
          declared = operator.kind.outputArity ∧ actual = p.links.countP (·.producer = id)

namespace Plan

open Relation

variable {p : Plan} {left seen : List OperatorId} {start current id : OperatorId} {e : ShapeError}

namespace WalksBack

lemma mem (h : p.WalksBack left start seen current) (hstart : start ∈ left) : current ∈ left := by
  cases h with
  | start => exact hstart
  | step _ _ found => simpa using List.find?_some found

lemma subset (h : p.WalksBack left start seen current) (hstart : start ∈ left) : seen ⊆ left := by
  induction h with
  | start => exact List.nil_subset left
  | step walk _ _ ih => exact List.cons_subset.mpr ⟨walk.mem hstart, ih⟩

lemma nodup (h : p.WalksBack left start seen current) : seen.Nodup := by
  induction h with
  | start => exact List.nodup_nil
  | step _ new _ ih => exact List.nodup_cons.mpr ⟨new, ih⟩

/-- A path leads from where the way has come to back to everything it came through. -/
lemma path (h : p.WalksBack left start seen current) :
    ∀ a ∈ seen, TransGen p.Feeds current a := by
  induction h with
  | start => exact fun a ha => absurd ha List.not_mem_nil
  | step _ _ found ih =>
    have hfeeds := mem_producersOf.mp (List.mem_of_find?_eq_some found)
    intro a ha
    rcases List.mem_cons.mp ha with rfl | ha
    · exact .single hfeeds
    · exact .head hfeeds (ih a ha)

/-- While it has met no operator twice, the way has come through fewer operators than there are. -/
lemma length_lt (h : p.WalksBack left start seen current) (hstart : start ∈ left)
    (hnew : current ∉ seen) : seen.length < left.length := by
  have hnodup : (current :: seen).Nodup := List.nodup_cons.mpr ⟨hnew, h.nodup⟩
  have hsubset : current :: seen ⊆ left := List.cons_subset.mpr ⟨h.mem hstart, h.subset hstart⟩
  simpa using (hnodup.subperm hsubset).length_le

end WalksBack

/-- Among the operators that are left over, the way back never runs out of producers. -/
lemma WalksBack.exists_producer {remaining : List OperatorId}
    (h : p.WalksBack (p.takeReady remaining).2 start seen current)
    (hstart : start ∈ (p.takeReady remaining).2) :
    ∃ producer, (p.producersOf current).find? (p.takeReady remaining).2.contains =
      some producer := by
  obtain ⟨a, ha, hfeeds⟩ := exists_producer_of_mem_left (h.mem hstart)
  apply Option.isSome_iff_exists.mp
  rw [List.find?_isSome]
  exact ⟨a, mem_producersOf.mpr hfeeds, by simpa using ha⟩

/-- Where a producer is always found, the way is followed until it comes to an operator for the
second time: each step uses up fuel and comes through one operator more. -/
lemma walksBack_revisited {fuel : Nat} (hstart : start ∈ left)
    (hfound : ∀ seen current, p.WalksBack left start seen current →
      ∃ producer, (p.producersOf current).find? left.contains = some producer)
    (h : p.WalksBack left start seen current) (hfuel : left.length < fuel + seen.length) :
    ∃ seen', p.WalksBack left start seen' (p.revisited left fuel seen current) ∧
      p.revisited left fuel seen current ∈ seen' := by
  induction fuel generalizing seen current with
  | zero =>
    refine ⟨seen, h, ?_⟩
    by_contra hnew
    have := h.length_lt hstart hnew
    omega
  | succ fuel ih =>
    rw [revisited]
    by_cases hseen : current ∈ seen
    · rw [if_pos (by simpa using hseen)]
      exact ⟨seen, h, hseen⟩
    · obtain ⟨producer, hproducer⟩ := hfound seen current h
      rw [if_neg (by simpa using hseen), hproducer]
      exact ih (.step h hseen hproducer) (by rw [List.length_cons]; omega)

lemma names_of_unresolved? {link : Link} {missing : OperatorId}
    (h : p.unresolved? = some (link, missing)) :
    (ShapeError.unknownOperator link missing).Names p := by
  obtain ⟨link', hlink, hmissing⟩ := List.exists_of_findSome?_eq_some h
  obtain ⟨missing', hfind, heq⟩ := Option.map_eq_some_iff.mp hmissing
  obtain ⟨rfl, rfl⟩ := Prod.mk.inj heq
  refine ⟨hlink, by simpa using List.mem_of_find?_eq_some hfind, ?_⟩
  rw [← contains_iff]
  simpa using List.find?_some hfind

lemma names_of_order_eq_error (h : p.order = .error e) : e.Names p := by
  unfold Plan.order at h
  split at h
  · cases h
  · rename_i taken first rest htake
    obtain rfl := Except.error.inj h
    have hleft : first :: rest = (p.takeReady p.ids).2 := by rw [htake]
    rw [hleft]
    have hfirst : first ∈ (p.takeReady p.ids).2 := hleft ▸ List.mem_cons_self
    have hfound := fun seen current (hwalk : p.WalksBack _ first seen current) =>
      hwalk.exists_producer hfirst
    have hfuel : (p.takeReady p.ids).2.length <
        rest.length + 2 + ([] : List OperatorId).length := by
      simp [← hleft]
    obtain ⟨seen, hwalk, hmem⟩ := walksBack_revisited hfirst hfound .start hfuel
    exact ⟨hwalk.path _ hmem, first, seen, by simp [← hleft], hwalk, hmem, hfound⟩

lemma isLeast_of_cons {first : OperatorId} {s : Set OperatorId} (rest : List OperatorId)
    (hasc : (first :: rest).Pairwise (· < ·)) (hmem : ∀ a, a ∈ first :: rest ↔ a ∈ s) :
    IsLeast s first := by
  refine ⟨(hmem first).mp List.mem_cons_self, fun a ha => ?_⟩
  rcases List.mem_cons.mp ((hmem a).mpr ha) with rfl | hrest
  · exact le_rfl
  · exact (List.rel_of_pairwise_cons hasc hrest).le

lemma names_of_disconnected (hresolved : ShapeCondition.resolved.Holds p)
    {rest : List OperatorId} (h : p.disconnected = id :: rest) :
    (ShapeError.disconnected id).Names p := by
  rcases hids : p.ids with _ | ⟨first, others⟩
  · simp [disconnected, hids] at h
  have hasc := p.ascending_ids
  rw [hids] at hasc
  have hfirst : IsLeast {a | a ∈ p.ids} first :=
    isLeast_of_cons others hasc fun a => by rw [hids]; rfl
  refine ⟨first, hfirst, isLeast_of_cons rest ?_ fun a => ?_⟩
  · rw [← h, disconnected, hids]
    exact hasc.tail.sublist beyond_sublist
  · rw [← h, mem_disconnected_iff hresolved hids]
    change _ ↔ a ∈ p.ids ∧ _
    rw [hids, List.mem_cons]
    constructor
    · rintro ⟨hmem, hpath⟩
      exact ⟨.inr hmem, hpath⟩
    · rintro ⟨rfl | hmem, hpath⟩
      · exact absurd (.refl _) hpath
      · exact ⟨hmem, hpath⟩

lemma ascending_sinks (p : Plan) : p.sinks.Pairwise (· < ·) :=
  p.ascending_ids.sublist (List.filter_sublist.map _)

lemma names_of_onlySink_eq_error (h : p.onlySink = .error e) : e.Names p := by
  unfold onlySink at h
  split at h
  · rename_i hsinks
    obtain rfl := Except.error.inj h
    intro operator hmem hzero
    have : operator.id ∈ p.sinks := mem_sinks.mpr ⟨operator, hmem, hzero, rfl⟩
    simp [hsinks] at this
  · cases h
  · rename_i hnone hone
    obtain rfl := Except.error.inj h
    refine ⟨?_, p.ascending_sinks, fun _ => mem_sinks⟩
    match hs : p.sinks with
    | [] => exact absurd hs hnone
    | [a] => exact absurd hs (hone a)
    | a :: b :: rest => simp

lemma names_of_unfed (hresolved : ShapeCondition.resolved.Holds p)
    {rest : List OperatorId} (h : p.unfed = id :: rest) : (ShapeError.noSource id).Names p := by
  refine isLeast_of_cons rest ?_ fun a => ?_
  · rw [← h]
    exact p.ascending_ids.sublist (beyond_sublist.trans List.filter_sublist)
  · rw [← h, mem_unfed_iff hresolved]
    refine and_congr_right fun _ => ⟨fun hsource operator hmem hzero => ?_, ?_⟩
    · exact hsource operator.id (mem_sources.mpr ⟨operator, hmem, hzero, rfl⟩)
    · intro hall source hmem
      obtain ⟨operator, hoperator, hzero, rfl⟩ := mem_sources.mp hmem
      exact hall operator hoperator hzero

lemma names_of_arityError? (h : p.operators.findSome? p.arityError? = some e) : e.Names p := by
  obtain ⟨before, operator, after, hsplit, herror, hbefore⟩ := List.findSome?_eq_some_iff.mp h
  have hmem : operator ∈ p.operators := by simp [hsplit]
  have hleast : IsLeast {a | ∃ operator ∈ p.operators, operator.id = a ∧
      ¬ ShapeCondition.LinksAgree p operator} operator.id := by
    refine ⟨⟨operator, hmem, rfl, ?_⟩, ?_⟩
    · rw [← arityError?_eq_none_iff, herror]
      exact Option.some_ne_none e
    · rintro _ ⟨other, hother, rfl, hdisagree⟩
      have hasc := p.ascending
      rw [Ascending, hsplit] at hasc
      rw [hsplit] at hother
      rcases List.mem_append.mp hother with hother | hother
      · exact absurd (arityError?_eq_none_iff.mp (hbefore other hother)) hdisagree
      · rcases List.mem_cons.mp hother with rfl | hother
        · exact le_rfl
        · exact (List.rel_of_pairwise_cons (List.pairwise_append.mp hasc).2.1 hother).le
  simp only [arityError?, length_producersOf, length_consumersOf] at herror
  split_ifs at herror with hinputs houtputs
  · obtain rfl := Option.some.inj herror
    exact ⟨hleast, operator, hmem, rfl, hinputs, rfl, rfl⟩
  · obtain rfl := Option.some.inj herror
    exact ⟨hleast, operator, hmem, rfl, not_not.mp hinputs, rfl, rfl⟩

/-- The error of the checks is that of the first check that finds something. -/
lemma names_of_checkShape_eq_error (h : p.checkShape = .error e) : e.Names p := by
  unfold checkShape at h
  rcases hunresolved : p.unresolved? with _ | ⟨link, missing⟩
  swap
  · rw [hunresolved] at h
    obtain rfl := Except.error.inj h
    exact names_of_unresolved? hunresolved
  have hresolved := unresolved?_eq_none_iff.mp hunresolved
  rw [hunresolved] at h
  rcases horder : p.order with cause | order
  · rw [horder] at h
    obtain rfl := Except.error.inj h
    exact names_of_order_eq_error horder
  rcases hdisconnected : p.disconnected with _ | ⟨id, rest⟩
  swap
  · rw [horder, hdisconnected] at h
    obtain rfl := Except.error.inj h
    exact names_of_disconnected hresolved hdisconnected
  rcases hsink : p.onlySink with cause | sink
  · rw [horder, hdisconnected, hsink] at h
    obtain rfl := Except.error.inj h
    exact names_of_onlySink_eq_error hsink
  rcases hunfed : p.unfed with _ | ⟨id, rest⟩
  swap
  · rw [horder, hdisconnected, hsink, hunfed] at h
    obtain rfl := Except.error.inj h
    exact names_of_unfed hresolved hunfed
  rcases harity : p.operators.findSome? p.arityError? with _ | cause
  swap
  · rw [horder, hdisconnected, hsink, hunfed, harity] at h
    obtain rfl := Except.error.inj h
    exact names_of_arityError? harity
  rw [horder, hdisconnected, hsink, hunfed, harity] at h
  cases h

/-- An error of validation names those who are to blame: a cycle is reported at an operator that
lies on it, and otherwise the least operator is named for which the condition does not hold, or all
operators that are sinks. -/
theorem validate_names_culprit (h : p.validate = .error e) : e.Names p :=
  names_of_checkShape_eq_error (checkShape_of_validate_eq_error h)

/-- Two projections read each other; the one also reads a scan, and the other feeds the sink. -/
def projectedForever : Plan where
  operators := [⟨"all", .tupleSink⟩, ⟨"docs", .scanSource "docs"⟩,
    ⟨"even", .projection ["page"]⟩, ⟨"odd", .projection ["page"]⟩]
  links := [⟨"docs", "odd"⟩, ⟨"odd", "even"⟩, ⟨"even", "odd"⟩, ⟨"odd", "all"⟩]
  ascending := by
    unfold Ascending
    decide
  distinct := by decide

/-- The sink comes first of those left over, but the error names a projection that reads what it
gives. -/
theorem projectedForever_names_cycle : projectedForever.validate = .error (.cycle "odd") ∧
    (projectedForever.takeReady projectedForever.ids).2 = ["all", "even", "odd"] ∧
    TransGen projectedForever.Feeds "odd" "odd" := by
  have herror : projectedForever.validate = .error (.cycle "odd") :=
    validate_of_checkShape_eq_error (by decide +kernel)
  exact ⟨herror, by decide +kernel, (validate_names_culprit herror).1⟩

end Plan

end Dataflow
