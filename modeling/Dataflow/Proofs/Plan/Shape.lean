import Dataflow.Proofs.Plan.Order
import Dataflow.Proofs.Plan.Reach

/-!
# The checks of a plan

Each check of a plan finds nothing exactly when its condition holds, so a plan can run exactly when
all conditions hold, and otherwise the first one that does not hold is reported.
-/

namespace Dataflow

namespace Plan

open Relation

variable {p : Plan}

lemma unresolved?_eq_none_iff : p.unresolved? = none ↔ ShapeCondition.resolved.Holds p := by
  simp [unresolved?, missingEnd?, ShapeCondition.Holds, contains_iff]

lemma mem_neighbours_iff {a b : OperatorId} : b ∈ p.neighbours a ↔ SymmGen p.Feeds a b := by
  simp only [neighbours, List.mem_append, mem_producersOf, mem_consumersOf]
  exact or_comm

/-- Operators are joined by links exactly when steps to neighbours lead from one to the other. -/
lemma eqvGen_iff_reach {a b : OperatorId} :
    EqvGen p.Feeds a b ↔ ReflTransGen (fun a b => b ∈ p.neighbours a) a b := by
  simp only [mem_neighbours_iff]
  rw [← EqvGen.reflTransGen_symmGen]

lemma neighbour_mem_ids (h : ShapeCondition.resolved.Holds p) {a b : OperatorId}
    (hab : b ∈ p.neighbours a) : b ∈ p.ids := by
  rcases mem_neighbours_iff.mp hab with hab | hab
  · exact (h.ids_of_feeds hab).2
  · exact (h.ids_of_feeds hab).1

/-- The search from the first operator misses those that are not joined with it. -/
lemma mem_disconnected_iff (h : ShapeCondition.resolved.Holds p) {first : OperatorId}
    {others : List OperatorId} (hids : p.ids = first :: others) {id : OperatorId} :
    id ∈ p.disconnected ↔ id ∈ others ∧ ¬ EqvGen p.Feeds first id := by
  have hnodup := p.nodup_ids
  rw [hids, List.nodup_cons] at hnodup
  rw [disconnected, hids]
  rw [mem_beyond_iff]
  · simp [eqvGen_iff_reach]
  · intro a b hab
    simpa [hids] using neighbour_mem_ids h hab
  · intro a ha
    obtain rfl : a = first := by simpa using ha
    exact hnodup.1

lemma disconnected_eq_nil_iff (h : ShapeCondition.resolved.Holds p) :
    p.disconnected = [] ↔ ShapeCondition.connected.Holds p := by
  rcases hids : p.ids with _ | ⟨first, others⟩
  · simp [disconnected, ShapeCondition.Holds, hids]
  · rw [List.eq_nil_iff_forall_not_mem]
    simp only [mem_disconnected_iff h hids, not_and, not_not, ShapeCondition.Holds, hids]
    constructor
    · intro hjoined
      have hfirst : ∀ id ∈ first :: others, EqvGen p.Feeds first id := by
        intro id hid
        rcases List.mem_cons.mp hid with rfl | hid
        · exact .refl _
        · exact hjoined id hid
      exact fun a ha b hb => .trans _ _ _ (.symm _ _ (hfirst a ha)) (hfirst b hb)
    · exact fun hall id hid => hall first List.mem_cons_self id (List.mem_cons_of_mem _ hid)

lemma mem_sinks {id : OperatorId} :
    id ∈ p.sinks ↔ ∃ operator ∈ p.operators, operator.kind.outputArity = 0 ∧ operator.id = id := by
  simp [sinks, OperatorKind.isSink, and_assoc]

lemma nodup_sinks (p : Plan) : p.sinks.Nodup :=
  p.nodup_ids.sublist (List.filter_sublist.map _)

lemma onlySink_eq_ok {sink : OperatorId} (h : p.onlySink = .ok sink) :
    ∃ operator ∈ p.operators, operator.id = sink ∧ operator.kind.outputArity = 0 ∧
      ∀ other ∈ p.operators, other.kind.outputArity = 0 → other = operator := by
  unfold onlySink at h
  split at h
  · simp at h
  · rename_i only hsinks
    obtain rfl : only = sink := by simpa using h
    obtain ⟨operator, hmem, hzero, hid⟩ := mem_sinks.mp (hsinks ▸ List.mem_singleton_self only)
    refine ⟨operator, hmem, hid, hzero, fun other hother hother0 => ?_⟩
    have : other.id ∈ p.sinks := mem_sinks.mpr ⟨other, hother, hother0, rfl⟩
    rw [hsinks, List.mem_singleton] at this
    exact operator_ext hother hmem (this.trans hid.symm)
  · simp at h

lemma oneSink_of_onlySink_eq_ok {sink : OperatorId} (h : p.onlySink = .ok sink) :
    ShapeCondition.oneSink.Holds p := by
  obtain ⟨operator, hmem, -, hzero, honly⟩ := onlySink_eq_ok h
  exact ⟨operator, ⟨hmem, hzero⟩, fun other hother => honly other hother.1 hother.2⟩

/-- The errors about sinks tell none from several. -/
lemma onlySink_eq_error {e : ShapeError} (h : p.onlySink = .error e) :
    e.condition = .oneSink ∧ e.Describes p := by
  unfold onlySink at h
  split at h
  · rename_i hsinks
    obtain rfl := Except.error.inj h
    refine ⟨rfl, fun operator hmem hzero => ?_⟩
    have : operator.id ∈ p.sinks := mem_sinks.mpr ⟨operator, hmem, hzero, rfl⟩
    simp [hsinks] at this
  · simp at h
  · rename_i hnone hone
    obtain rfl := Except.error.inj h
    obtain ⟨a, b, rest, hsinks⟩ : ∃ a b rest, p.sinks = a :: b :: rest := by
      match hs : p.sinks with
      | [] => exact absurd hs hnone
      | [a] => exact absurd hs (hone a)
      | a :: b :: rest => exact ⟨a, b, rest, rfl⟩
    have hnodup := p.nodup_sinks
    obtain ⟨opA, hA, hA0, hAid⟩ := mem_sinks.mp (hsinks ▸ List.mem_cons_self : a ∈ p.sinks)
    obtain ⟨opB, hB, hB0, hBid⟩ := mem_sinks.mp (by simp [hsinks] : b ∈ p.sinks)
    refine ⟨rfl, opA, hA, opB, hB, ?_, hA0, hB0⟩
    rintro rfl
    rw [hsinks, ← hAid, ← hBid] at hnodup
    simp at hnodup

lemma mem_sources {id : OperatorId} :
    id ∈ p.sources ↔ ∃ operator ∈ p.operators, operator.kind.inputArity = 0 ∧ operator.id = id := by
  simp [sources, OperatorKind.isSource, and_assoc]

/-- The search from the sources misses those that no source leads to. -/
lemma mem_unfed_iff (h : ShapeCondition.resolved.Holds p) {id : OperatorId} :
    id ∈ p.unfed ↔
      id ∈ p.ids ∧ ∀ source ∈ p.sources, ¬ ReflTransGen p.Feeds source id := by
  have hstep : (fun a b => b ∈ p.consumersOf a) = p.Feeds := by
    funext a b
    exact propext mem_consumersOf
  rw [unfed, mem_beyond_iff, hstep]
  · simp only [List.mem_filter, List.contains_eq_mem, decide_eq_false_iff_not,
      Bool.not_eq_eq_eq_not, Bool.not_true, and_congr_left_iff, and_iff_left_iff_imp]
    exact fun hunfed _ hsource => hunfed id hsource .refl
  · intro a b hab
    have hb := (h.ids_of_feeds (mem_consumersOf.mp hab)).2
    by_cases hsource : b ∈ p.sources
    · exact .inl hsource
    · exact .inr (by simp [hb, hsource])
  · intro a ha
    simp [ha]

lemma unfed_eq_nil_iff (h : ShapeCondition.resolved.Holds p) :
    p.unfed = [] ↔ ShapeCondition.fed.Holds p := by
  rw [List.eq_nil_iff_forall_not_mem]
  simp only [mem_unfed_iff h, not_and, not_forall, not_not, ShapeCondition.Holds]
  refine forall₂_congr fun id _ => ?_
  constructor
  · rintro ⟨source, hsource, hpath⟩
    obtain ⟨operator, hmem, hzero, rfl⟩ := mem_sources.mp hsource
    exact ⟨operator, hmem, hzero, hpath⟩
  · rintro ⟨operator, hmem, hzero, hpath⟩
    exact ⟨operator.id, mem_sources.mpr ⟨operator, hmem, hzero, rfl⟩, hpath⟩

lemma length_producersOf (p : Plan) (id : OperatorId) :
    (p.producersOf id).length = p.links.countP (·.consumer = id) := by
  simp only [producersOf, List.length_map, List.countP_eq_length_filter, beq_eq_decide]

lemma length_consumersOf (p : Plan) (id : OperatorId) :
    (p.consumersOf id).length = p.links.countP (·.producer = id) := by
  simp only [consumersOf, List.length_map, List.countP_eq_length_filter, beq_eq_decide]

lemma arityError?_eq_none_iff {operator : Operator} :
    p.arityError? operator = none ↔ ShapeCondition.LinksAgree p operator := by
  simp only [arityError?, ShapeCondition.LinksAgree, length_producersOf, length_consumersOf]
  split_ifs <;> simp_all

lemma arityError?_eq_some {operator : Operator} {e : ShapeError}
    (h : p.arityError? operator = some e) :
    ∃ side declared actual, e = .arity operator.id side declared actual := by
  simp only [arityError?] at h
  split_ifs at h
  · exact ⟨_, _, _, (Option.some.inj h).symm⟩
  · exact ⟨_, _, _, (Option.some.inj h).symm⟩

lemma findSome?_arityError?_eq_none_iff :
    p.operators.findSome? p.arityError? = none ↔ ShapeCondition.arities.Holds p := by
  simp only [List.findSome?_eq_none_iff, arityError?_eq_none_iff, ShapeCondition.Holds]

/-- The checks succeed when all conditions hold; otherwise they report the first one that does
not. -/
lemma checkShape_spec (p : Plan) :
    match p.checkShape with
    | .ok (order, sink) => (∀ condition : ShapeCondition, condition.Holds p) ∧
        p.order = .ok order ∧ p.onlySink = .ok sink
    | .error e => e.Reports p := by
  unfold checkShape
  rcases hunresolved : p.unresolved? with _ | ⟨link, missing⟩
  swap
  · refine ⟨fun hresolved => ?_, ShapeCondition.holdUpTo_zero p⟩
    simp [unresolved?_eq_none_iff.mpr hresolved] at hunresolved
  have hresolved := unresolved?_eq_none_iff.mp hunresolved
  have hupto := (ShapeCondition.holdUpTo_zero p).succ (c := .resolved) hresolved
  rcases horder : p.order with e | order
  · obtain ⟨⟨id, rfl⟩, hcyclic⟩ := order_eq_error horder
    exact ⟨hcyclic, hupto⟩
  replace hupto := hupto.succ (c := .acyclic) (acyclic_of_order_eq_ok hresolved horder)
  rcases hdisconnected : p.disconnected with _ | ⟨id, rest⟩
  swap
  · refine ⟨fun hconnected => ?_, hupto⟩
    simp [(disconnected_eq_nil_iff hresolved).mpr hconnected] at hdisconnected
  replace hupto := hupto.succ (c := .connected)
    ((disconnected_eq_nil_iff hresolved).mp hdisconnected)
  rcases hsink : p.onlySink with e | sink
  · obtain ⟨hcondition, hdescribes⟩ := onlySink_eq_error hsink
    exact ⟨hdescribes, by rw [hcondition]; exact hupto⟩
  replace hupto := hupto.succ (c := .oneSink) (oneSink_of_onlySink_eq_ok hsink)
  rcases hunfed : p.unfed with _ | ⟨id, rest⟩
  swap
  · refine ⟨fun hfed => ?_, hupto⟩
    simp [(unfed_eq_nil_iff hresolved).mpr hfed] at hunfed
  replace hupto := hupto.succ (c := .fed) ((unfed_eq_nil_iff hresolved).mp hunfed)
  rcases harity : p.operators.findSome? p.arityError? with _ | e
  swap
  · obtain ⟨operator, -, herror⟩ := List.exists_of_findSome?_eq_some harity
    obtain ⟨side, declared, actual, rfl⟩ := arityError?_eq_some herror
    refine ⟨fun harities => ?_, hupto⟩
    simp [findSome?_arityError?_eq_none_iff.mpr harities] at harity
  replace hupto := hupto.succ (c := .arities) (findSome?_arityError?_eq_none_iff.mp harity)
  exact ⟨fun condition => hupto condition (by cases condition <;> decide), rfl, rfl⟩

lemma plan_of_validate_eq_ok {v : ValidPlan} (h : p.validate = .ok v) : v.plan = p := by
  unfold validate at h
  split at h
  · rw [← Except.ok.inj h]
  · simp at h

lemma validate_plan (v : ValidPlan) : v.plan.validate = .ok v := by
  obtain ⟨p, order, sink, hchecked⟩ := v
  unfold validate
  split
  · rename_i hcheck
    obtain ⟨rfl, rfl⟩ := Prod.mk.inj (Except.ok.inj (hcheck.symm.trans hchecked))
    rfl
  · rename_i hcheck
    cases hcheck.symm.trans hchecked

lemma checkShape_of_validate_eq_error {e : ShapeError} (h : p.validate = .error e) :
    p.checkShape = .error e := by
  unfold validate at h
  split at h
  · simp at h
  · rename_i hcheck
    rw [hcheck, Except.error.inj h]

lemma validate_of_checkShape_eq_error {e : ShapeError} (h : p.checkShape = .error e) :
    p.validate = .error e := by
  unfold validate
  split
  · rename_i hcheck
    cases h.symm.trans hcheck
  · rename_i hcheck
    rw [Except.error.inj (hcheck.symm.trans h)]

/-- A plan that can run satisfies all conditions, and comes with its order and its sink. -/
lemma spec_of_valid (v : ValidPlan) : (∀ condition : ShapeCondition, condition.Holds v.plan) ∧
    v.plan.order = .ok v.order ∧ v.plan.onlySink = .ok v.sink := by
  have hspec := checkShape_spec v.plan
  rwa [v.checked] at hspec

lemma holds_of_valid (v : ValidPlan) (condition : ShapeCondition) :
    condition.Holds v.plan :=
  (spec_of_valid v).1 condition

lemma reports_of_validate_eq_error {e : ShapeError} (h : p.validate = .error e) :
    e.Reports p := by
  have hspec := checkShape_spec p
  rwa [checkShape_of_validate_eq_error h] at hspec

lemma exists_valid (h : ∀ condition : ShapeCondition, condition.Holds p) :
    ∃ v, p.validate = .ok v := by
  cases hvalidate : p.validate with
  | ok v => exact ⟨v, rfl⟩
  | error e =>
    have hreports := reports_of_validate_eq_error hvalidate
    exact absurd (h e.condition) hreports.1.not_holds

/-- A plan can run exactly when all conditions on its shape hold. Otherwise the error reports the
first condition that does not hold, in the order in which the conditions are listed. -/
theorem validate_reports_first_violation (p : Plan) :
    (p.validate.isOk = true ↔ ∀ condition : ShapeCondition, condition.Holds p) ∧
      match p.validate with
      | .ok v => v.plan = p
      | .error e => e.Reports p := by
  cases hvalidate : p.validate with
  | ok v =>
    have hplan := plan_of_validate_eq_ok hvalidate
    refine ⟨⟨fun _ => ?_, fun _ => rfl⟩, hplan⟩
    rw [← hplan]
    exact holds_of_valid v
  | error e =>
    have hreports : e.Reports p := by
      have hspec := checkShape_spec p
      rwa [checkShape_of_validate_eq_error hvalidate] at hspec
    refine ⟨⟨fun h => absurd h Bool.false_ne_true, fun hall => ?_⟩, hreports⟩
    exact absurd (hall e.condition) hreports.1.not_holds

end Plan

end Dataflow
