import Dataflow.Proofs.Plan.Typing

/-!
# Plans in a line

A source, some operators with one input and one output, and a sink, each of which feeds the next,
can always run. In a valid plan the numbers of links tell the producers of such operators: a source
has none, and an operator with one input is fed by the one operator that a link comes from. So its
schema follows from the schema of that one.
-/

namespace Dataflow

open Relation

/-- The links that lead from an operator to the first of a list, and from each of these to the
next. -/
def linksFrom (first : Operator) : List Operator → List Link
  | [] => []
  | next :: rest => ⟨first.id, next.id⟩ :: linksFrom next rest

section LinksFrom

variable {first : Operator} {rest : List Operator}

lemma map_consumer_linksFrom (first : Operator) (rest : List Operator) :
    (linksFrom first rest).map Link.consumer = rest.map Operator.id := by
  induction rest generalizing first with
  | nil => rfl
  | cons next rest ih => rw [linksFrom, List.map_cons, ih, List.map_cons]

lemma map_producer_linksFrom (last : Operator) :
    (linksFrom first (rest ++ [last])).map Link.producer = (first :: rest).map Operator.id := by
  induction rest generalizing first with
  | nil => rfl
  | cons next rest ih =>
    rw [List.cons_append, linksFrom, List.map_cons, ih]
    rfl

/-- The links lead from one place of a list to a greater one. -/
lemma idxOf_lt_of_mem_linksFrom (hnodup : ((first :: rest).map Operator.id).Nodup) {link : Link}
    (h : link ∈ linksFrom first rest) :
    ((first :: rest).map Operator.id).idxOf link.producer <
      ((first :: rest).map Operator.id).idxOf link.consumer := by
  induction rest generalizing first with
  | nil => exact (List.not_mem_nil h).elim
  | cons next rest ih =>
    rw [List.map_cons, List.nodup_cons] at hnodup
    have hne : first.id ≠ link.consumer := fun heq => hnodup.1 <| by
      rw [heq, ← map_consumer_linksFrom first]
      exact List.mem_map_of_mem h
    rw [List.map_cons, List.idxOf_cons_ne _ hne]
    by_cases hproducer : first.id = link.producer
    · rw [← hproducer, List.idxOf_cons_self]
      exact Nat.succ_pos _
    · rw [List.idxOf_cons_ne _ hproducer]
      rcases List.mem_cons.mp h with rfl | h
      · exact (hproducer rfl).elim
      · exact Nat.succ_lt_succ (ih hnodup.2 h)

lemma reaches_of_linksFrom {r : OperatorId → OperatorId → Prop}
    (h : ∀ link ∈ linksFrom first rest, r link.producer link.consumer) :
    ∀ operator ∈ first :: rest, ReflTransGen r first.id operator.id := by
  induction rest generalizing first with
  | nil =>
    rintro operator hmem
    rw [List.mem_singleton.mp hmem]
  | cons next rest ih =>
    rw [linksFrom, List.forall_mem_cons] at h
    rw [List.forall_mem_cons]
    exact ⟨.refl, fun operator hmem => .head h.1 (ih h.2 operator hmem)⟩

end LinksFrom

/-- A source, then operators with one input and one output, then a sink. -/
structure Line where
  source : Operator
  steps : List Operator
  sink : Operator
  source_inputArity : source.kind.inputArity = 0
  steps_arities : ∀ step ∈ steps, step.kind.inputArity = 1 ∧ step.kind.outputArity = 1
  sink_outputArity : sink.kind.outputArity = 0

/-- The operators of a line, from its source to its sink. -/
def Line.operators (l : Line) : List Operator :=
  l.source :: (l.steps ++ [l.sink])

/-- The links of a line, each of which leads from an operator to the next. -/
def Line.links (l : Line) : List Link :=
  linksFrom l.source (l.steps ++ [l.sink])

/-- A plan has the operators of a line, each of which feeds the next. -/
structure Plan.InLine (p : Plan) (l : Line) : Prop where
  operators_perm : p.operators.Perm l.operators
  links_perm : p.links.Perm l.links

namespace OperatorKind

variable {kind : OperatorKind}

lemma outputArity_of_inputArity (h : kind.inputArity = 0) : kind.outputArity = 1 := by
  cases kind <;> first | rfl | cases h

lemma inputArity_of_outputArity (h : kind.outputArity = 0) : kind.inputArity = 1 := by
  cases kind <;> first | rfl | cases h

end OperatorKind

namespace Line

variable (l : Line)

lemma operators_eq_concat : l.operators = (l.source :: l.steps) ++ [l.sink] :=
  rfl

lemma inputArity_eq : ∀ operator ∈ l.steps ++ [l.sink], operator.kind.inputArity = 1 := by
  rw [List.forall_mem_append, List.forall_mem_singleton]
  exact ⟨fun step hstep => (l.steps_arities step hstep).1,
    OperatorKind.inputArity_of_outputArity l.sink_outputArity⟩

lemma outputArity_eq : ∀ operator ∈ l.source :: l.steps, operator.kind.outputArity = 1 := by
  rw [List.forall_mem_cons]
  exact ⟨OperatorKind.outputArity_of_inputArity l.source_inputArity,
    fun step hstep => (l.steps_arities step hstep).2⟩

end Line

namespace Plan.InLine

variable {p : Plan} {l : Line}

lemma mem_iff (h : p.InLine l) {operator : Operator} :
    operator ∈ p.operators ↔ operator ∈ l.operators :=
  h.operators_perm.mem_iff

lemma feeds_iff (h : p.InLine l) {a b : OperatorId} :
    p.Feeds a b ↔ ⟨a, b⟩ ∈ l.links :=
  h.links_perm.mem_iff

lemma nodup_ids (h : p.InLine l) : (l.operators.map Operator.id).Nodup :=
  (h.operators_perm.map Operator.id).nodup_iff.mp p.nodup_ids

lemma reaches (h : p.InLine l) {id : OperatorId} (hid : id ∈ p.ids) :
    ReflTransGen p.Feeds l.source.id id := by
  obtain ⟨operator, hmem, rfl⟩ := mem_ids.mp hid
  exact reaches_of_linksFrom (fun link hlink => h.feeds_iff.mpr hlink) operator
    (h.mem_iff.mp hmem)

/-- The operators of a line have the links that their kinds declare. -/
lemma linksAgree (h : p.InLine l) {operator : Operator} (hmem : operator ∈ p.operators) :
    ShapeCondition.LinksAgree p operator := by
  have hnodup := h.nodup_ids
  have hconsumers : p.links.countP (·.consumer = operator.id) =
      ((l.steps ++ [l.sink]).map Operator.id).count operator.id := by
    rw [h.links_perm.countP_eq, ← map_consumer_linksFrom l.source, List.count,
      List.countP_map]
    rfl
  have hproducers : p.links.countP (·.producer = operator.id) =
      ((l.source :: l.steps).map Operator.id).count operator.id := by
    rw [h.links_perm.countP_eq, ← map_producer_linksFrom l.sink, List.count, List.countP_map]
    rfl
  rw [h.mem_iff] at hmem
  rw [ShapeCondition.LinksAgree, hconsumers, hproducers]
  constructor
  · rw [Line.operators, List.map_cons, List.nodup_cons] at hnodup
    rcases List.mem_cons.mp hmem with rfl | hmem
    · rw [List.count_eq_zero_of_not_mem hnodup.1, l.source_inputArity]
    · rw [List.count_eq_one_of_mem hnodup.2 (List.mem_map_of_mem hmem), l.inputArity_eq _ hmem]
  · rw [l.operators_eq_concat, List.map_append, List.nodup_append'] at hnodup
    rw [l.operators_eq_concat, List.mem_append] at hmem
    rcases hmem with hmem | hmem
    · have hone := l.outputArity_eq _ hmem
      rw [if_neg (by omega), List.count_eq_one_of_mem hnodup.1 (List.mem_map_of_mem hmem), hone]
    · obtain rfl := List.mem_singleton.mp hmem
      rw [if_pos l.sink_outputArity]
      exact List.count_eq_zero_of_not_mem fun hin => hnodup.2.2 hin (by simp)

/-- A plan in a line can run. -/
lemma exists_valid (h : p.InLine l) : ∃ v, p.validate = .ok v := by
  have hids (link : Link) (hlink : link ∈ p.links) : link.producer ∈ p.ids ∧
      link.consumer ∈ p.ids := by
    have hmem := h.links_perm.mem_iff.mp hlink
    have hproducer := List.mem_map_of_mem (f := Link.producer) hmem
    have hconsumer := List.mem_map_of_mem (f := Link.consumer) hmem
    rw [Line.links, map_producer_linksFrom] at hproducer
    rw [Line.links, map_consumer_linksFrom] at hconsumer
    have hperm := h.operators_perm.map Operator.id
    exact ⟨hperm.mem_iff.mpr (List.map_subset _ (List.subset_append_left ..) hproducer),
      hperm.mem_iff.mpr (List.map_subset _ (List.subset_cons_self ..) hconsumer)⟩
  have hpath (a b : OperatorId) (hab : TransGen p.Feeds a b) :
      (l.operators.map Operator.id).idxOf a < (l.operators.map Operator.id).idxOf b := by
    induction hab with
    | single hfeeds => exact idxOf_lt_of_mem_linksFrom h.nodup_ids (h.feeds_iff.mp hfeeds)
    | tail _ hfeeds ih =>
      exact ih.trans (idxOf_lt_of_mem_linksFrom h.nodup_ids (h.feeds_iff.mp hfeeds))
  have hjoined (id : OperatorId) (hid : id ∈ p.ids) : EqvGen p.Feeds l.source.id id :=
    EqvGen.reflTransGen_le_eqvGen _ _ _ (h.reaches hid)
  refine Plan.exists_valid fun condition => ?_
  cases condition with
  | resolved => exact hids
  | acyclic => exact fun id hcycle => lt_irrefl _ (hpath id id hcycle)
  | connected => exact fun a ha b hb => ((hjoined a ha).symm).trans _ _ _ (hjoined b hb)
  | oneSink =>
    refine ⟨l.sink, ⟨h.mem_iff.mpr (by simp [Line.operators]), l.sink_outputArity⟩, ?_⟩
    rintro operator ⟨hmem, hzero⟩
    rw [h.mem_iff, l.operators_eq_concat, List.mem_append] at hmem
    rcases hmem with hmem | hmem
    · have hone := l.outputArity_eq _ hmem
      omega
    · exact List.mem_singleton.mp hmem
  | fed =>
    exact fun id hid => ⟨l.source, h.mem_iff.mpr (by simp [Line.operators]), l.source_inputArity,
      h.reaches hid⟩
  | arities => exact fun operator hmem => h.linksAgree hmem

end Plan.InLine

namespace ValidPlan

variable {v : ValidPlan} {operator : Operator} {producer : OperatorId}

lemma length_producersOf (hmem : operator ∈ v.plan.operators) :
    (v.plan.producersOf operator.id).length = operator.kind.inputArity := by
  rw [Plan.length_producersOf, (Plan.holds_of_valid v .arities operator hmem).1]

lemma producersOf_eq_nil (hmem : operator ∈ v.plan.operators)
    (hkind : operator.kind.inputArity = 0) : v.plan.producersOf operator.id = [] := by
  rw [← List.length_eq_zero_iff, length_producersOf hmem, hkind]

/-- An operator with one input is fed by the one operator that a link comes from. -/
lemma producersOf_eq_singleton (hmem : operator ∈ v.plan.operators)
    (hkind : operator.kind.inputArity = 1) (hfeeds : v.plan.Feeds producer operator.id) :
    v.plan.producersOf operator.id = [producer] := by
  obtain ⟨only, honly⟩ := List.length_eq_one_iff.mp ((length_producersOf hmem).trans hkind)
  rw [← Plan.mem_producersOf, honly, List.mem_singleton] at hfeeds
  rw [honly, hfeeds]

lemma sink_eq (hmem : operator ∈ v.plan.operators) (hkind : operator.kind.outputArity = 0) :
    v.sink = operator.id := by
  obtain ⟨-, -, honlySink⟩ := Plan.spec_of_valid v
  obtain ⟨sink, -, hid, -, honly⟩ := Plan.onlySink_eq_ok honlySink
  rw [honly operator hmem hkind, hid]

end ValidPlan

namespace ValidPlan

/-- The producers of an operator have schemas, of which the operator makes a result. -/
def Derives (v : ValidPlan) (tables : TableSchemas) (operator : Operator) (result : Result Schema) :
    Prop :=
  ∃ inputs, List.Forall₂ (v.HasSchema tables) (v.plan.producersOf operator.id) inputs ∧
    operator.outputSchema tables inputs = result

variable {v : ValidPlan} {tables : TableSchemas} {operator : Operator} {producer : OperatorId}
  {s : Schema} {result : Result Schema}

lemma hasSchema_iff_derives (hmem : operator ∈ v.plan.operators) :
    v.HasSchema tables operator.id s ↔ v.Derives tables operator (.ok s) :=
  ⟨fun h => h.exists_inputs hmem, fun ⟨_, hinputs, hschema⟩ => .intro hmem hinputs hschema⟩

lemma derives_source_iff (hnil : v.plan.producersOf operator.id = []) :
    v.Derives tables operator result ↔ operator.outputSchema tables [] = result := by
  simp [Derives, hnil]

lemma derives_unary_iff (hone : v.plan.producersOf operator.id = [producer]) :
    v.Derives tables operator result ↔
      ∃ a, v.HasSchema tables producer a ∧ operator.outputSchema tables [a] = result := by
  simp [Derives, hone, List.forall₂_cons_left_iff]

end ValidPlan

end Dataflow
