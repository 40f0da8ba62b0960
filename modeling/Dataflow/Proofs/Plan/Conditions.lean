import Mathlib.Data.List.Nodup
import Mathlib.Data.String.Basic
import Mathlib.Logic.Relation
import Mathlib.Tactic
import Dataflow.Plan.Shape

/-!
# Conditions on the shape of a plan

The conditions under which a plan can run, said of its graph: one operator feeds another one when a
link joins them, and paths, cycles and connectedness are those of this relation. The checks of a
plan are not mentioned here.
-/

namespace Dataflow

namespace Plan

variable {p : Plan}

/-- One operator feeds another one when a link leads from it to the other. -/
def Feeds (p : Plan) (a b : OperatorId) : Prop :=
  ⟨a, b⟩ ∈ p.links

lemma mem_producersOf {a b : OperatorId} : a ∈ p.producersOf b ↔ p.Feeds a b := by
  simp only [producersOf, Feeds, List.mem_map, List.mem_filter, beq_iff_eq]
  constructor
  · rintro ⟨⟨_, _⟩, ⟨h, rfl⟩, rfl⟩
    exact h
  · intro h
    exact ⟨⟨a, b⟩, ⟨h, rfl⟩, rfl⟩

lemma mem_consumersOf {a b : OperatorId} : b ∈ p.consumersOf a ↔ p.Feeds a b := by
  simp only [consumersOf, Feeds, List.mem_map, List.mem_filter, beq_iff_eq]
  constructor
  · rintro ⟨⟨_, _⟩, ⟨h, rfl⟩, rfl⟩
    exact h
  · intro h
    exact ⟨⟨a, b⟩, ⟨h, rfl⟩, rfl⟩

lemma nodup_consumersOf (p : Plan) (id : OperatorId) : (p.consumersOf id).Nodup := by
  refine (p.distinct.filter _).map_on ?_
  rintro ⟨a, b⟩ hlink ⟨a', b'⟩ hlink' rfl
  obtain rfl : a = id := by simpa using List.of_mem_filter hlink
  obtain rfl : a' = a := by simpa using List.of_mem_filter hlink'
  rfl

lemma mem_ids {id : OperatorId} : id ∈ p.ids ↔ ∃ operator ∈ p.operators, operator.id = id := by
  simp [ids]

lemma ascending_ids (p : Plan) : p.ids.Pairwise (· < ·) :=
  List.Pairwise.map _ (fun _ _ h => h) p.ascending

lemma nodup_ids (p : Plan) : p.ids.Nodup :=
  p.ascending_ids.imp ne_of_lt

lemma contains_iff {id : OperatorId} : p.contains id = true ↔ id ∈ p.ids := by
  simp [contains, operator?, mem_ids]

lemma operator_ext {a b : Operator} (ha : a ∈ p.operators) (hb : b ∈ p.operators)
    (h : a.id = b.id) : a = b :=
  List.inj_on_of_nodup_map p.nodup_ids ha hb h

lemma operator?_eq_some_iff {id : OperatorId} {operator : Operator} :
    p.operator? id = some operator ↔ operator ∈ p.operators ∧ operator.id = id := by
  constructor
  · intro h
    exact ⟨List.mem_of_find?_eq_some h, by simpa using List.find?_some h⟩
  · rintro ⟨hmem, rfl⟩
    cases hfind : p.operator? operator.id with
    | none =>
      have := List.find?_eq_none.mp hfind operator hmem
      simp at this
    | some other =>
      have hid : other.id = operator.id := by simpa using List.find?_some hfind
      rw [operator_ext (List.mem_of_find?_eq_some hfind) hmem hid]

end Plan

/-- The conditions on the shape of a plan, in the order in which they are looked at. -/
inductive ShapeCondition where
  | resolved
  | acyclic
  /-- Any two operators are joined by links, taken in either direction. -/
  | connected
  | oneSink
  /-- A path leads to each operator from one that has no input. -/
  | fed
  | arities
  deriving DecidableEq

namespace ShapeCondition

/-- The place of a condition among all of them. -/
def place : ShapeCondition → Nat
  | resolved => 0
  | acyclic => 1
  | connected => 2
  | oneSink => 3
  | fed => 4
  | arities => 5

/-- Whether the links of an operator are those that its kind declares. An output may feed several
consumers, so that only a sink has a greatest number of outgoing links. -/
def LinksAgree (p : Plan) (operator : Operator) : Prop :=
  p.links.countP (·.consumer = operator.id) = operator.kind.inputArity ∧
    if operator.kind.outputArity = 0 then p.links.countP (·.producer = operator.id) = 0
    else operator.kind.outputArity ≤ p.links.countP (·.producer = operator.id)

/-- What a condition says of a plan. -/
def Holds (p : Plan) : ShapeCondition → Prop
  | resolved => ∀ link ∈ p.links, link.producer ∈ p.ids ∧ link.consumer ∈ p.ids
  | acyclic => ∀ id, ¬ Relation.TransGen p.Feeds id id
  | connected => ∀ a ∈ p.ids, ∀ b ∈ p.ids, Relation.EqvGen p.Feeds a b
  | oneSink => ∃! operator, operator ∈ p.operators ∧ operator.kind.outputArity = 0
  | fed => ∀ id ∈ p.ids, ∃ source ∈ p.operators,
      source.kind.inputArity = 0 ∧ Relation.ReflTransGen p.Feeds source.id id
  | arities => ∀ operator ∈ p.operators, LinksAgree p operator

/-- The first conditions hold, up to a place. -/
def HoldUpTo (p : Plan) (place : Nat) : Prop :=
  ∀ condition : ShapeCondition, condition.place < place → condition.Holds p

lemma holdUpTo_zero (p : Plan) : HoldUpTo p 0 :=
  fun _ hlt => absurd hlt (Nat.not_lt_zero _)

lemma HoldUpTo.succ {p : Plan} {c : ShapeCondition} (h : HoldUpTo p c.place)
    (hholds : c.Holds p) : HoldUpTo p (c.place + 1) := by
  intro other hlt
  rcases Nat.lt_succ_iff_lt_or_eq.mp hlt with hlt | heq
  · exact h other hlt
  · obtain rfl : other = c := by
      cases other <;> cases c <;> first | rfl | exact absurd heq (by decide)
    exact hholds

lemma Holds.ids_of_feeds {p : Plan} (h : resolved.Holds p) {a b : OperatorId} (hab : p.Feeds a b) :
    a ∈ p.ids ∧ b ∈ p.ids :=
  h ⟨a, b⟩ hab

end ShapeCondition

namespace ShapeError

/-- The condition whose violation an error reports. -/
def condition : ShapeError → ShapeCondition
  | unknownOperator .. => .resolved
  | cycle _ => .acyclic
  | disconnected _ => .connected
  | noSink | multipleSink _ => .oneSink
  | noSource _ => .fed
  | arity .. => .arities

/-- What an error says of a plan: its condition does not hold. A plan without exactly one sink has
none or several, which are told apart. -/
def Describes (p : Plan) : ShapeError → Prop
  | noSink => ∀ operator ∈ p.operators, operator.kind.outputArity ≠ 0
  | multipleSink _ => ∃ a ∈ p.operators, ∃ b ∈ p.operators,
      a ≠ b ∧ a.kind.outputArity = 0 ∧ b.kind.outputArity = 0
  | e => ¬ e.condition.Holds p

/-- The condition that an error reports does not hold. -/
lemma Describes.not_holds {p : Plan} {e : ShapeError} (h : e.Describes p) :
    ¬ e.condition.Holds p := by
  cases e with
  | noSink =>
    rintro ⟨operator, ⟨hmem, hzero⟩, -⟩
    exact h operator hmem hzero
  | multipleSink sinks =>
    obtain ⟨a, ha, b, hb, hne, ha0, hb0⟩ := h
    rintro ⟨operator, -, honly⟩
    exact hne ((honly a ⟨ha, ha0⟩).trans (honly b ⟨hb, hb0⟩).symm)
  | unknownOperator link missing => exact h
  | cycle id => exact h
  | disconnected id => exact h
  | noSource id => exact h
  | arity id side declared actual => exact h

/-- An error reports the first condition that does not hold. -/
def Reports (p : Plan) (e : ShapeError) : Prop :=
  e.Describes p ∧ ShapeCondition.HoldUpTo p e.condition.place

end ShapeError

end Dataflow
