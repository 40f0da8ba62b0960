import Dataflow.Operator

/-!
# Plans

A plan is a graph of operators as its author drew it. Operators are kept in the order of their
names, links in the order they were declared, because that order tells the inputs of an operator
apart. A plan has one operator of a name and one link between two operators; whether links end at
operators of the plan is not asked here.
-/

namespace Dataflow

/-- An operator put before the first one with a greater name. -/
def insertOperator (new : Operator) : List Operator → List Operator
  | [] => [new]
  | operator :: operators =>
    if new.id < operator.id then new :: operator :: operators
    else operator :: insertOperator new operators

/-- Putting an operator into a list adds exactly this operator. -/
theorem mem_insertOperator {new x : Operator} {operators : List Operator} :
    x ∈ insertOperator new operators ↔ x = new ∨ x ∈ operators := by
  induction operators with
  | nil => simp [insertOperator]
  | cons operator operators ih =>
    unfold insertOperator
    split
    · simp
    · simp only [List.mem_cons, ih]
      grind

/-- A list of operators in the order of their names, each name once. -/
def Ascending (operators : List Operator) : Prop :=
  operators.Pairwise fun a b => a.id < b.id

/-- An operator with a new name can be put into a list in order. -/
theorem Ascending.insertOperator {new : Operator} {operators : List Operator}
    (h : Ascending operators) (fresh : ∀ x ∈ operators, x.id ≠ new.id) :
    Ascending (insertOperator new operators) := by
  induction operators with
  | nil => simp [Dataflow.insertOperator, Ascending]
  | cons operator operators ih =>
    obtain ⟨first, rest⟩ := List.pairwise_cons.1 h
    unfold Dataflow.insertOperator
    split
    · rename_i lt
      refine List.pairwise_cons.2 ⟨fun x hx => ?_, h⟩
      rcases List.mem_cons.1 hx with rfl | hx
      · exact lt
      · exact String.lt_trans lt (first x hx)
    · rename_i notLt
      refine List.pairwise_cons.2 ⟨fun x hx => ?_, ih rest fun x hx => fresh x (by simp [hx])⟩
      rcases mem_insertOperator.1 hx with rfl | hx
      · have := fresh operator (by simp)
        grind
      · exact first x hx

/-- A graph of operators. -/
structure Plan where
  operators : List Operator
  links : List Link
  ascending : Ascending operators
  distinct : links.Nodup

namespace Plan

instance : DecidableEq Plan := fun p q =>
  if h : p.operators = q.operators ∧ p.links = q.links then
    isTrue (by cases p; cases q; simp_all)
  else isFalse (by rintro rfl; exact h ⟨rfl, rfl⟩)

/-- The plan without operators. -/
def empty : Plan :=
  ⟨[], [], List.Pairwise.nil, List.nodup_nil⟩

instance : Inhabited Plan :=
  ⟨empty⟩

/-- The names of the operators, ascending. -/
def ids (p : Plan) : List OperatorId :=
  p.operators.map (·.id)

/-- The operator of a name. -/
def operator? (p : Plan) (id : OperatorId) : Option Operator :=
  p.operators.find? (·.id == id)

/-- Whether the plan has an operator of a name. -/
def contains (p : Plan) (id : OperatorId) : Bool :=
  (p.operator? id).isSome

/-- The producers that feed an operator, in the order of the links. -/
def producersOf (p : Plan) (id : OperatorId) : List OperatorId :=
  (p.links.filter (·.consumer == id)).map (·.producer)

/-- The consumers that an operator feeds, in the order of the links. -/
def consumersOf (p : Plan) (id : OperatorId) : List OperatorId :=
  (p.links.filter (·.producer == id)).map (·.consumer)

/-- The plan with one more operator. -/
def addOperator (p : Plan) (operator : Operator) : Result Plan :=
  if h : ∀ x ∈ p.operators, x.id ≠ operator.id then
    .ok { p with
      operators := insertOperator operator p.operators
      ascending := p.ascending.insertOperator h }
  else .error (.duplicateOperator operator.id)

/-- The plan with one more link. -/
def addLink (p : Plan) (link : Link) : Result Plan :=
  if h : link ∉ p.links then
    .ok { p with
      links := p.links ++ [link]
      distinct := List.nodup_append.2
        ⟨p.distinct, by simp, fun a ha b hb => by simp at hb; subst hb; rintro rfl; exact h ha⟩ }
  else .error (.duplicateLink link)

/-- The plan of a list of operators and a list of links. -/
def ofParts (operators : List Operator) (links : List Link) : Result Plan := do
  links.foldlM addLink (← operators.foldlM addOperator empty)

end Plan

end Dataflow
