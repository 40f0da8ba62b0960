import Dataflow.Executor.Join
import Dataflow.Field.Cast
import Dataflow.Matching.Finder
import Dataflow.Proofs.Plan.Physical

/-!
# What plans mean

The meaning of an operator is what it makes of the rows of its producers: by the names of the
attributes, all rows at once, and without regard to workers, connectors or the order in which
anything happens. So every operator of a valid plan has its rows, unless a value cannot be cast.
-/

namespace Dataflow

/-- Values in the order of the attributes of a schema. -/
abbrev Row : Type :=
  List Field

namespace Schema

variable (s : Schema) (row : Row)

/-- The value of an attribute. -/
def value (name : String) : Field :=
  ((s.indexOf? name).bind (row[·]?)).getD .null

/-- A row with another value of an attribute. -/
def replace (name : String) (value : Field) : Row :=
  match s.indexOf? name with
  | some place => row.set place value
  | none => row

/-- The spans in the lists of a row that were found in an attribute. -/
def spansFrom (column : String) : List Span :=
  ((s.attributes.filter (·.type = .list)).flatMap fun own =>
    JoinPlan.spansOf (s.value row own.name)).filter (·.column == column)

end Schema

/-- The matches in several attributes of a row. -/
def Finder.spans (finder : Finder) (columns : List String) (s : Schema) (row : Row) : List Span :=
  columns.flatMap fun column =>
    match (s.value row column).text? with
    | some text => finder.find column text
    | none => []

/-- A row with its matches behind it, or nothing if it has none. -/
def Finder.keep (finder : Finder) (columns : List String) (s : Schema) (row : Row) : List Row :=
  let spans := finder.spans columns s row
  if spans.isEmpty then [] else [row ++ [.list spans]]

/-- What a kind looks for, if it looks for matches, and in which attributes. -/
def OperatorKind.finder? (engine : PatternEngine) : OperatorKind → Option (Finder × List String)
  | .keywordSource _ query columns matching _ | .keywordMatcher query columns matching _ =>
    some (.keywords query matching, columns)
  | .patternMatcher pattern columns _ =>
    (engine.compile pattern).toOption.map fun search => (.pattern pattern search, columns)
  | .fuzzyMatcher query columns threshold _ =>
    some (.fuzzy (terms query).eraseDups threshold, columns)
  | _ => none

/-- A join, by the attributes that the spans were found in and their greatest distance. -/
structure Pairing where
  innerColumn : String
  outerColumn : String
  threshold : Nat

/-- Two rows belong together: they agree in all attributes that both have, lists of spans apart,
and some spans of them are near each other. -/
def Pairing.holds (p : Pairing) (a b : Schema) (inner outer : Row) : Bool :=
  (b.attributes.all fun own => own.type = .list || !a.contains own.name ||
    a.value inner own.name == b.value outer own.name) &&
  (a.spansFrom inner p.innerColumn).any fun s =>
    (b.spansFrom outer p.outerColumn).any fun t => s.isNear p.threshold t

/-- The inner row, then the values of the attributes that only the outer row has. -/
def joinRow (a b : Schema) (inner outer : Row) : Row :=
  inner ++ (b.attributes.filter fun own => !a.contains own.name).map fun own =>
    b.value outer own.name

/-- The pairs of one row with the rows of the other side. -/
def Pairing.pairs (p : Pairing) (a b : Schema) (outers : List Row) (inner : Row) : List Row :=
  (outers.filter (p.holds a b inner)).map (joinRow a b inner)

namespace OperatorKind

/-- What an operator with one input makes of a row; none if a value cannot be cast. -/
def onRow (engine : PatternEngine) (s : Schema) (row : Row) : OperatorKind → Option (List Row)
  | .projection columns => some [columns.map (s.value row)]
  | .typeCasting column target =>
    match (s.value row column).cast column target with
    | .ok value => some [s.replace row column value]
    | .error _ => none
  | .tupleSink => some [row]
  | kind =>
    some (((kind.finder? engine).map fun (finder, columns) => finder.keep columns s row).getD [])

/-- What an operator makes of the rows of its inputs, whose schemas are given along. -/
def rows (engine : PatternEngine) (catalog : Catalog) (kind : OperatorKind)
    (inputs : List (Schema × List Row)) : Option (List Row) :=
  match kind, inputs with
  | .scanSource name, [] =>
    match catalog.table name with
    | .ok table => some (table.rows.map Tuple.fields)
    | .error _ => some []
  | .keywordSource name query columns matching _, [] =>
    match catalog.table name with
    | .ok table => some ((table.rows.map Tuple.fields).flatMap
        ((Finder.keywords query matching).keep columns table.schema))
    | .error _ => some []
  | .join innerColumn outerColumn threshold, [(a, inners), (b, outers)] =>
    some (inners.flatMap ((⟨innerColumn, outerColumn, threshold⟩ : Pairing).pairs a b outers))
  | kind, [(s, given)] => (given.mapM fun row => kind.onRow engine s row).map List.flatten
  | _, _ => some []

end OperatorKind

namespace ValidPlan

variable (engine : PatternEngine) (v : ValidPlan) (catalog : Catalog)
  (schemas : List (OperatorId × Schema))

/-- The rows of an operator: what it makes of those of its producers, in the order of the links. -/
def rowsOf (id : OperatorId) : Option (List Row) := do
  let inputs ← (v.plan.producersOf id).attach.mapM fun ⟨p, _⟩ => do
    return ((valueOf? p schemas).getD .empty, ← rowsOf p)
  match v.plan.operator? id with
  | some operator => operator.kind.rows engine catalog inputs
  | none => some []
termination_by v.order.idxOf id
decreasing_by exact v.idxOf_lt ‹_›

lemma rowsOf_eq (id : OperatorId) :
    v.rowsOf engine catalog schemas id = (do
      let inputs ← (v.plan.producersOf id).mapM fun p => do
        return ((valueOf? p schemas).getD .empty, ← v.rowsOf engine catalog schemas p)
      match v.plan.operator? id with
      | some operator => operator.kind.rows engine catalog inputs
      | none => some []) := by
  rw [rowsOf]
  congr 1
  conv_rhs => rw [← List.attach_map_subtype_val (v.plan.producersOf id), List.mapM_map]
  rfl

end ValidPlan

end Dataflow
