import Dataflow.Plan.Physical
import Dataflow.Text.Quoted

/-!
# Outlines of plans

A plan is shown as an indented tree rooted at the sink. An operator with several consumers is shown
in full under the first of them that is reached, and only named under the others. An outline is
first a list of entries with their depths, then a text.
-/

namespace Dataflow

/-- One line of an operator: its name, its kind and the main parts of its configuration. -/
def Operator.describe (operator : Operator) : String :=
  operator.id ++ ": " ++ match operator.kind with
  | .scanSource table => s!"ScanSource table={table}"
  | .keywordSource table query columns matching result =>
    s!"KeywordSource table={table} query={quoted query} matching={matching.label} " ++
      s!"on={quotedList columns} as={result}"
  | .keywordMatcher query columns matching result =>
    s!"KeywordMatcher query={quoted query} matching={matching.label} " ++
      s!"on={quotedList columns} as={result}"
  | .patternMatcher pattern columns result =>
    s!"RegexMatcher pattern={quoted pattern} on={quotedList columns} as={result}"
  | .fuzzyMatcher query columns threshold result =>
    s!"FuzzyTokenMatcher query={quoted query} threshold={threshold.toPlain} " ++
      s!"on={quotedList columns} as={result}"
  | .entityMatcher entity columns result =>
    s!"NlpEntity type={entity.label} on={quotedList columns} as={result}"
  | .projection columns => s!"Projection {quotedList columns}"
  | .typeCasting column target => s!"TypeCasting {column} as {target.name}"
  | .userFunction function =>
    s!"PythonUdf type={function.role.label} outputs={function.outputs.length}"
  | .join innerColumn outerColumn threshold =>
    s!"Join inner={innerColumn} outer={outerColumn} threshold={threshold}"
  | .wordCountPartial column => s!"WordCountPartial {column}"
  | .wordCloud limit => s!"WordCloud top_n={limit}"
  | .tupleSink => "TupleSink"

/-- The blanks in front of a line of some depth. -/
def indent (depth : Nat) : String :=
  String.ofList (List.replicate (2 * depth) ' ')

/-- An entry of the outline of a plan. -/
inductive OutlineEntry where
  | full (operator : Operator)
  | shared (id : OperatorId)
  | missing (id : OperatorId)
  deriving DecidableEq

/-- The line of an entry. -/
def OutlineEntry.line : OutlineEntry → String
  | .full operator => operator.describe
  | .shared id => s!"{id} (shared)"
  | .missing id => s!"{id} <missing>"

namespace Plan

mutual

/-- The entries of an operator and everything that feeds it, and the operators with several
consumers that have been shown. The fuel bounds the depth; a plan without cycles is no deeper than
the number of its operators. -/
def outlineFrom (p : Plan) :
    (fuel depth : Nat) → (shown : List OperatorId) → (id : OperatorId) →
      List (Nat × OutlineEntry) × List OperatorId
  | 0, _, shown, _ => ([], shown)
  | fuel + 1, depth, shown, id =>
    match p.operator? id with
    | none => ([(depth, .missing id)], shown)
    | some operator =>
      let several := decide (1 < (p.consumersOf id).length)
      if several && shown.contains id then ([(depth, .shared id)], shown)
      else
        let shown := if several then id :: shown else shown
        let (entries, shown) := outlineAll p fuel (depth + 1) shown (p.producersOf id)
        ((depth, .full operator) :: entries, shown)

/-- The entries of several operators, one after another. -/
def outlineAll (p : Plan) (fuel depth : Nat) (shown : List OperatorId) :
    List OperatorId → List (Nat × OutlineEntry) × List OperatorId
  | [] => ([], shown)
  | id :: ids =>
    let (entries, shown) := outlineFrom p fuel depth shown id
    let (others, shown) := outlineAll p fuel depth shown ids
    (entries ++ others, shown)

end

end Plan

/-- The lines of entries with their depths. -/
def outlineText (lines : List (Nat × String)) : String :=
  String.join (lines.map fun (depth, line) => indent depth ++ line ++ "\n")

namespace ValidPlan

/-- The entries of the outline of a plan. -/
def outline (v : ValidPlan) : List (Nat × OutlineEntry) :=
  (v.plan.outlineFrom (v.order.length + 1) 0 [] v.sink).1

/-- A plan as an indented tree. -/
def explain (v : ValidPlan) : String :=
  outlineText (v.outline.map fun (depth, entry) => (depth, entry.line))

end ValidPlan

/-- An entry of the outline of a physical plan. -/
inductive PhysicalEntry where
  | node (operator : Operator) (workers : Nat)
  | endpoint (link : Link) (connector : ConnectorId) (index : Nat)
  | connector (id : ConnectorId) (endpoints : Nat)
  deriving DecidableEq

/-- The line of an entry. -/
def PhysicalEntry.line : PhysicalEntry → String
  | .node operator workers => s!"{operator.describe} workers={workers}"
  | .endpoint link place index =>
    s!"<- {ConnectorId.text place}[{index}] from {link.producer}"
  | .connector place endpoints => s!"{ConnectorId.text place} endpoints={endpoints}"

mutual

/-- The entries of a node and everything under it. -/
def PhysicalNode.outline (depth : Nat) : PhysicalNode → List (Nat × PhysicalEntry)
  | .node operator workers inputs =>
    (depth, .node operator workers) :: PhysicalInput.outlineAll (depth + 1) inputs

/-- The entries of the inputs of a node. -/
def PhysicalInput.outlineAll (depth : Nat) : List PhysicalInput → List (Nat × PhysicalEntry)
  | [] => []
  | .direct _ node :: inputs => node.outline depth ++ PhysicalInput.outlineAll depth inputs
  | .endpoint link connector index :: inputs =>
    (depth, .endpoint link connector index) :: PhysicalInput.outlineAll depth inputs

end

namespace PhysicalPlan

/-- The entries of the outline of a physical plan: the tree, then each connector with what feeds
it. -/
def outline (p : PhysicalPlan) : List (Nat × PhysicalEntry) :=
  p.root.outline 0 ++ p.connectors.flatMap fun connector =>
    (0, .connector connector.id connector.endpoints) :: connector.producer.outline 1

/-- A physical plan as indented trees. -/
def explain (p : PhysicalPlan) : String :=
  outlineText (p.outline.map fun (depth, entry) => (depth, entry.line))

end PhysicalPlan

end Dataflow
