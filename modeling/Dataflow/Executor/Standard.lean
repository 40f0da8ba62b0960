import Dataflow.Counting.WordCloud
import Dataflow.Counting.WordCount
import Dataflow.Executor.Join
import Dataflow.Executor.Registry
import Dataflow.Executor.Scan
import Dataflow.Field.Cast

/-!
# Executors of the standard operators

Every kind of operator has an executor here, except those that need something from outside:
entity matchers and user functions.
-/

namespace Dataflow

/-- A worker of a standard operator. -/
inductive StandardWorker where
  | matcher (m : Matcher)
  | projection (places : List Nat) (schema : Schema)
  | cast (column : String) (place : Nat) (target : AttributeType) (schema : Schema)
  | join (j : Join)
  | count (w : WordCount)
  | cloud (c : WordCloud)
  | sink

namespace StandardWorker

/-- The values of a tuple at some places. -/
def project (places : List Nat) (schema : Schema) (t : Tuple) : Result Tuple :=
  Tuple.bind schema (places.map fun place => t.fields[place]?.getD .null)

/-- A tuple with the value at a place cast to a type. -/
def castAt (column : String) (place : Nat) (target : AttributeType) (schema : Schema) (t : Tuple) :
    Result Tuple := do
  let value ← (t.fields[place]?.getD .null).cast column target
  Tuple.bind schema (t.fields.set place value)

/-- What a worker that looks at tuples one by one makes of an input. -/
def each (f : Tuple → Result (List Tuple)) : Input → Result (List Tuple)
  | .tuple t _ => f t
  | .exhausted _ => .ok []

/-- Takes something in. -/
def process (now : Nat) (input : Input) :
    StandardWorker → Result (List Tuple) × StandardWorker
  | matcher m => (each (fun t => return (← m.apply t).toList) input, matcher m)
  | projection places schema =>
    (each (fun t => return [← project places schema t]) input, projection places schema)
  | cast column place target schema =>
    (each (fun t => return [← castAt column place target schema t]) input,
      cast column place target schema)
  | join j => (Worker.process now input j).map id join
  | count w => (Worker.process now input w).map id count
  | cloud c => (Worker.process now input c).map id cloud
  | sink => (each (fun t => .ok [t]) input, sink)

/-- Closes a worker. -/
def stop : StandardWorker → Result Unit × StandardWorker
  | join j => (Worker.stop j).map id join
  | count w => (Worker.stop w).map id count
  | cloud c => (Worker.stop c).map id cloud
  | other => (.ok (), other)

instance : Worker StandardWorker where
  start w := (.ok (), w)
  process := process
  stop := stop

end StandardWorker

/-- Factories of standard executors. -/
abbrev StandardFactory : Type :=
  Factory TableScan StandardWorker

namespace StandardFactory

variable (engine : PatternEngine)

/-- An executor of one kind is asked to run an operator of another. -/
def mismatch {α : Type} (r : Request) (tag : String) : Result α :=
  .error (.run (.kindMismatch r.operator.id tag r.operator.kind.tag))

/-- A matcher as a worker. -/
def ofFinder (r : Request) (columns : List String) (finder : Finder) :
    Executor TableScan StandardWorker :=
  .worker (.matcher ⟨finder, columns, r.output⟩)

/-- The place of an attribute of an input. -/
def placeOf (r : Request) (input : Schema) (name : String) : Result Nat :=
  match input.indexOf? name with
  | some place => .ok place
  | none => .error (.unknownAttribute r.operator.id name)

/-- Scans of tables. -/
def scanSource : StandardFactory := fun r =>
  match r.operator.kind with
  | .scanSource table => .ok (.source ⟨r.context.catalog, table, none, []⟩)
  | _ => mismatch r "ScanSource"

/-- Scans of tables with a keyword query. -/
def keywordSource : StandardFactory := fun r => do
  match r.operator.kind with
  | .keywordSource table query columns matching _ =>
    if columns.isEmpty then throw (.config (.noAttributes r.operator.id))
    let finder ← Finder.ofKeywords r.operator.id query matching
    return .source ⟨r.context.catalog, table, some ⟨finder, columns, r.output⟩, []⟩
  | _ => mismatch r "KeywordSource"

/-- Matchers of keyword queries. -/
def keywordMatcher : StandardFactory := fun r => do
  match r.operator.kind with
  | .keywordMatcher query columns matching _ =>
    return ofFinder r columns (← Finder.ofKeywords r.operator.id query matching)
  | _ => mismatch r "KeywordMatcher"

/-- Matchers of patterns. -/
def patternMatcher : StandardFactory := fun r => do
  match r.operator.kind with
  | .patternMatcher pattern columns _ =>
    return ofFinder r columns (← Finder.ofPattern engine r.operator.id pattern)
  | _ => mismatch r "RegexMatcher"

/-- Matchers of shares of words. -/
def fuzzyMatcher : StandardFactory := fun r => do
  match r.operator.kind with
  | .fuzzyMatcher query columns threshold _ =>
    return ofFinder r columns (← Finder.ofShare r.operator.id query threshold)
  | _ => mismatch r "FuzzyTokenMatcher"

/-- Projections. -/
def projection : StandardFactory := fun r => do
  match r.operator.kind with
  | .projection columns =>
    let input ← r.input 0
    return .worker (.projection (← columns.mapM (placeOf r input)) r.output)
  | _ => mismatch r "Projection"

/-- Casts. -/
def typeCasting : StandardFactory := fun r => do
  match r.operator.kind with
  | .typeCasting column target =>
    let place ← placeOf r (← r.input 0) column
    return .worker (.cast column place target r.output)
  | _ => mismatch r "TypeCasting"

/-- Joins. -/
def join : StandardFactory := fun r => do
  match r.operator.kind with
  | .join innerColumn outerColumn threshold =>
    match r.links with
    | [innerLink, outerLink] =>
      let inner ← r.input 0
      let outer ← r.input 1
      let plan ← JoinPlan.ofSchemas r.operator.id innerColumn outerColumn threshold inner outer
        r.output
      return .worker (.join { operator := r.operator.id, innerLink, outerLink, plan })
    | links => throw (.run (.joinLinks r.operator.id links.length))
  | _ => mismatch r "Join"

/-- Counters of words. -/
def wordCountPartial : StandardFactory := fun r =>
  match r.operator.kind with
  | .wordCountPartial column =>
    .ok (.worker (.count
      { column, batchSize := r.context.config.batchSize, schema := r.output }))
  | _ => mismatch r "WordCountPartial"

/-- Word clouds; the interval of the settings is in milliseconds. -/
def wordCloud : StandardFactory := fun r =>
  match r.operator.kind with
  | .wordCloud limit =>
    let interval := r.context.config.updateInterval * 1000000
    .ok (.worker (.cloud { limit, tracker := { interval } }))
  | _ => mismatch r "WordCloud"

/-- Sinks. -/
def tupleSink : StandardFactory := fun r =>
  match r.operator.kind with
  | .tupleSink => .ok (.worker .sink)
  | _ => mismatch r "TupleSink"

/-- The standard factories, by the tags of their kinds. -/
def all : List (String × StandardFactory) :=
  [("ScanSource", scanSource), ("KeywordSource", keywordSource),
    ("KeywordMatcher", keywordMatcher), ("RegexMatcher", patternMatcher engine),
    ("FuzzyTokenMatcher", fuzzyMatcher), ("Projection", projection),
    ("TypeCasting", typeCasting), ("Join", join), ("WordCountPartial", wordCountPartial),
    ("WordCloud", wordCloud), ("TupleSink", tupleSink)]

end StandardFactory

/-- The registry of the standard factories, which match patterns with an engine. -/
def Registry.standard (engine : PatternEngine) : Registry TableScan StandardWorker :=
  .ofList (StandardFactory.all engine)

end Dataflow
