import Dataflow.Executor.Registry
import Dataflow.Text.Scan

/-!
# Scripted executors

Executors that do something simple and fail where they are told to. They show how a run deals with
failures, and they stand in for operators that need something from outside.
-/

namespace Dataflow

/-- A failure in given words. -/
def failIf (fails : Bool) (text : String) : Result Unit :=
  if fails then .error (.run (.reported text)) else .ok ()

/-- Where a scripted source fails. -/
structure SourceScript where
  table : Option String := none
  failStart : Bool := false
  failNext : Option Nat := none
  failStop : Bool := false

/-- A scripted source. -/
structure ScriptedSource where
  operator : OperatorId
  script : SourceScript
  rest : List Tuple
  nexts : Nat := 0

namespace ScriptedSource

/-- Gives the next row; a failure keeps it. -/
def next (s : ScriptedSource) : Result (Option Tuple) × ScriptedSource :=
  let counted := { s with nexts := s.nexts + 1 }
  match failIf (s.script.failNext == some s.nexts) s!"{s.operator} next failed" with
  | .ok () => (.ok s.rest.head?, { counted with rest := s.rest.tail })
  | .error e => (.error e, counted)

instance : Source ScriptedSource where
  start s := (failIf s.script.failStart s!"{s.operator} open failed", s)
  next := next
  stop s := (failIf s.script.failStop s!"{s.operator} close failed", s)

end ScriptedSource

/-- What a scripted worker gives for a tuple. -/
inductive Scene where
  | echo
  | copies (count : Nat)
  /-- The tuple with the places of a word in the attributes of its operator, if there are any. -/
  | literal (word : String)

/-- What a scripted worker does, and where it fails. -/
structure WorkerScript where
  scene : Scene := .echo
  failStart : Option Nat := none
  failProcess : Option Nat := none
  failStop : Option Nat := none

/-- A scripted worker. -/
structure ScriptedWorker where
  operator : Operator
  number : Nat
  schema : Schema
  script : WorkerScript
  inputs : Nat := 0

namespace ScriptedWorker

/-- The worker as messages name it. -/
def name (w : ScriptedWorker) : String :=
  s!"{w.operator.id}/{w.number}"

/-- The attributes that an operator looks at. -/
def columnsOf : OperatorKind → List String
  | .keywordSource _ _ columns _ _ | .keywordMatcher _ columns _ _ | .patternMatcher _ columns _
  | .fuzzyMatcher _ columns _ _ | .entityMatcher _ columns _ | .projection columns => columns
  | _ => []

/-- The places of a word in an attribute. -/
def spansOf (word : String) (t : Tuple) (column : String) : Result (List Span) := do
  let text ← t.getText column
  return (occurrences word.toList text.toList).map fun (start, stop) =>
    ⟨column, start, stop, "LITERAL", word⟩

/-- What the worker gives for a tuple. -/
def perform (w : ScriptedWorker) (t : Tuple) : Result (List Tuple) := do
  match w.script.scene with
  | .echo => return [t]
  | .copies count => return .replicate count t
  | .literal word =>
    let spans ← (columnsOf w.operator.kind).mapM (spansOf word t)
    if spans.flatten.isEmpty then return []
    return [← t.append w.schema (.list spans.flatten)]

/-- Takes something in. -/
def process (_now : Nat) (input : Input) (w : ScriptedWorker) :
    Result (List Tuple) × ScriptedWorker :=
  let outcome : Result (List Tuple) := do
    failIf (w.script.failProcess == some w.inputs) s!"{w.name} process failed"
    match input with
    | .tuple t _ => w.perform t
    | .exhausted _ => return []
  (outcome, { w with inputs := w.inputs + 1 })

instance : Worker ScriptedWorker where
  start w := (failIf (w.script.failStart == some w.number) s!"{w.name} open failed", w)
  process := process
  stop w := (failIf (w.script.failStop == some w.number) s!"{w.name} close failed", w)

end ScriptedWorker

/-- What the executors of a kind do. -/
inductive Script where
  | source (script : SourceScript)
  | worker (script : WorkerScript)
  | unsupported (text : String)

/-- A factory of scripted executors. -/
def Script.factory : Script → Factory ScriptedSource ScriptedWorker
  | source script => fun r => do
    let rest ← match script.table with
      | some table => r.context.catalog.scan table
      | none => pure []
    return .source { operator := r.operator.id, script, rest }
  | worker script => fun r =>
    .ok (.worker { operator := r.operator, number := r.worker, schema := r.output, script })
  | unsupported text => fun _ => .error (.unsupported text)

end Dataflow
