import Dataflow.Text.Quoted
import Dataflow.Tree.Basic

/-!
# Showing trees

A tree is shown by its sink and by the consumers of its connectors, a call by its executor and
what it was asked to do, and a context by its settings.
-/

namespace Dataflow

/-- A list of entries between brackets. -/
def bracketed (entries : List String) : String :=
  "[" ++ ", ".intercalate entries ++ "]"

/-- A named record with its members. -/
def recordText (name : String) (members : List (String × String)) : String :=
  name ++ " \x7b " ++ ", ".intercalate (members.map fun (label, text) => label ++ ": " ++ text) ++
    " \x7d"

/-- The name of an operator as it is shown in a record. -/
def OperatorId.display (id : OperatorId) : String :=
  "OperatorId(" ++ quoted id ++ ")"

/-- A connector with its consumers. -/
def Junction.text (j : Junction) : String :=
  recordText "ConnectorInfo" [("id", s!"ConnectorId({j.connector.id})"),
    ("producer", OperatorId.display j.connector.producer),
    ("consumers", bracketed (j.consumers.map fun (consumer, index) =>
      s!"({OperatorId.display consumer}, {index})"))]

/-- A tree with its connectors. -/
def Tree.text {σ ω : Type} (t : Tree σ ω) : String :=
  let sink := (t.sink?.map fun node => node.operator.id).getD ""
  recordText "ExecutorTree" [("sink", OperatorId.display sink),
    ("connectors", bracketed (t.junctions.map Junction.text))]

/-- A context with its settings; the tables are not shown. -/
def Context.text (c : Context) : String :=
  let settings := recordText "EngineConfig" [
    ("update_interval_ms", toString c.config.updateInterval),
    ("partial_batch_size", toString c.config.batchSize),
    ("default_workers", toString c.config.workers),
    ("connector_buffer_warn_rows", toString c.config.bufferWarning)]
  "ExecutionContext \x7b config: " ++ settings ++ ", .. \x7d"

/-- What an executor is asked to do. -/
def Event.text : Event → String
  | start => "open"
  | next => "next"
  | process (.tuple _ link) => "tuple " ++ link.text
  | process (.exhausted link) => "exhausted " ++ link.text
  | stop => "close"

/-- A call of an executor of an operator. -/
def Call.text (operator : OperatorId) (call : Call) : String :=
  let executor := match call.worker with
    | some number => s!"{operator}/{number}"
    | none => operator
  executor ++ " " ++ call.event.text

end Dataflow
