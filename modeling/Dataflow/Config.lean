import Dataflow.Text.Blank
import Dataflow.Text.Integer

/-!
# Settings of the engine

Four numbers steer a run. They have defaults, and environment variables can change them.
-/

namespace Dataflow

/-- The settings of the engine. -/
structure Config where
  /-- The least time between two updates of a progressive operator, in milliseconds. -/
  updateInterval : Nat := 500
  /-- The number of tuples that a partial count takes in before it emits. -/
  batchSize : Nat := 100
  /-- The number of workers of an operator that can run in parallel. -/
  workers : Nat := 2
  /-- The number of buffered rows at which a connector is called slow. -/
  bufferWarning : Nat := 65536
  deriving DecidableEq, Repr, Inhabited

namespace Config

/-- The number that an environment variable sets, if it can be read as one. -/
def setting? (environment : String → Option String) (name : String) : Option Nat :=
  (environment name).bind fun text => naturalOfText? word64Max (trimBlanks text)

/-- The defaults, changed by environment variables; the counts are at least one. -/
def ofEnvironment (environment : String → Option String) : Config :=
  let default : Config := {}
  let count (name : String) (unset : Nat) : Nat :=
    match setting? environment name with
    | some n => max n 1
    | none => unset
  { updateInterval := (setting? environment "TEXTFLOW_UPDATE_INTERVAL_MS").getD
      default.updateInterval
    batchSize := count "TEXTFLOW_PARTIAL_BATCH_SIZE" default.batchSize
    workers := count "TEXTFLOW_DEFAULT_WORKERS" default.workers
    bufferWarning := count "TEXTFLOW_CONNECTOR_BUFFER_WARN_ROWS" default.bufferWarning }

/-- The number of workers that planning starts from. -/
def planningWorkers (config : Config) : Nat :=
  max config.workers 1

end Config

end Dataflow
