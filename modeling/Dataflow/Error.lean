import Dataflow.AttributeType
import Dataflow.Binary64.Shortest
import Dataflow.Identity
import Dataflow.Phase

/-!
# Errors

An error is the cause of a failure. Its kind is a stable label for the cause, and its message is
the wording shown to users. Errors of a plan's shape, of a configuration and of a run are separate
types, each with its own wording.
-/

namespace Dataflow

/-- The side of an operator on which links are counted. -/
inductive LinkSide where
  | input
  | output
  deriving DecidableEq, Repr

/-- The name of a side. -/
def LinkSide.name : LinkSide → String
  | .input => "input"
  | .output => "output"

/-- What is wrong with the shape of a plan. -/
inductive ShapeError where
  /-- A link ends at an operator that the plan does not have. -/
  | unknownOperator (link : Link) (missing : OperatorId)
  | cycle (operator : OperatorId)
  | disconnected (operator : OperatorId)
  | arity (operator : OperatorId) (side : LinkSide) (declared actual : Nat)
  | noSink
  | multipleSink (sinks : List OperatorId)
  | noSource (operator : OperatorId)
  deriving DecidableEq, Repr

namespace ShapeError

/-- The label of the cause. -/
def kind : ShapeError → String
  | .unknownOperator .. => "unknown_operator"
  | .cycle _ => "cycle"
  | .disconnected _ => "disconnected_graph"
  | .arity .. => "arity"
  | .noSink => "no_sink"
  | .multipleSink _ => "multiple_sink"
  | .noSource _ => "no_source"

/-- The wording. -/
def message : ShapeError → String
  | .unknownOperator link missing => s!"link {link.text} references unknown operator {missing}"
  | .cycle operator => s!"operator graph contains a cycle through {operator}"
  | .disconnected operator => s!"operator {operator} is disconnected from the rest of the graph"
  | .arity operator side declared actual =>
    s!"operator {operator} declares {side.name} arity {declared} but has {actual} {side.name} links"
  | .noSink => "plan has no sink operator"
  | .multipleSink sinks => "plan has more than one sink operator: " ++ ", ".intercalate sinks
  | .noSource operator => s!"plan has no source operator feeding {operator}"

end ShapeError

/-- Why a configuration is refused. -/
inductive ConfigError where
  | repeatedAttribute (name : String)
  /-- The output schema of an operator would have two attributes of one name. -/
  | repeatedOutput (operator : OperatorId) (name : String)
  | unreadablePlan
  | unknownTable (table : String)
  /-- A row of a table is bound to another schema than the table. -/
  | rowSchema (table : String) (row : Nat)
  /-- An operator is given the wrong number of input schemas. -/
  | inputCount (operator : OperatorId) (expected actual : Nat)
  | castTarget (operator : OperatorId) (target : AttributeType)
  | zeroWords (operator : OperatorId)
  | noAttributes (operator : OperatorId)
  | notTextual (operator : OperatorId) (column : String) (type : AttributeType)
  | zeroWorkers (operator : OperatorId)
  /-- A user function that learns from all tuples is to have several workers. -/
  | severalWorkers (operator : OperatorId) (role : String) (workers : Nat)
  | emptyKeywords (operator : OperatorId)
  | emptyFuzzyQuery (operator : OperatorId)
  | fuzzyThreshold (operator : OperatorId) (threshold : Binary64)
  | badPattern (operator : OperatorId) (pattern reason : String)
  | noEndpoint (connector : ConnectorId)
  deriving DecidableEq, Repr

/-- The wording. -/
def ConfigError.message : ConfigError → String
  | .repeatedAttribute name => s!"duplicate attribute name `{name}` in schema"
  | .repeatedOutput operator name =>
    s!"operator {operator}: duplicate attribute name `{name}` in schema"
  | .unreadablePlan => "plan decode failed"
  | .unknownTable table => s!"unknown table: {table}"
  | .rowSchema table row => s!"table {table}: row {row} does not match the table schema"
  | .inputCount operator expected actual =>
    s!"operator {operator} expects {expected} input schemas, got {actual}"
  | .castTarget operator target => s!"operator {operator}: cannot cast to {target.name}"
  | .zeroWords operator => s!"operator {operator}: top_n must be at least 1"
  | .noAttributes operator => s!"operator {operator}: at least one attribute to match is required"
  | .notTextual operator column type =>
    s!"operator {operator}: attribute `{column}` is {type.name}, expected STRING or TEXT"
  | .zeroWorkers operator => s!"operator {operator}: worker count must be at least 1"
  | .severalWorkers operator role workers =>
    s!"operator {operator}: {role} UDF must run on exactly one worker, requested {workers}"
  | .emptyKeywords operator =>
    s!"operator {operator}: keyword query must contain at least one word"
  | .emptyFuzzyQuery operator =>
    s!"operator {operator}: fuzzy query must contain at least one word"
  | .fuzzyThreshold operator threshold =>
    s!"operator {operator}: threshold must be in (0, 1], got {threshold.toPlain}"
  | .badPattern operator pattern reason =>
    s!"operator {operator}: invalid regex `{pattern}`: {reason}"
  | .noEndpoint connector =>
    s!"{ConnectorId.text connector}: a connector needs at least one endpoint"

/-- What goes wrong while a plan is laid out, built or run. -/
inductive RunError where
  /-- A tuple has another number of fields than its schema has attributes. -/
  | fieldCount (fields attributes : Nat)
  | noAttribute (name : String)
  | notFlagged (flag : String)
  | lostOperator (operator : OperatorId)
  /-- The schema of a producer is asked for before it is known. -/
  | schemaUnknown (producer consumer : OperatorId)
  | notLaidOut (operator : OperatorId)
  | notAConsumer (producer consumer : OperatorId)
  | unreachable (operator sink : OperatorId)
  | unknownConnector (connector : ConnectorId)
  | unusedConnector (connector : ConnectorId)
  | unusedEndpoints (connector : ConnectorId) (endpoints consumers : Nat)
  | noSuchEndpoint (connector : ConnectorId) (index endpoints : Nat)
  | endpointTaken (connector : ConnectorId) (index : Nat)
  | allEndpointsTaken (connector : ConnectorId) (endpoints : Nat)
  /-- An endpoint is behind the rows that a connector still holds. -/
  | behind (producer : OperatorId) (index position base : Nat)
  | notASource (kind : String) (operator : OperatorId)
  /-- An executor with inputs was to be created and a source was. -/
  | notAnOperator (kind : String) (operator : OperatorId)
  /-- An executor of one kind was asked to run an operator of another. -/
  | kindMismatch (operator : OperatorId) (executor kind : String)
  | noInputSchema (operator : OperatorId) (index : Nat)
  | joinLinks (operator : OperatorId) (links : Nat)
  | joinSchema (operator : OperatorId)
  | unexpectedLink (operator : OperatorId) (link : Link)
  /-- A failure that an executor or a stream reports in its own words. -/
  | reported (text : String)
  deriving DecidableEq, Repr

/-- The wording. -/
def RunError.message : RunError → String
  | .fieldCount fields attributes =>
    s!"tuple has {fields} fields but schema has {attributes} attributes"
  | .noAttribute name => s!"tuple has no attribute `{name}`"
  | .notFlagged flag => s!"tuple is not a progressive delta: missing leading `{flag}`"
  | .lostOperator operator => s!"validated plan lost operator {operator}"
  | .schemaUnknown producer consumer => s!"schema of {producer} not inferred before {consumer}"
  | .notLaidOut operator => s!"operator {operator} consumed before it was built"
  | .notAConsumer producer consumer => s!"{producer} does not list {consumer} as a consumer"
  | .unreachable operator sink => s!"operator {operator} is not reachable from sink {sink}"
  | .unknownConnector connector => s!"unknown {ConnectorId.text connector}"
  | .unusedConnector connector =>
    s!"{ConnectorId.text connector} is not referenced by any consumer"
  | .unusedEndpoints connector endpoints consumers =>
    s!"{ConnectorId.text connector} has {endpoints} endpoints but {consumers} consumers"
  | .noSuchEndpoint connector index endpoints =>
    s!"{ConnectorId.text connector}: endpoint {index} out of range ({endpoints} endpoints)"
  | .endpointTaken connector index =>
    s!"{ConnectorId.text connector}: endpoint {index} already handed out"
  | .allEndpointsTaken connector endpoints =>
    s!"{ConnectorId.text connector}: all {endpoints} endpoints already handed out"
  | .behind producer index position base =>
    s!"connector for {producer}: endpoint {index} at {position} is behind evicted rows " ++
      s!"(base {base})"
  | .notASource kind operator =>
    s!"factory for {kind} returned a non-source executor for source {operator}"
  | .notAnOperator kind operator =>
    s!"factory for {kind} returned a source executor for {operator}"
  | .kindMismatch operator executor kind =>
    s!"operator {operator}: {executor} executor cannot run a {kind} descriptor"
  | .noInputSchema operator index => s!"operator {operator}: missing input schema {index}"
  | .joinLinks operator links => s!"operator {operator}: join needs 2 input links, got {links}"
  | .joinSchema operator =>
    s!"operator {operator}: joined schema does not match the planned output schema"
  | .unexpectedLink operator link =>
    s!"operator {operator}: input from unexpected link {link.text}"
  | .reported text => text

/-- The cause of a failure. -/
inductive Error where
  | shape (cause : ShapeError)
  /-- An operator is added to a plan that has one of its name. -/
  | duplicateOperator (operator : OperatorId)
  | duplicateLink (link : Link)
  /-- An operator names an attribute that its input does not have. -/
  | unknownAttribute (operator : OperatorId) (column : String)
  | duplicateAttribute (operator : OperatorId) (column : String)
  | config (cause : ConfigError)
  | fieldType (column expected actual : String)
  | wrongPhase (operator : OperatorId) (phase : Phase) (action : Action)
  | run (cause : RunError)
  | noExecutor (kind : String)
  /-- An executor cannot do what it is asked, in its own words. -/
  | unsupported (text : String)
  deriving DecidableEq, Repr

namespace Error

/-- The label of the cause. -/
def kind : Error → String
  | .shape cause => cause.kind
  | .duplicateOperator _ => "duplicate_operator"
  | .duplicateLink _ => "duplicate_link"
  | .unknownAttribute .. => "unknown_attribute"
  | .duplicateAttribute .. => "duplicate_attribute"
  | .config _ => "invalid_config"
  | .fieldType .. => "field_type"
  | .wrongPhase .. => "executor_state"
  | .run _ => "execution"
  | .noExecutor _ | .unsupported _ => "unsupported"

/-- The wording. -/
def message : Error → String
  | .shape cause => "invalid plan: " ++ cause.message
  | .duplicateOperator operator => s!"duplicate operator id: {operator}"
  | .duplicateLink link => s!"duplicate link: {link.text}"
  | .unknownAttribute operator column =>
    s!"operator {operator}: unknown attribute `{column}`"
  | .duplicateAttribute operator column =>
    s!"operator {operator}: attribute `{column}` already exists"
  | .config cause => "invalid configuration: " ++ cause.message
  | .fieldType column expected actual =>
    s!"attribute `{column}`: expected {expected}, found {actual}"
  | .wrongPhase operator phase action =>
    s!"operator {operator}: cannot {action.name} while {phase.name}"
  | .run cause => "execution error: " ++ cause.message
  | .noExecutor kind => s!"unsupported: no executor registered for operator kind {kind}"
  | .unsupported text => "unsupported: " ++ text

end Error

/-- What a step gives: a value, or the cause of its failure. -/
abbrev Result (α : Type) := Except Error α

namespace Result

variable {α β : Type}

/-- The cause of a failure; none after a success. -/
def error? : Result α → Option Error
  | .ok _ => none
  | .error e => some e

@[simp] theorem error?_ok (a : α) : error? (.ok a : Result α) = none :=
  rfl

@[simp] theorem error?_error (e : Error) : error? (.error e : Result α) = some e :=
  rfl

/-- A step after a success goes on with its value. -/
@[simp] theorem ok_bind (a : α) (f : α → Result β) : ((.ok a : Result α) >>= f) = f a :=
  rfl

/-- Nothing is done after a failure. -/
@[simp] theorem error_bind (e : Error) (f : α → Result β) :
    ((.error e : Result α) >>= f) = .error e :=
  rfl

/-- A function of a value keeps a success. -/
@[simp] theorem map_ok (a : α) (f : α → β) : Except.map f (.ok a : Result α) = .ok (f a) :=
  rfl

/-- A function of a value keeps a failure. -/
@[simp] theorem map_error (e : Error) (f : α → β) :
    Except.map f (.error e : Result α) = .error e :=
  rfl

end Result

end Dataflow
