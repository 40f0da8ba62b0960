import Dataflow.Plan.Shape

/-!
# Schemas of a plan

The schema of the tuples that an operator gives follows from its kind and the schemas of its
inputs; sources take theirs from a table. Going through a plan from its sources on gives the
schema of every operator.
-/

namespace Dataflow

/-- Gives the schema of a table. -/
abbrev TableSchemas :=
  String → Result Schema

namespace Operator

/-- Textual attributes of an input, by name. -/
def requireTextual (id : OperatorId) (input : Schema) (name : String) : Result Unit :=
  match input.attribute? name with
  | none => .error (.unknownAttribute id name)
  | some column =>
    if column.type.isTextual then .ok ()
    else .error (.config (.notTextual id column.name column.type))

/-- A schema of the given attributes as the output of an operator. -/
def outputOf (id : OperatorId) (attributes : List Attribute) : Result Schema :=
  match Schema.ofAttributes attributes with
  | .error (.config (.repeatedAttribute name)) => .error (.config (.repeatedOutput id name))
  | result => result

/-- The input of a matcher with the list of spans behind it. -/
def matcherSchema (id : OperatorId) (input : Schema) (columns : List String) (result : String) :
    Result Schema := do
  if columns.isEmpty then throw (.config (.noAttributes id))
  columns.forM (requireTextual id input)
  if input.contains result then throw (.duplicateAttribute id result)
  outputOf id (input.attributes ++ [⟨result, .list⟩])

/-- The kept attributes of a projection. -/
def projectionSchema (id : OperatorId) (input : Schema) (columns : List String) :
    Result Schema := do
  let kept ← columns.mapM fun name =>
    match input.attribute? name with
    | some column => .ok column
    | none => .error (.unknownAttribute id name)
  outputOf id kept

/-- The input of a cast with another type for one attribute. -/
def castSchema (id : OperatorId) (input : Schema) (name : String) (target : AttributeType) :
    Result Schema := do
  if !target.isCastTarget then throw (.config (.castTarget id target))
  if !input.contains name then throw (.unknownAttribute id name)
  outputOf id (input.attributes.map fun column =>
    if column.name = name then { column with type := target } else column)

/-- What a user function gives before the attributes it adds. -/
def functionBase (input : Schema) : FunctionRole → List Attribute
  | .supervisedTraining =>
    ["class", "precision", "recall", "f1-score", "support"].map fun name => ⟨name, .string⟩
  | .unsupervisedTraining => [⟨"output", .string⟩]
  | .map | .filter => input.attributes

/-- The output of a user function. -/
def functionSchema (id : OperatorId) (input : Schema) (function : UserFunction) :
    Result Schema := do
  function.inputs.forM fun name =>
    if input.contains name then .ok () else .error (.unknownAttribute id name)
  function.outputs.forM fun column =>
    if input.contains column.name then .error (.duplicateAttribute id column.name) else .ok ()
  outputOf id (functionBase input function.role ++ function.outputs)

/-- The attributes of the outer side of a join that the inner side does not have. An attribute
that both sides have is kept once, and has to have one type. -/
def outerOnly (id : OperatorId) (inner : Schema) : List Attribute → Result (List Attribute)
  | [] => .ok []
  | column :: columns =>
    match inner.attribute? column.name with
    | some own =>
      if own.type = column.type then outerOnly id inner columns
      else .error (.duplicateAttribute id column.name)
    | none => (outerOnly id inner columns).map (column :: ·)

/-- The inner side of a join, then what only the outer side has. -/
def joinSchema (id : OperatorId) (inner outer : Schema) (innerColumn outerColumn : String) :
    Result Schema := do
  if !inner.contains innerColumn then throw (.unknownAttribute id innerColumn)
  if !outer.contains outerColumn then throw (.unknownAttribute id outerColumn)
  outputOf id (inner.attributes ++ (← outerOnly id inner outer.attributes))

/-- An attribute that a word cloud reads. -/
def requireTyped (id : OperatorId) (input : Schema) (name : String) (type : AttributeType) :
    Result Unit :=
  match input.attribute? name with
  | none => .error (.unknownAttribute id name)
  | some column =>
    if column.type = type then .ok () else .error (.fieldType name type.name column.type.name)

/-- The output schema of an operator without inputs. -/
def sourceSchema (tables : TableSchemas) (id : OperatorId) : OperatorKind → Result Schema
  | .scanSource table => tables table
  | .keywordSource table _ columns _ result => do
    matcherSchema id (← tables table) columns result
  | kind => .error (.config (.inputCount id kind.inputArity 0))

/-- The output schema of an operator with one input. -/
def unarySchema (id : OperatorId) (input : Schema) : OperatorKind → Result Schema
  | .keywordMatcher _ columns _ result | .patternMatcher _ columns result
  | .fuzzyMatcher _ columns _ result | .entityMatcher _ columns result =>
    matcherSchema id input columns result
  | .projection columns => projectionSchema id input columns
  | .typeCasting name target => castSchema id input name target
  | .userFunction function => functionSchema id input function
  | .wordCountPartial name => do
    requireTextual id input name
    return wordCountSchema
  | .wordCloud limit => do
    if limit = 0 then throw (.config (.zeroWords id))
    requireTyped id input wordName .string
    requireTyped id input countName .integer
    return wordCloudSchema
  | .tupleSink => .ok input
  | kind => .error (.config (.inputCount id kind.inputArity 1))

/-- The output schema of an operator, given the schemas of its inputs in the order of the links. -/
def outputSchema (operator : Operator) (tables : TableSchemas) (inputs : List Schema) :
    Result Schema :=
  if inputs.length ≠ operator.kind.inputArity then
    .error (.config (.inputCount operator.id operator.kind.inputArity inputs.length))
  else match inputs with
    | [] => sourceSchema tables operator.id operator.kind
    | [input] => unarySchema operator.id input operator.kind
    | inner :: outer :: _ =>
      match operator.kind with
      | .join innerColumn outerColumn _ =>
        joinSchema operator.id inner outer innerColumn outerColumn
      | kind => .error (.config (.inputCount operator.id kind.inputArity inputs.length))

end Operator

/-- The value of a name in a list of named values. -/
def valueOf? {α : Type} (id : OperatorId) (values : List (OperatorId × α)) : Option α :=
  (values.find? (·.1 == id)).map (·.2)

namespace ValidPlan

variable (v : ValidPlan) (tables : TableSchemas)

/-- The schema of one more operator, put in front of those known. -/
def inferNext (known : List (OperatorId × Schema)) (id : OperatorId) :
    Result (List (OperatorId × Schema)) := do
  let operator ← match v.plan.operator? id with
    | some operator => pure operator
    | none => throw (.run (.lostOperator id))
  let inputs ← (v.plan.producersOf id).mapM fun producer =>
    match valueOf? producer known with
    | some schema => .ok schema
    | none => .error (.run (.schemaUnknown producer id))
  return (id, ← operator.outputSchema tables inputs) :: known

/-- The output schema of every operator. -/
def inferSchemas : Result (List (OperatorId × Schema)) :=
  v.order.foldlM (v.inferNext tables) []

end ValidPlan

end Dataflow
