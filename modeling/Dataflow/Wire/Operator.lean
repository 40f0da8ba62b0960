import Dataflow.Operator
import Dataflow.Wire.Field

/-!
# Operators in Json

An operator is one flat object: its name, the tag of its kind, and the fields of that kind. All of
the object is looked at, so that nothing in it may nest too deeply or hold a number beyond the
doubles.
-/

namespace Dataflow

/-- A list of texts in Json. -/
def textsToJson (texts : List String) : Json :=
  .array (texts.map .string)

/-- Reads a list of texts. -/
def texts? (room : Nat) (j : Json) : Option (List String) :=
  Json.items? (fun _ j => j.string?) room j

/-- The fields of a kind, behind the tag. -/
def OperatorKind.fields : OperatorKind → List (String × Json)
  | .scanSource table => [("table", .string table)]
  | .keywordSource table query columns matching result =>
    [("table", .string table), ("query", .string query), ("attributes", textsToJson columns),
      ("matching", .string matching.tag), ("result_attribute", .string result)]
  | .keywordMatcher query columns matching result =>
    [("query", .string query), ("attributes", textsToJson columns),
      ("matching", .string matching.tag), ("result_attribute", .string result)]
  | .patternMatcher pattern columns result =>
    [("pattern", .string pattern), ("attributes", textsToJson columns),
      ("result_attribute", .string result)]
  | .fuzzyMatcher query columns threshold result =>
    [("query", .string query), ("attributes", textsToJson columns),
      ("threshold", .binary64 threshold), ("result_attribute", .string result)]
  | .entityMatcher entity columns result =>
    [("entity_type", .string entity.tag), ("attributes", textsToJson columns),
      ("result_attribute", .string result)]
  | .projection columns => [("attributes", textsToJson columns)]
  | .typeCasting column target => [("attribute", .string column), ("result_type", target.toJson)]
  | .userFunction f =>
    [("udf_type", .string f.role.tag), ("script", .optional .string f.script),
      ("input_columns", textsToJson f.inputs),
      ("output_columns", .array (f.outputs.map Attribute.toJson)),
      ("batch_size", .nat f.batchSize), ("workers", .optional .nat f.workers)]
  | .join innerColumn outerColumn threshold =>
    [("inner_attribute", .string innerColumn), ("outer_attribute", .string outerColumn),
      ("threshold", .nat threshold)]
  | .wordCountPartial column => [("attribute", .string column)]
  | .wordCloud limit => [("top_n", .nat limit)]
  | .tupleSink => []

/-- An operator in Json. -/
def Operator.toJson (operator : Operator) : Json :=
  .object (("id", .string operator.id) :: ("kind", .string operator.kind.tag) ::
    operator.kind.fields)

namespace OperatorKind

/-- The number of tuples a user function takes at a time when nothing is said. -/
def standardBatch : Nat := 100

/-- Reads a user function from the members of an object. -/
def functionOfMembers? (room : Nat) (members : List (String × Json)) : Option UserFunction := do
  let field := Json.member? members
  let role ← Json.required? (Json.named? FunctionRole.all FunctionRole.tag true room)
    (← field "udf_type")
  let script ← Json.default? none (Json.nullable? Json.string?) (← field "script")
  let inputs ← Json.default? [] (texts? room) (← field "input_columns")
  let outputs ← Json.default? [] (Json.items? (Attribute.ofJson? true) room)
    (← field "output_columns")
  let batch ← Json.default? standardBatch Json.word? (← field "batch_size")
  let workers ← Json.default? none (Json.nullable? Json.word?) (← field "workers")
  return ⟨role, script, inputs, outputs, batch, workers⟩

/-- Reads a kind of a given tag from the members of an object. -/
def ofMembers? (room : Nat) (tag : String) (members : List (String × Json)) :
    Option OperatorKind := do
  let text (name : String) : Option String := do
    Json.required? Json.string? (← Json.member? members name)
  let texts (name : String) : Option (List String) := do
    Json.required? (texts? room) (← Json.member? members name)
  let number (name : String) : Option Nat := do
    Json.required? Json.word? (← Json.member? members name)
  let matching : Option Matching := do
    Json.default? .conjunction (Json.named? Matching.all Matching.tag true room)
      (← Json.member? members "matching")
  match tag with
  | "ScanSource" => return .scanSource (← text "table")
  | "KeywordSource" =>
    return .keywordSource (← text "table") (← text "query") (← texts "attributes") (← matching)
      (← text "result_attribute")
  | "KeywordMatcher" =>
    return .keywordMatcher (← text "query") (← texts "attributes") (← matching)
      (← text "result_attribute")
  | "RegexMatcher" =>
    return .patternMatcher (← text "pattern") (← texts "attributes") (← text "result_attribute")
  | "FuzzyTokenMatcher" =>
    let threshold ← Json.required? Json.binary64? (← Json.member? members "threshold")
    return .fuzzyMatcher (← text "query") (← texts "attributes") threshold
      (← text "result_attribute")
  | "NlpEntity" =>
    let entity ← Json.required? (Json.named? EntityType.all EntityType.tag true room)
      (← Json.member? members "entity_type")
    return .entityMatcher entity (← texts "attributes") (← text "result_attribute")
  | "Projection" => return .projection (← texts "attributes")
  | "TypeCasting" =>
    let target ← Json.required? (AttributeType.ofJson? true room)
      (← Json.member? members "result_type")
    return .typeCasting (← text "attribute") target
  | "PythonUdf" => return .userFunction (← functionOfMembers? room members)
  | "Join" =>
    return .join (← text "inner_attribute") (← text "outer_attribute") (← number "threshold")
  | "WordCountPartial" => return .wordCountPartial (← text "attribute")
  | "WordCloud" => return .wordCloud (← number "top_n")
  | "TupleSink" => return .tupleSink
  | _ => none

end OperatorKind

/-- The tag of a kind, written as a text or as its place among all tags. -/
def operatorTag? : Json → Option String
  | .string tag => some tag
  | .number n => n.toNat?.bind (OperatorKind.tags[·]?)
  | _ => none

/-- Reads an operator. -/
def Operator.ofJson? : Decoder Operator
  | room + 1, .object members =>
    if Json.membersAreSound room members then do
      let id ← Json.required? Json.string? (← Json.member? members "id")
      let tag ← Json.required? operatorTag? (← Json.member? members "kind")
      return ⟨id, ← OperatorKind.ofMembers? room tag members⟩
    else none
  | _, _ => none

end Dataflow
