import Dataflow.Config
import Dataflow.Field
import Dataflow.Json.Decoder
import Dataflow.Json.Reader
import Dataflow.Schema
import Dataflow.Text.Integer

/-!
# Fields, attributes and settings in Json

The Json forms of single values, spans, attributes, schemas and settings. A value is an object
with the name of its type, or the text `"Null"`.
-/

namespace Dataflow

namespace AttributeType

/-- A type in Json is its name. -/
def toJson (type : AttributeType) : Json :=
  .string type.name

/-- Reads a type. -/
def ofJson? (emptyObject : Bool) : Decoder AttributeType :=
  Json.named? all name emptyObject

end AttributeType

namespace Attribute

/-- An attribute in Json. -/
def toJson (a : Attribute) : Json :=
  .object [("name", .string a.name), ("type", a.type.toJson)]

/-- Reads an attribute. -/
def ofJson? (emptyObject : Bool) : Decoder Attribute := fun room j =>
  match Json.record? ["name", "type"] room j with
  | some [name, type] => do
    let name ← Json.required? Json.string? name
    let type ← Json.required? (AttributeType.ofJson? emptyObject (room - 1)) type
    return ⟨name, type⟩
  | _ => none

end Attribute

/-- A schema in Json. -/
def Schema.toJson (s : Schema) : Json :=
  .object [("attributes", .array (s.attributes.map Attribute.toJson))]

namespace Span

/-- A span in Json. -/
def toJson (s : Span) : Json :=
  .object [("attribute", .string s.column), ("start", .nat s.start), ("end", .nat s.stop),
    ("key", .string s.key), ("value", .string s.value)]

/-- Reads a span. -/
def ofJson? : Decoder Span := fun room j =>
  match Json.record? ["attribute", "start", "end", "key", "value"] room j with
  | some [column, start, stop, key, value] => do
    let column ← Json.required? Json.string? column
    let start ← Json.required? Json.word? start
    let stop ← Json.required? Json.word? stop
    let key ← Json.required? Json.string? key
    let value ← Json.required? Json.string? value
    return ⟨column, start, stop, key, value⟩
  | _ => none

end Span

namespace Field

/-- A value in Json. -/
def toJson : Field → Json
  | .string s => .object [("String", .string s)]
  | .text s => .object [("Text", .string s)]
  | .integer n => .object [("Integer", .int n.toInt)]
  | .long n => .object [("Long", .int n.toInt)]
  | .double x => .object [("Double", .binary64 x)]
  | .boolean b => .object [("Boolean", .bool b)]
  | .timestamp n => .object [("Timestamp", .int n.toInt)]
  | .list spans => .object [("List", .array (spans.map Span.toJson))]
  | .null => .string "Null"

/-- A 64-bit integer. -/
def int64? (j : Json) : Option Int64 :=
  (Json.int? int64Min int64Max j).map Int64.ofInt

/-- Reads what stands under the name of a type. -/
def ofTagged? (room : Nat) (tag : String) (value : Json) : Option Field :=
  match tag with
  | "String" => value.string?.map .string
  | "Text" => value.string?.map .text
  | "Integer" => (Json.int? int32Min int32Max value).map fun n => .integer (.ofInt n)
  | "Long" => (int64? value).map .long
  | "Double" => value.binary64?.map .double
  | "Boolean" => value.bool?.map .boolean
  | "Timestamp" => (int64? value).map .timestamp
  | "List" => (Json.items? Span.ofJson? room value).map .list
  | "Null" => if value matches .null then some .null else none
  | _ => none

/-- Reads a value. -/
def ofJson? : Decoder Field
  | _, .string "Null" => some .null
  | room + 1, .object [(tag, value)] => ofTagged? room tag value
  | _, _ => none

end Field

namespace Config

/-- The settings in Json. -/
def toJson (c : Config) : Json :=
  .object [("update_interval_ms", .nat c.updateInterval), ("partial_batch_size", .nat c.batchSize),
    ("default_workers", .nat c.workers), ("connector_buffer_warn_rows", .nat c.bufferWarning)]

/-- Reads settings; what is not written has its default. -/
def ofJson? : Decoder Config := fun room j =>
  let names := ["update_interval_ms", "partial_batch_size", "default_workers",
    "connector_buffer_warn_rows"]
  let standard : Config := {}
  match Json.record? names room j with
  | some [interval, batch, workers, warning] => do
    let interval ← Json.default? standard.updateInterval Json.word? interval
    let batch ← Json.default? standard.batchSize Json.word? batch
    let workers ← Json.default? standard.workers Json.word? workers
    let warning ← Json.default? standard.bufferWarning Json.word? warning
    return ⟨interval, batch, workers, warning⟩
  | _ => none

end Config

/-- The value that a text holds, within the limit on nesting. -/
def decodeText? {α : Type} (read : Decoder α) (text : String) : Option α :=
  (Json.ofText? text).bind (read nestingLimit)

end Dataflow
