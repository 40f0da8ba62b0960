import Dataflow.Field
import Dataflow.Schema

/-!
# Tuples

A tuple is a row bound to a schema: as many fields as attributes, each of the type of its
attribute or absent.
-/

namespace Dataflow

/-- Whether fields fit the attributes they stand for, one by one. -/
def fieldsFit : List Attribute → List Field → Bool
  | [], [] => true
  | column :: attributes, field :: fields =>
    field.fits column.type && fieldsFit attributes fields
  | _, _ => false

/-- A row bound to a schema. -/
structure Tuple where
  schema : Schema
  fields : List Field
  fitting : fieldsFit schema.attributes fields = true
  deriving DecidableEq

namespace Tuple

/-- The first attribute whose value has another type, with that type. -/
def misfit? : List Attribute → List Field → Option (Attribute × AttributeType)
  | column :: attributes, field :: fields =>
    match field.type? with
    | some own => if own = column.type then misfit? attributes fields else some (column, own)
    | none => misfit? attributes fields
  | _, _ => none

/-- Why fields cannot be bound to a schema. -/
def bindError (schema : Schema) (fields : List Field) : Error :=
  if fields.length ≠ schema.size then .run (.fieldCount fields.length schema.size)
  else match misfit? schema.attributes fields with
    | some (column, own) => .fieldType column.name column.type.name own.name
    | none => .run (.fieldCount fields.length schema.size)

/-- Fields bound to a schema. -/
def bind (schema : Schema) (fields : List Field) : Result Tuple :=
  if h : fieldsFit schema.attributes fields = true then .ok ⟨schema, fields, h⟩
  else .error (bindError schema fields)

/-- The value of an attribute. -/
def field (t : Tuple) (name : String) : Result Field :=
  match (t.schema.indexOf? name).bind (t.fields[·]?) with
  | some value => .ok value
  | none => .error (.run (.noAttribute name))

/-- A value read as one type, or the error that names both types. -/
def fieldAs {α : Type} (expected : String) (read : Field → Option α) (t : Tuple) (name : String) :
    Result α := do
  let value ← t.field name
  match read value with
  | some a => .ok a
  | none => .error (.fieldType name expected value.typeName)

/-- The text of an attribute. -/
def getText (t : Tuple) (name : String) : Result String :=
  fieldAs "STRING or TEXT" Field.text? t name

/-- The 32-bit integer of an attribute. -/
def getInteger (t : Tuple) (name : String) : Result Int32 :=
  fieldAs "INTEGER" (fun | .integer n => some n | _ => none) t name

/-- The integer of an attribute of either width. -/
def getLong (t : Tuple) (name : String) : Result Int64 :=
  fieldAs "LONG" (fun | .long n => some n | .integer n => some n.toInt64 | _ => none) t name

/-- The double of an attribute. -/
def getDouble (t : Tuple) (name : String) : Result Binary64 :=
  fieldAs "DOUBLE" (fun | .double x => some x | _ => none) t name

/-- The truth value of an attribute. -/
def getBoolean (t : Tuple) (name : String) : Result Bool :=
  fieldAs "BOOLEAN" (fun | .boolean b => some b | _ => none) t name

/-- The spans of an attribute. -/
def getSpans (t : Tuple) (name : String) : Result (List Span) :=
  fieldAs "LIST" (fun | .list spans => some spans | _ => none) t name

/-- The text of an attribute, if it has a value. -/
def getText? (t : Tuple) (name : String) : Result (Option String) := do
  match ← t.field name with
  | .null => return none
  | _ => return some (← t.getText name)

/-- A tuple with one more field, bound to another schema. -/
def append (t : Tuple) (schema : Schema) (field : Field) : Result Tuple :=
  bind schema (t.fields ++ [field])

/-- A tuple as it is shown. -/
def display (t : Tuple) : String :=
  let parts := (t.schema.attributes.zip t.fields).map fun (column, field) =>
    column.name ++ "=" ++ field.display
  "(" ++ ", ".intercalate parts ++ ")"

end Tuple

end Dataflow
