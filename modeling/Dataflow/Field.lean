import Dataflow.AttributeType
import Dataflow.Binary64.Shortest

/-!
# Fields

A field is one value of a tuple. Two fields are equal when their types and values are the same,
doubles being compared by their bits, so that tuples can be compared and collected.
-/

namespace Dataflow

/-- A match in the text of an attribute. -/
structure Span where
  column : String
  start : Nat
  stop : Nat
  key : String
  value : String
  deriving DecidableEq, Repr, Inhabited

/-- One value. -/
inductive Field where
  | string (s : String)
  | text (s : String)
  | integer (n : Int32)
  | long (n : Int64)
  | double (x : Binary64)
  | boolean (b : Bool)
  | timestamp (n : Int64)
  | list (spans : List Span)
  | null
  deriving DecidableEq, Inhabited

namespace Field

/-- The type of a value. -/
def type? : Field → Option AttributeType
  | .string _ => some .string
  | .text _ => some .text
  | .integer _ => some .integer
  | .long _ => some .long
  | .double _ => some .double
  | .boolean _ => some .boolean
  | .timestamp _ => some .timestamp
  | .list _ => some .list
  | .null => none

/-- The name of the type of a value. -/
def typeName (f : Field) : String :=
  match f.type? with
  | some type => type.name
  | none => "NULL"

/-- The text of a textual value. -/
def text? : Field → Option String
  | .string s | .text s => some s
  | _ => none

/-- A value as it is shown. -/
def display : Field → String
  | .string s | .text s => s
  | .integer n => toString n.toInt
  | .long n | .timestamp n => toString n.toInt
  | .double x => x.toPlain
  | .boolean true => "true"
  | .boolean false => "false"
  | .list spans => s!"[{spans.length} spans]"
  | .null => "null"

/-- Whether a value may stand in an attribute of a type: it has the type, or is absent. -/
def fits (f : Field) (type : AttributeType) : Bool :=
  match f.type? with
  | some own => own == type
  | none => true

end Field

end Dataflow
