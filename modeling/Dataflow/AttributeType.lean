/-!
# Types of attributes

Every attribute of a schema has one of eight types. Matchers read the two textual ones.
-/

namespace Dataflow

/-- The type of an attribute. -/
inductive AttributeType where
  | string
  | text
  | integer
  | long
  | double
  | boolean
  | timestamp
  | list
  deriving DecidableEq, Repr, Inhabited

namespace AttributeType

/-- All types, in the order of their declaration. -/
def all : List AttributeType :=
  [.string, .text, .integer, .long, .double, .boolean, .timestamp, .list]

/-- The name of a type. -/
def name : AttributeType → String
  | .string => "STRING"
  | .text => "TEXT"
  | .integer => "INTEGER"
  | .long => "LONG"
  | .double => "DOUBLE"
  | .boolean => "BOOLEAN"
  | .timestamp => "TIMESTAMP"
  | .list => "LIST"

/-- The type that a name stands for. -/
def ofName? (s : String) : Option AttributeType :=
  all.find? (·.name == s)

/-- A name stands for the type it names. -/
theorem ofName?_name (t : AttributeType) : ofName? t.name = some t := by
  cases t <;> decide

/-- Whether matchers can read an attribute of the type. -/
def isTextual : AttributeType → Bool
  | .string | .text => true
  | _ => false

/-- Whether a value can be cast to the type. -/
def isCastTarget : AttributeType → Bool
  | .string | .integer | .long | .double | .boolean => true
  | .text | .timestamp | .list => false

end AttributeType

end Dataflow
