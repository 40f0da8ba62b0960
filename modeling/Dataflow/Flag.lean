import Dataflow.Tuple

/-!
# Insertion flags

A progressive operator sends changes: each tuple it emits begins with a flag, true when the rest
of the tuple joins the result and false when it leaves the result.
-/

namespace Dataflow

/-- The name of the flag. -/
def flagName : String :=
  "__internal_is_insertion"

/-- The attribute of the flag. -/
def flagAttribute : Attribute :=
  ⟨flagName, .boolean⟩

/-- A schema behind the flag. -/
def Schema.flagged (s : Schema) : Result Schema :=
  Schema.ofAttributes (flagAttribute :: s.attributes)

namespace Tuple

/-- A tuple behind the flag. -/
def flag (insertion : Bool) (t : Tuple) : Result Tuple := do
  bind (← t.schema.flagged) (.boolean insertion :: t.fields)

/-- Whether the schema of a tuple begins with the flag. -/
def isFlagged (t : Tuple) : Bool :=
  match t.schema.attributes with
  | column :: _ => column.name == flagName
  | [] => false

/-- Whether a flagged tuple joins the result. -/
def isInsertion (t : Tuple) : Result Bool :=
  if t.isFlagged then t.getBoolean flagName else .error (.run (.notFlagged flagName))

/-- A flagged tuple without its flag. -/
def stripFlag (t : Tuple) : Result Tuple := do
  if t.isFlagged then bind (← Schema.ofAttributes (t.schema.attributes.drop 1)) (t.fields.drop 1)
  else .error (.run (.notFlagged flagName))

end Tuple

end Dataflow
