import Dataflow.Binary64.Reading
import Dataflow.Error
import Dataflow.Field
import Dataflow.Text.Blank
import Dataflow.Text.Integer

/-!
# Casts between types

A value is cast to a string, to an integer of either width, to a double or to a truth value. A
value that has no counterpart of the new type makes the cast fail; the absence of a value is kept.
-/

namespace Dataflow

namespace Field

/-- The integer part of a double that lies between two bounds. -/
def wholePart? (x low high : Binary64) (highIncluded : Bool) : Option Int :=
  let below := if highIncluded then x.le high else x.lt high
  if x.isFinite && low.le x && below then some x.truncate else none

/-- A value as a 32-bit integer. -/
def toInteger? : Field → Option Int32
  | .integer n => some n
  | .long n | .timestamp n => (boundedInteger? int32Min int32Max n.toInt).map .ofInt
  | .double x => (wholePart? x (.ofInt int32Min) (.ofInt int32Max) true).map .ofInt
  | .boolean b => some (if b then 1 else 0)
  | .string s | .text s => (integerOfText? int32Min int32Max (trimBlanks s)).map .ofInt
  | .list _ | .null => none

/-- A value as a 64-bit integer. The upper bound of doubles is 2 to the power of 63, which is
above every such integer. -/
def toLong? : Field → Option Int64
  | .integer n => some n.toInt64
  | .long n | .timestamp n => some n
  | .double x => (wholePart? x (.ofInt int64Min) (.ofInt (-int64Min)) false).map .ofInt
  | .boolean b => some (if b then 1 else 0)
  | .string s | .text s => (integerOfText? int64Min int64Max (trimBlanks s)).map .ofInt
  | .list _ | .null => none

/-- A value as a double. -/
def toDouble? : Field → Option Binary64
  | .integer n => some (.ofInt n.toInt)
  | .long n | .timestamp n => some (.ofInt n.toInt)
  | .double x => some x
  | .boolean b => some (.ofNat (if b then 1 else 0))
  | .string s | .text s => Binary64.ofText? (trimBlanks s)
  | .list _ | .null => none

/-- A value as a truth value. -/
def toBoolean? : Field → Option Bool
  | .boolean b => some b
  | .integer n => some (n != 0)
  | .long n | .timestamp n => some (n != 0)
  | .double x => some (!x.isZero)
  | .string s | .text s =>
    match String.ofList ((trimBlanks s).toList.map Char.toLower) with
    | "true" | "1" => some true
    | "false" | "0" => some false
    | _ => none
  | .list _ | .null => none

/-- A value of another type, if there is a counterpart. -/
def convert? (target : AttributeType) (value : Field) : Option Field :=
  match target with
  | .string => match value with
    | .list _ => none
    | value => some (.string value.display)
  | .integer => value.toInteger?.map .integer
  | .long => value.toLong?.map .long
  | .double => value.toDouble?.map .double
  | .boolean => value.toBoolean?.map .boolean
  | .text | .timestamp | .list => none

/-- The value of an attribute cast to a type. -/
def cast (column : String) (target : AttributeType) (value : Field) : Result Field :=
  if value = .null then .ok .null
  else match value.convert? target with
    | some value => .ok value
    | none => .error (.fieldType column target.name value.display)

/-- The absence of a value is kept. -/
@[simp] theorem cast_null (column : String) (target : AttributeType) :
    cast column target .null = .ok .null := by
  simp [cast]

end Field

end Dataflow
