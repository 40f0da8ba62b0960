import Dataflow.Json.Value

/-!
# Decoding Json

A decoder reads a value of the domain from a Json value. It is told how many levels of arrays and
objects it may still enter, and it looks only at what it needs: members of an object that nobody
asks for may hold anything.

A record is written as an object with its fields by name, or as an array of its fields in order.
-/

namespace Dataflow

/-- Reads a value from a Json value within a number of levels. -/
abbrev Decoder (α : Type) :=
  Nat → Json → Option α

/-- The number of levels that a text may nest. -/
def nestingLimit : Nat := 127

namespace Json

/-- A text. -/
def string? : Json → Option String
  | .string s => some s
  | _ => none

/-- A truth value. -/
def bool? : Json → Option Bool
  | .bool b => some b
  | _ => none

/-- A natural number of a machine word. -/
def word? : Json → Option Nat
  | .number n => n.toNat?.filter (· < Nat.pow 2 64)
  | _ => none

/-- An integer between two bounds. -/
def int? (low high : Int) : Json → Option Int
  | .number n => n.toInt?.filter fun i => low ≤ i && i ≤ high
  | _ => none

/-- A double, also from an integer. -/
def binary64? : Json → Option Binary64
  | .number n => n.toBinary64?
  | _ => none

/-- A value that may be `null`. -/
def nullable? {α : Type} (read : Json → Option α) : Json → Option (Option α)
  | .null => some none
  | j => (read j).map some

/-- The items of an array. -/
def items? {α : Type} (read : Decoder α) : Decoder (List α)
  | room + 1, .array items => items.mapM (read room)
  | _, _ => none

/-- The member of a name: none at all if the name occurs twice. -/
def member? (members : List (String × Json)) (name : String) : Option (Option Json) :=
  match members.filter (·.1 == name) with
  | [] => some none
  | [(_, value)] => some (some value)
  | _ => none

/-- The fields of a record, in the order of the given names; a field that is not written is
absent. Names that are not given are passed over. -/
def record? (names : List String) : Decoder (List (Option Json))
  | _ + 1, .object members => names.mapM (member? members)
  | _ + 1, .array items =>
    if items.length ≤ names.length then
      some (items.map some ++ List.replicate (names.length - items.length) none)
    else none
  | _, _ => none

/-- A field that has to be written. -/
def required? {α : Type} (read : Json → Option α) (j : Option Json) : Option α :=
  j.bind read

/-- A field with a value for when it is not written. -/
def default? {α : Type} (unwritten : α) (read : Json → Option α) : Option Json → Option α
  | none => some unwritten
  | some j => read j

/-- The name of a choice without contents: a text, or an object of one member that holds
nothing. Nothing is `null`, and also an empty object where that is allowed. -/
def choice? (emptyObject : Bool) : Decoder String
  | _, .string name => some name
  | _ + 1, .object [(name, .null)] => some name
  | _ + 1, .object [(name, .object [])] => if emptyObject then some name else none
  | _, _ => none

/-- A value of a finite type, by its name. -/
def named? {α : Type} (all : List α) (name : α → String) (emptyObject : Bool) : Decoder α :=
  fun room j => (choice? emptyObject room j).bind fun s => all.find? (name · == s)

mutual

/-- Whether a value keeps within a number of levels, all its numbers are doubles, and nothing in it
is broken. -/
def isSound : (room : Nat) → Json → Bool
  | _, .null | _, .bool _ | _, .string _ => true
  | _, .broken => false
  | _, .number n => n.toBinary64?.isSome
  | 0, .array _ | 0, .object _ => false
  | room + 1, .array items => areSound room items
  | room + 1, .object members => membersAreSound room members

/-- Soundness of all items. -/
def areSound (room : Nat) : List Json → Bool
  | [] => true
  | item :: items => isSound room item && areSound room items

/-- Soundness of all members. -/
def membersAreSound (room : Nat) : List (String × Json) → Bool
  | [] => true
  | (_, value) :: members => isSound room value && membersAreSound room members

end

end Json

end Dataflow
