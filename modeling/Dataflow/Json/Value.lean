import Dataflow.Json.Numeral

/-!
# Json values

Json values, and their compact text. The members of an object keep their order and may repeat a
key, so that a reader of an object can tell which keys were written.

A text with half of a surrogate pair stands for no characters. It may still be written where nobody
looks at it, so it is a value of its own.
-/

namespace Dataflow

/-- A Json value. -/
inductive Json where
  | null
  | bool (b : Bool)
  | number (n : Numeral)
  | string (s : String)
  | array (items : List Json)
  | object (members : List (String × Json))
  /-- A text with half of a surrogate pair, or an object with such a key. -/
  | broken
  deriving Inhabited

namespace Json

/-- A number that is a natural number. -/
def nat (n : Nat) : Json :=
  .number (.ofNat n)

/-- A number that is an integer. -/
def int (n : Int) : Json :=
  .number (.ofInt n)

/-- A number that is a double; infinities and not-a-number have no numeral. -/
def binary64 (x : Binary64) : Json :=
  if x.isFinite then .number (.ofBinary64 x) else .null

/-- A value that may be absent. -/
def optional {α : Type} (f : α → Json) : Option α → Json
  | none => .null
  | some a => f a

/-- The two hexadecimal digits of a code below 256. -/
def hexPair (code : Nat) : List Char :=
  [Nat.digitChar (code / 16), Nat.digitChar (code % 16)]

/-- A character as it is written inside a text. -/
def escapedChar (c : Char) : List Char :=
  if c = '\x22' then ['\x5c', '\x22']
  else if c = '\x5c' then ['\x5c', '\x5c']
  else if 0x20 ≤ c.toNat then [c]
  else if c = '\x08' then ['\x5c', 'b']
  else if c = '\x09' then ['\x5c', 't']
  else if c = '\x0a' then ['\x5c', 'n']
  else if c = '\x0c' then ['\x5c', 'f']
  else if c = '\x0d' then ['\x5c', 'r']
  else '\x5c' :: 'u' :: '0' :: '0' :: hexPair c.toNat

/-- The characters of a text between double quotes. -/
def stringChars (s : String) : List Char :=
  '\x22' :: (s.toList.flatMap escapedChar ++ ['\x22'])

mutual

/-- The characters of a value, without any blank. A broken value is left out. -/
def chars : Json → List Char
  | .null | .broken => ['n', 'u', 'l', 'l']
  | .bool true => ['t', 'r', 'u', 'e']
  | .bool false => ['f', 'a', 'l', 's', 'e']
  | .number n => n.chars
  | .string s => stringChars s
  | .array items => '[' :: (itemChars items ++ [']'])
  | .object members => '\x7b' :: (memberChars members ++ ['\x7d'])

/-- The characters of the items of an array. -/
def itemChars : List Json → List Char
  | [] => []
  | [item] => chars item
  | item :: items => chars item ++ ',' :: itemChars items

/-- The characters of the members of an object. -/
def memberChars : List (String × Json) → List Char
  | [] => []
  | [(key, value)] => stringChars key ++ ':' :: chars value
  | (key, value) :: members =>
    stringChars key ++ ':' :: (chars value ++ ',' :: memberChars members)

end

/-- The text of a value, without any blank. -/
def text (j : Json) : String :=
  String.ofList j.chars

end Json

end Dataflow
