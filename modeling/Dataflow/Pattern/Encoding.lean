import Dataflow.Pattern.CharSet

/-!
# Sets of characters as ranges of bytes

The UTF-8 forms of the characters of a set, as lists of ranges: a list of ranges stands for all
byte sequences with the first byte in the first range, the second byte in the second, and so on. A
range of code points is cut into parts whose forms are one list each.
-/

namespace Dataflow

/-- The bytes from one to another. -/
structure ByteRange where
  first : UInt8
  last : UInt8
  deriving DecidableEq, Repr, Inhabited

/-- A range of code points without those that are no characters. -/
def characterRanges (first last : Nat) : List (Nat × Nat) :=
  [(first, min last 0xd7ff), (max first 0xe000, last)].filter fun (a, b) => a ≤ b

/-- Where a range of code points is cut, because its forms are not one list of ranges: they have
several lengths, or their last bytes do not run through all values while those before them
change. -/
def cut? (first last : Nat) : Option Nat :=
  let longer (limit : Nat) : Option Nat :=
    if first < limit && limit ≤ last then some limit else none
  let block (size : Nat) : Option Nat :=
    if first / size = last / size then none
    else if first % size ≠ 0 then some ((first / size + 1) * size)
    else if (last + 1) % size ≠ 0 then some (last / size * size)
    else none
  longer 0x80 <|> longer 0x800 <|> longer 0x10000 <|>
    if last < 0x80 then none else block 0x40 <|> block 0x1000 <|> block 0x40000

/-- The UTF-8 form of a code point. -/
def codeBytes (code : Nat) : List UInt8 :=
  String.utf8EncodeChar (Char.ofNat code)

/-- The forms of the characters of a range, in ascending order. -/
def rangeForms (first last : Nat) : List (List ByteRange) :=
  match cut? first last with
  | some middle =>
    if _h : first < middle ∧ middle ≤ last then
      rangeForms first (middle - 1) ++ rangeForms middle last
    else []
  | none => [(codeBytes first).zipWith (⟨·, ·⟩) (codeBytes last)]
termination_by last - first

/-- The forms of the characters of a set, in ascending order. -/
def CharSet.forms (s : CharSet) : List (List ByteRange) :=
  s.ranges.flatMap fun (first, last) =>
    (characterRanges first last).flatMap fun (a, b) => rangeForms a b

/-- Whether all characters of a set are at most U+007F. -/
def CharSet.isAscii (s : CharSet) : Bool :=
  s.ranges.all fun (_, last) => last < 0x80

end Dataflow
