import Dataflow.Binary64.Reading
import Dataflow.Binary64.Shortest

/-!
# Numerals

A number as a text writes it: sign, whole digits, digits after the point, and exponent. A numeral
keeps what was written, so that whether a number is an integer can be told from its form, and
reading it as an integer or as a double is a separate step.
-/

namespace Dataflow

/-- A written number. -/
structure Numeral where
  negative : Bool
  whole : List Char
  /-- The digits after the point; none when there is no point. -/
  fraction : List Char
  /-- The exponent part: whether it is negative, and its digits. -/
  exponent : Option (Bool × List Char)
  deriving DecidableEq, Repr

namespace Numeral

/-- The characters of the exponent part. -/
def exponentChars : Option (Bool × List Char) → List Char
  | none => []
  | some (negative, digits) => 'e' :: (if negative then '-' else '+') :: digits

/-- The characters of a numeral. -/
def chars (n : Numeral) : List Char :=
  (if n.negative then ['-'] else []) ++ n.whole ++
    (if n.fraction.isEmpty then [] else '.' :: n.fraction) ++ exponentChars n.exponent

/-- The numeral of a natural number. -/
def ofNat (n : Nat) : Numeral :=
  ⟨false, Nat.toDigits 10 n, [], none⟩

/-- The numeral of an integer. -/
def ofInt (n : Int) : Numeral :=
  ⟨decide (n < 0), Nat.toDigits 10 n.natAbs, [], none⟩

/-- A decimal with one digit before the point, the others after it, and an exponent. -/
def scientific (negative : Bool) (d : Decimal) : Numeral :=
  let digits := Nat.toDigits 10 d.digits
  let power : Int := digits.length + d.exponent - 1
  ⟨negative, digits.take 1, digits.drop 1,
    some (decide (power < 0), Nat.toDigits 10 power.natAbs)⟩

/-- A decimal with all its places, and at least one after the point. -/
def positional (negative : Bool) (d : Decimal) : Numeral :=
  let (whole, frac) := Binary64.splitAtPoint d
  ⟨negative, whole, if frac.isEmpty then ['0'] else frac, none⟩

/-- The numeral of a finite double: its shortest decimal, never of integer form; positional from
`1e-5` up to below `1e16`, with an exponent outside. -/
def ofBinary64 (x : Binary64) : Numeral :=
  if x.isZero then ⟨x.negative, ['0'], ['0'], none⟩
  else
    let d := x.shortest .even
    let point : Int := (Nat.toDigits 10 d.digits).length + d.exponent
    if -5 < point ∧ point ≤ 16 then positional x.negative d else scientific x.negative d

/-- Whether a numeral has the form of an integer. -/
def isInteger (n : Numeral) : Bool :=
  n.fraction.isEmpty && n.exponent.isNone

/-- The natural number of a numeral of integer form without a sign. -/
def toNat? (n : Numeral) : Option Nat :=
  if n.isInteger && !n.negative then some (Binary64.digitsValue n.whole) else none

/-- The integer of a numeral of integer form; a negative zero is no integer. -/
def toInt? (n : Numeral) : Option Int :=
  let size := Binary64.digitsValue n.whole
  if !n.isInteger then none
  else if n.negative then if size = 0 then none else some (-(size : Int))
  else some size

/-- The double of a numeral, unless it is beyond the greatest double. -/
def toBinary64? (n : Numeral) : Option Binary64 :=
  let exponent : Int := match n.exponent with
    | none => 0
    | some (negative, digits) =>
      if negative then -(Binary64.digitsValue digits : Int) else Binary64.digitsValue digits
  Binary64.ofParts? n.negative n.whole n.fraction exponent

end Numeral

end Dataflow
