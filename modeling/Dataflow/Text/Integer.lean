/-!
# Integers in text

Integers are written in decimal, with one optional sign and at least one digit. Reading says what
range the integer has to lie in.
-/

namespace Dataflow

/-- The natural number that a nonempty list of decimal digits writes. -/
def naturalOfDigits? (digits : List Char) : Option Nat :=
  if digits.isEmpty || !digits.all Char.isDigit then none
  else some (digits.foldl (fun n c => 10 * n + (c.toNat - 48)) 0)

/-- A value kept when it lies between two bounds. -/
def boundedInteger? (low high : Int) (n : Int) : Option Int :=
  if low ≤ n ∧ n ≤ high then some n else none

/-- The integer between two bounds that a text writes. -/
def integerOfText? (low high : Int) (s : String) : Option Int :=
  let signed : Option Int := match s.toList with
    | '-' :: digits => (naturalOfDigits? digits).map fun n => -(n : Int)
    | '+' :: digits => (naturalOfDigits? digits).map fun n => (n : Int)
    | digits => (naturalOfDigits? digits).map fun n => (n : Int)
  signed.bind (boundedInteger? low high)

/-- The natural number up to a bound that a text writes; only a plus sign may stand in front. -/
def naturalOfText? (high : Nat) (s : String) : Option Nat :=
  let digits := match s.toList with
    | '+' :: digits => digits
    | digits => digits
  (naturalOfDigits? digits).filter (· ≤ high)

/-- The least 32-bit integer. -/
def int32Min : Int := -2147483648
/-- The greatest 32-bit integer. -/
def int32Max : Int := 2147483647
/-- The least 64-bit integer. -/
def int64Min : Int := -9223372036854775808
/-- The greatest 64-bit integer. -/
def int64Max : Int := 9223372036854775807
/-- The greatest unsigned 32-bit number. -/
def word32Max : Nat := 4294967295

/-- The greatest natural number of a 64-bit word. -/
def word64Max : Nat := 18446744073709551615

end Dataflow
