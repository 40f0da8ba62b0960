import Dataflow.Binary64.Basic

/-!
# Reading doubles

Two readers of decimal text. The exact one rounds the decimal once, and knows the names of the
infinities and of not-a-number. The scaled one keeps the leading digits that fit a machine word and
scales them by a power of ten in double arithmetic, so that a long numeral may come out a step
beside the nearest double.
-/

namespace Dataflow

namespace Binary64

/-- The number that a list of decimal digits writes. -/
def digitsValue (digits : List Char) : Nat :=
  digits.foldl (fun n c => 10 * n + (c.toNat - 48)) 0

/-- The double nearest to `± digits * 10 ^ exponent`. Decimals far outside the range of doubles
are settled by their size alone. -/
def ofDecimal (negative : Bool) (digits : Nat) (exponent : Int) : Binary64 :=
  if digits = 0 then zero negative
  else
    let size : Int := (Nat.toDigits 10 digits).length + exponent
    if 310 < size then infinity negative
    else if size < -400 then zero negative
    else ofRatio negative (digits * Nat.pow 10 exponent.toNat) (Nat.pow 10 (-exponent).toNat)

/-- A sign in front, taken off. -/
def splitSign : List Char → Bool × List Char
  | '-' :: rest => (true, rest)
  | '+' :: rest => (false, rest)
  | rest => (false, rest)

/-- The exponent that an exponent part writes: nothing, or a mark with a signed integer. -/
def exponentPart : List Char → Option Int
  | [] => some 0
  | mark :: rest =>
    if mark = 'e' ∨ mark = 'E' then
      let (negative, digits) := splitSign rest
      if digits.isEmpty || !digits.all Char.isDigit then none
      else some (if negative then -(digitsValue digits : Int) else digitsValue digits)
    else none

/-- The double that an unsigned numeral writes. -/
def ofNumeral? (negative : Bool) (cs : List Char) : Option Binary64 :=
  let whole := cs.takeWhile Char.isDigit
  let rest := cs.dropWhile Char.isDigit
  let (frac, rest) := match rest with
    | '.' :: more => (more.takeWhile Char.isDigit, more.dropWhile Char.isDigit)
    | other => ([], other)
  if whole.isEmpty && frac.isEmpty then none
  else (exponentPart rest).map fun e =>
    ofDecimal negative (digitsValue (whole ++ frac)) (e - frac.length)

/-- The double that a text writes: an optional sign, then a numeral or the name of a special value
in letters of either case. -/
def ofText? (s : String) : Option Binary64 :=
  let (negative, rest) := splitSign s.toList
  let name := rest.map Char.toLower
  if name = "inf".toList ∨ name = "infinity".toList then some (infinity negative)
  else if name = "nan".toList then some (nan negative)
  else ofNumeral? negative rest

/-- The greatest number of a machine word. -/
def wordMax : Nat := Nat.pow 2 64 - 1

/-- The longest run of leading digits whose number fits a machine word: its number, and the digits
that are left. -/
def leadingWord (acc : Nat) : List Char → Nat × List Char
  | [] => (acc, [])
  | c :: rest =>
    let next := 10 * acc + (c.toNat - 48)
    if wordMax < next then (acc, c :: rest) else leadingWord next rest

/-- The double nearest to a power of ten that doubles reach. -/
def powerOfTen (k : Nat) : Binary64 :=
  ofRatio false (Nat.pow 10 k) 1

/-- A double scaled by a power of ten, by one product or by quotients of at most `10 ^ 308`; none
beyond the greatest double. -/
def scaleByTen : (steps : Nat) → Binary64 → Int → Option Binary64
  | 0, x, _ => some x
  | steps + 1, x, e =>
    if e.natAbs ≤ 308 then
      if 0 ≤ e then
        let y := x.mul (powerOfTen e.toNat)
        if y.isInfinite then none else some y
      else some (x.div (powerOfTen e.natAbs))
    else if x.isZero then some x
    else if 0 ≤ e then none
    else scaleByTen steps (x.div (powerOfTen 308)) (e + 308)

/-- The double of a numeral with the given sign, whole digits, fraction digits and exponent; none
beyond the greatest double. Past the digits that fit a machine word, whole digits only count
as powers of ten and fraction digits are passed over. -/
def ofParts? (negative : Bool) (whole frac : List Char) (exponent : Int) : Option Binary64 :=
  let (n, restWhole) := leadingWord 0 whole
  let (m, restFrac) := leadingWord n frac
  let scale : Int := exponent + restWhole.length - (frac.length - restFrac.length : Nat)
  let sized : Option Binary64 :=
    if m = 0 then some (zero false)
    else scaleByTen 8 (ofNat m) (max scale (-2000))
  sized.map fun x => if negative then x.neg else x

end Binary64

end Dataflow
