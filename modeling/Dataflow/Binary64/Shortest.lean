import Dataflow.Binary64.Basic

/-!
# The shortest decimal of a double

A positive finite double stands for all reals that round to it. Among the decimals in that interval
the one with the fewest digits names it, and among those the nearest to the double. The plain
layout writes it with all its places.
-/

namespace Dataflow

/-- A positive decimal `digits * 10 ^ exponent`. -/
structure Decimal where
  digits : Nat
  exponent : Int
  deriving DecidableEq, Repr

/-- Which of two equally near decimals is taken. -/
inductive DecimalTie
  | even
  | up
  deriving DecidableEq, Repr

/-- The same decimal with no zero at the end of its digits. -/
def Decimal.trimZeros : (fuel : Nat) → Decimal → Decimal
  | 0, d => d
  | fuel + 1, d =>
    if d.digits ≠ 0 ∧ d.digits % 10 = 0 then trimZeros fuel ⟨d.digits / 10, d.exponent + 1⟩ else d

namespace Binary64

/-- The greatest `k` with `10 ^ k ≤ num / den`, found below `guess`. -/
def floorLog10From (num den : Nat) : (steps : Nat) → (guess : Int) → Int
  | 0, guess => guess
  | steps + 1, guess =>
    if den * Nat.pow 10 guess.toNat ≤ num * Nat.pow 10 (-guess).toNat then guess
    else floorLog10From num den steps (guess - 1)

/-- The greatest `k` with `10 ^ k ≤ num / den`, for positive `num` and `den`. -/
def floorLog10 (num den : Nat) : Int :=
  let bits : Int := (num.log2 : Int) - den.log2 + 1
  floorLog10From num den 400 (bits * 30103 / 100000 + 1)

/-- The reals that round to a positive finite double, as three numerators over one denominator:
the lower end, the double itself and the upper end. -/
structure Interval where
  low : Nat
  value : Nat
  high : Nat
  den : Nat
  closed : Bool

/-- The interval of a positive finite double: half way to each neighbour. -/
def interval (x : Binary64) : Interval :=
  let up := 4 * Nat.pow 2 x.exponent.toNat
  let m := x.significand
  let gap := if m = Nat.pow 2 52 ∧ 1 < x.exponentField then 1 else 2
  let unit := up / 4
  ⟨(4 * m - gap) * unit, 4 * m * unit, (4 * m + 2) * unit, 4 * Nat.pow 2 (-x.exponent).toNat,
    m % 2 = 0⟩

/-- Whether a decimal lies in the interval. -/
def Interval.holds (i : Interval) (d : Decimal) : Bool :=
  let point := d.digits * Nat.pow 10 d.exponent.toNat * i.den
  let scale := Nat.pow 10 (-d.exponent).toNat
  if i.closed then decide (i.low * scale ≤ point ∧ point ≤ i.high * scale)
  else decide (i.low * scale < point ∧ point < i.high * scale)

/-- The decimal with the given last place that is nearest to the double, when one of the double's
two neighbours on that grid lies in the interval. -/
def Interval.onGrid (i : Interval) (tie : DecimalTie) (place : Int) : Option Decimal :=
  let num := i.value * Nat.pow 10 (-place).toNat
  let den := i.den * Nat.pow 10 place.toNat
  let below : Decimal := ⟨num / den, place⟩
  let above : Decimal := ⟨num / den + 1, place⟩
  let twice := 2 * (num % den)
  let preferAbove :=
    if twice = den then
      match tie with
      | .even => below.digits % 2 == 1
      | .up => true
    else decide (den < twice)
  match i.holds below && below.digits != 0, i.holds above with
  | true, true => some (if preferAbove then above else below)
  | true, false => some below
  | false, true => some above
  | false, false => none

/-- The first grid with a decimal in the interval, from the coarsest on. -/
def Interval.firstGrid (i : Interval) (tie : DecimalTie) : (steps : Nat) → (place : Int) → Decimal
  | 0, place => ⟨0, place⟩
  | steps + 1, place =>
    match i.onGrid tie place with
    | some d => d
    | none => firstGrid i tie steps (place - 1)

/-- The shortest decimal of a positive finite double. -/
def shortest (tie : DecimalTie) (x : Binary64) : Decimal :=
  let i := x.interval
  let top := floorLog10 i.value i.den
  (i.firstGrid tie 18 top).trimZeros 20

/-- The digits of a natural number. -/
def digitChars (n : Nat) : List Char :=
  Nat.toDigits 10 n

/-- The digits of a decimal before and after the point, all places shown. -/
def splitAtPoint (d : Decimal) : List Char × List Char :=
  let digits := digitChars d.digits
  let point : Int := digits.length + d.exponent
  if 0 ≤ d.exponent then (digits ++ List.replicate d.exponent.toNat '0', [])
  else if 0 < point then (digits.take point.toNat, digits.drop point.toNat)
  else (['0'], List.replicate (-point).toNat '0' ++ digits)

/-- A decimal written with all its places. -/
def positional (d : Decimal) : String :=
  match splitAtPoint d with
  | (whole, []) => String.ofList whole
  | (whole, frac) => String.ofList (whole ++ '.' :: frac)

/-- The sign of a double as it is written. -/
def signText (x : Binary64) : String :=
  if x.negative then "-" else ""

/-- The text of a double with all its places, never an exponent. -/
def toPlain (x : Binary64) : String :=
  if x.isNaN then "NaN"
  else if x.isInfinite then x.signText ++ "inf"
  else if x.isZero then x.signText ++ "0"
  else x.signText ++ positional (x.shortest .up)

end Binary64

end Dataflow
