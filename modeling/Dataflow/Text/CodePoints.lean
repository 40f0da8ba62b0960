/-!
# Sets of code points

A set of code points is written as the ascending list of the places where membership changes:
code points below the first place are outside, those from the first up to the second are inside,
and so on in turn. The tables of character properties have this form.
-/

namespace Dataflow

/-- A set of code points, given by the places where membership changes. -/
structure CodePoints where
  /-- The places, ascending: membership is off below the first and flips at each one. -/
  changes : List Nat

/-- Membership of a code point: the number of places at or below it is odd. -/
def CodePoints.flips : List Nat → Nat → Bool
  | [], _ => false
  | place :: places, code => if code < place then false else !flips places code

/-- Whether a character belongs to the set. -/
def CodePoints.contains (s : CodePoints) (c : Char) : Bool :=
  CodePoints.flips s.changes c.toNat

/-- A code point below the first place is outside. -/
theorem CodePoints.flips_of_lt {place code : Nat} (places : List Nat) (h : code < place) :
    CodePoints.flips (place :: places) code = false := by
  simp [CodePoints.flips, h]

/-- Passing a place turns membership over. -/
theorem CodePoints.flips_of_le {place code : Nat} (places : List Nat) (h : place ≤ code) :
    CodePoints.flips (place :: places) code = !CodePoints.flips places code := by
  simp [CodePoints.flips, Nat.not_lt.2 h]

end Dataflow
