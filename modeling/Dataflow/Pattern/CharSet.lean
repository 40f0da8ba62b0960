import Dataflow.Text.Blank
import Dataflow.Text.CaseFolding
import Dataflow.Text.Classes

/-!
# Sets of characters

The sets of characters that the patterns of `Pattern.engine` describe: single characters, ranges and
named classes, and what is made of them by the operations of sets and by disregarding case. Of the
properties of Unicode only a few are known; the patterns that name another one are no patterns to
this engine.

A set is kept as its ranges of code points, ascending and apart from each other, because the size
of a pattern depends on the ranges. The code points from U+D800 to U+DFFF are no characters, so that
U+D7FF and U+E000 are neighbours.
-/

namespace Dataflow

/-- A set of characters, given by its ranges of code points, both ends included. -/
structure CharSet where
  ranges : List (Nat × Nat)
  deriving DecidableEq, Repr

namespace CharSet

/-- The greatest code point. -/
def lastCode : Nat :=
  0x10ffff

/-- Whether a code point is in one of several ranges, which are ascending. -/
def covers : List (Nat × Nat) → Nat → Bool
  | [], _ => false
  | (first, last) :: rest, code =>
    if code < first then false else code ≤ last || covers rest code

/-- Whether a character is in a set. -/
def contains (s : CharSet) (c : Char) : Bool :=
  covers s.ranges c.toNat

/-- Ascending ranges behind an open one, those that touch being joined. -/
def joinFrom (first last : Nat) : List (Nat × Nat) → List (Nat × Nat)
  | [] => [(first, last)]
  | (a, b) :: rest =>
    if a ≤ last + 1 then joinFrom first (max last b) rest
    else (first, last) :: joinFrom a b rest

/-- The set of the code points of some ranges. -/
def ofRanges (ranges : List (Nat × Nat)) : CharSet :=
  match ranges.mergeSort fun r s => r.1 < s.1 || (r.1 == s.1 && r.2 ≤ s.2) with
  | [] => ⟨[]⟩
  | (first, last) :: rest => ⟨joinFrom first last rest⟩

/-- The set without characters. -/
def none : CharSet :=
  ⟨[]⟩

/-- The set of all characters. -/
def all : CharSet :=
  ⟨[(0, lastCode)]⟩

/-- The set of one character. -/
def single (c : Char) : CharSet :=
  ⟨[(c.toNat, c.toNat)]⟩

/-- The characters from one to another. -/
def range (first last : Char) : CharSet :=
  ⟨[(first.toNat, last.toNat)]⟩

/-- The set of some characters. -/
def ofList (cs : List Char) : CharSet :=
  ofRanges (cs.map fun c => (c.toNat, c.toNat))

/-- The ranges between places where membership changes. -/
def rangesBetween : List Nat → List (Nat × Nat)
  | [] => []
  | [first] => [(first, lastCode)]
  | first :: next :: rest => (first, next - 1) :: rangesBetween rest

/-- The set of a table. -/
def ofTable (points : CodePoints) : CharSet :=
  ⟨rangesBetween points.changes⟩

@[simp] theorem contains_none (c : Char) : none.contains c = false :=
  rfl

@[simp] theorem contains_single (a c : Char) :
    (single a).contains c = (c.toNat == a.toNat) := by
  by_cases h : c.toNat < a.toNat
  · have : c.toNat ≠ a.toNat := by omega
    simp [single, contains, covers, h, this]
  · simp only [single, contains, covers, if_neg h, Bool.or_false]
    rw [Bool.eq_iff_iff]
    simp
    omega

/-- The code point before another one; those that are no characters are left out. -/
def before (code : Nat) : Nat :=
  if code = 0xe000 then 0xd7ff else code - 1

/-- The code point behind another one; those that are no characters are left out. -/
def behind (code : Nat) : Nat :=
  if code = 0xd7ff then 0xe000 else code + 1

/-- The characters of either set. -/
def union (s t : CharSet) : CharSet :=
  ofRanges (s.ranges ++ t.ranges)

/-- What two lists of ranges share. -/
def interRanges : List (Nat × Nat) → List (Nat × Nat) → List (Nat × Nat)
  | (a, b) :: rs, (c, d) :: ss =>
    let rest := if b < d then interRanges rs ((c, d) :: ss) else interRanges ((a, b) :: rs) ss
    if max a c ≤ min b d then (max a c, min b d) :: rest else rest
  | _, _ => []
termination_by rs ss => rs.length + ss.length

/-- The characters of both sets. -/
def inter (s t : CharSet) : CharSet :=
  ⟨interRanges s.ranges t.ranges⟩

/-- What a list of ranges has and another one has not. -/
def diffRanges : List (Nat × Nat) → List (Nat × Nat) → List (Nat × Nat)
  | [], _ => []
  | rs, [] => rs
  | (a, b) :: rs, (c, d) :: ss =>
    if d < a then diffRanges ((a, b) :: rs) ss
    else if b < c then (a, b) :: diffRanges rs ((c, d) :: ss)
    else
      let rest :=
        if d < b then diffRanges ((behind d, b) :: rs) ss else diffRanges rs ((c, d) :: ss)
      if a < c then (a, before c) :: rest else rest
termination_by rs ss => rs.length + ss.length

/-- The characters of the first set that are not in the second. -/
def diff (s t : CharSet) : CharSet :=
  ⟨diffRanges s.ranges t.ranges⟩

/-- The characters of exactly one of the sets. -/
def symmDiff (s t : CharSet) : CharSet :=
  (s.union t).diff (s.inter t)

/-- The ranges behind a code point and between those that follow. Where two ranges are neighbours,
nothing is between them; their two ends are taken then. -/
def gapsFrom (last : Nat) : List (Nat × Nat) → List (Nat × Nat)
  | [] => if last < lastCode then [(behind last, lastCode)] else []
  | (a, b) :: rest =>
    (min (behind last) (before a), max (behind last) (before a)) :: gapsFrom b rest

/-- The characters that are not in the set. -/
def compl (s : CharSet) : CharSet :=
  match s.ranges with
  | [] => all
  | (a, b) :: rest => if 0 < a then ⟨(0, before a) :: gapsFrom b rest⟩ else ⟨gapsFrom b rest⟩

/-- The set with both members of every pair of which it has one. -/
def pairUp (pairs : List (Nat × Nat)) (s : CharSet) : CharSet :=
  let met := pairs.filter fun (c, d) => covers s.ranges c || covers s.ranges d
  ofRanges (met.flatMap (fun (c, d) => [(c, c), (d, d)]) ++ s.ranges)

/-- The characters that equal one of the set up to case. Two steps reach them all: one to the folds,
and one back. -/
def folded (s : CharSet) : CharSet :=
  pairUp foldPairs (pairUp foldPairs s)

/-- The letters from A to Z, each with its lower case. -/
def asciiPairs : List (Nat × Nat) :=
  (List.range 26).map fun i => (0x41 + i, 0x61 + i)

/-- The characters that equal one of the set up to the case of the letters from A to Z. -/
def foldedAscii (s : CharSet) : CharSet :=
  pairUp asciiPairs s

/-- The characters up to U+007F. -/
def ascii : CharSet :=
  range '\x00' '\x7f'

/-- The class of a name in brackets and colons. -/
def posix? (name : String) : Option CharSet :=
  let ranges (rs : List (Char × Char)) : Option CharSet :=
    some (ofRanges (rs.map fun (a, b) => (a.toNat, b.toNat)))
  match name with
  | "alnum" => ranges [('0', '9'), ('A', 'Z'), ('a', 'z')]
  | "alpha" => ranges [('A', 'Z'), ('a', 'z')]
  | "ascii" => some ascii
  | "blank" => ranges [('\t', '\t'), (' ', ' ')]
  | "cntrl" => ranges [('\x00', '\x1f'), ('\x7f', '\x7f')]
  | "digit" => ranges [('0', '9')]
  | "graph" => ranges [('!', '~')]
  | "lower" => ranges [('a', 'z')]
  | "print" => ranges [(' ', '~')]
  | "punct" => ranges [('!', '/'), (':', '@'), ('[', '\x60'), ('\x7b', '~')]
  | "space" => ranges [('\t', '\r'), (' ', ' ')]
  | "upper" => ranges [('A', 'Z')]
  | "word" => ranges [('0', '9'), ('A', 'Z'), ('_', '_'), ('a', 'z')]
  | "xdigit" => ranges [('0', '9'), ('A', 'F'), ('a', 'f')]
  | _ => Option.none

/-- White space in ASCII. -/
def asciiSpaces : CharSet :=
  ofList ['\t', '\n', '\x0b', '\x0c', '\r', ' ']

/-- The characters of words of every script. -/
def allWords : CharSet :=
  ofTable wordCharacters

/-- The characters of words in ASCII. -/
def asciiWords : CharSet :=
  ofRanges [(0x30, 0x39), (0x41, 0x5a), (0x5f, 0x5f), (0x61, 0x7a)]

/-- Decimal digits, of every script or only from 0 to 9. -/
def digits (unicode : Bool) : CharSet :=
  if unicode then ofTable decimalDigits else range '0' '9'

/-- White space, of every script or only in ASCII. -/
def spaces (unicode : Bool) : CharSet :=
  if unicode then ofTable blanks else asciiSpaces

/-- The characters of words, of every script or only in ASCII. -/
def words (unicode : Bool) : CharSet :=
  if unicode then allWords else asciiWords

/-- Characters without those that do not count in the name of a property: blanks, hyphens, low
lines and what is not ASCII; nor does case. -/
def looseChars (cs : List Char) : String :=
  String.ofList (cs.filterMap fun c =>
    if c == ' ' || c == '-' || c == '_' || 0x80 ≤ c.toNat then Option.none else some c.toLower)

/-- A name of a property as it is compared; a leading "is" does not count. -/
def looseName (name : String) : String :=
  match name.toList with
  | i :: s :: rest =>
    if i.toLower == 'i' && s.toLower == 's' then looseChars rest else looseChars (i :: s :: rest)
  | cs => looseChars cs

/-- Some of the general categories: letters, upper case letters, numbers and decimal digits, each
under its two names, and what is written like a category. No other one is known. -/
def category? (name : String) : Option CharSet :=
  match name with
  | "l" | "letter" => some (ofTable letters)
  | "lu" | "uppercaseletter" => some (ofTable uppercaseLetters)
  | "n" | "number" => some (ofTable numbers)
  | "nd" | "decimalnumber" | "digit" => some (ofTable decimalDigits)
  | "any" => some all
  | "ascii" => some ascii
  | _ => Option.none

/-- The Greek script; no other one is known. -/
def script? (name : String) : Option CharSet :=
  match name with
  | "greek" | "grek" => some (ofTable greekScript)
  | _ => Option.none

/-- The class of a property with a value, or of a value alone, if it is one of the few categories
and scripts that are known. -/
def property? (property : Option String) (value : String) : Option CharSet :=
  let value := looseName value
  match property.map looseName with
  | Option.none => category? value <|> script? value
  | some "gc" | some "generalcategory" => category? value
  | some "sc" | some "script" => script? value
  | some _ => Option.none

end CharSet

end Dataflow
