import Dataflow.Pattern.CharSet
import Dataflow.Text.Scan

/-!
# Patterns

The engine that plans use to match patterns is a parameter. This is the language of one such engine,
`Pattern.engine`, with which plans can be run.

A pattern describes the texts it matches, in an order of preference: of two alternatives the first
is preferred, and a repetition prefers many rounds or few.

Patterns are made in a normal form: neighbouring characters are one text, sequences and choices lean
to the right, a choice between characters is a set, and what all alternatives begin with stands
before the choice. The size of a pattern is that of its normal form.
-/

namespace Dataflow

/-- A condition on the characters before and behind a place. -/
inductive Look where
  | textStart
  | textEnd
  | lineStart
  | lineEnd
  /-- The start of a line, where a carriage return also ends lines. -/
  | returnStart
  /-- The end of a line, where a carriage return also ends lines. -/
  | returnEnd
  | wordEdge (unicode : Bool)
  | noWordEdge (unicode : Bool)
  | wordStart (unicode : Bool)
  | wordEnd (unicode : Bool)
  | wordStartHalf (unicode : Bool)
  | wordEndHalf (unicode : Bool)
  deriving DecidableEq, Repr

/-- Whether a condition holds between two characters; at an end of the text there is none. -/
def Look.holds (look : Look) (before behind : Option Char) : Bool :=
  let inWord (unicode : Bool) (c : Option Char) : Bool := c.any (CharSet.words unicode).contains
  match look with
  | textStart => before.isNone
  | textEnd => behind.isNone
  | lineStart => before.all (· == '\n')
  | lineEnd => behind.all (· == '\n')
  | returnStart =>
    before.all fun c => c == '\n' || (c == '\r' && behind != some '\n')
  | returnEnd =>
    behind.all fun c => c == '\r' || (c == '\n' && before != some '\r')
  | wordEdge unicode => inWord unicode before != inWord unicode behind
  | noWordEdge unicode => inWord unicode before == inWord unicode behind
  | wordStart unicode => !inWord unicode before && inWord unicode behind
  | wordEnd unicode => inWord unicode before && !inWord unicode behind
  | wordStartHalf unicode => !inWord unicode before
  | wordEndHalf unicode => !inWord unicode behind

/-- A pattern. -/
inductive Pattern where
  | empty
  | text (cs : List Char)
  | set (s : CharSet)
  | look (l : Look)
  | seq (p q : Pattern)
  | alt (p q : Pattern)
  /-- At least `least` rounds and at most `most`, as many as possible or as few. -/
  | rounds (greedy : Bool) (least : Nat) (most : Option Nat) (p : Pattern)
  /-- A group that counts as one of its own, with its place among all groups. -/
  | group (index : Nat) (p : Pattern)
  deriving DecidableEq

namespace Pattern

/-- A length that two parts have together, if both have one. -/
def bothLengths (f : Nat → Nat → Nat) (m n : Option Nat) : Option Nat := do
  return f (← m) (← n)

/-- The number of bytes of a code point. -/
def codeWidth (code : Nat) : Nat :=
  if code < 0x80 then 1 else if code < 0x800 then 2 else if code < 0x10000 then 3 else 4

/-- The least number of bytes that a match takes; a set without characters has none. -/
def shortest : Pattern → Option Nat
  | empty | look _ => some 0
  | text cs => some (byteLength cs)
  | set s => s.ranges.head?.map (codeWidth ·.1)
  | seq p q => bothLengths (· + ·) p.shortest q.shortest
  | alt p q => bothLengths min p.shortest q.shortest
  | rounds _ least _ p => p.shortest.map (least * ·)
  | group _ p => p.shortest

/-- The greatest number of bytes that a match takes, if there is one. -/
def longest : Pattern → Option Nat
  | empty | look _ => some 0
  | text cs => some (byteLength cs)
  | set s => s.ranges.getLast?.map (codeWidth ·.2)
  | seq p q => bothLengths (· + ·) p.longest q.longest
  | alt p q => bothLengths max p.longest q.longest
  | rounds _ _ most p => bothLengths (· * ·) most p.longest
  | group _ p => p.longest

/-- One character of a set, which is a text if the set has only one. -/
def ofSet (s : CharSet) : Pattern :=
  match s.ranges with
  | [(a, b)] => if a = b then text [Char.ofNat a] else set s
  | _ => set s

/-- What a sequence consists of. -/
def parts : Pattern → List Pattern
  | empty => []
  | seq p q => p :: q.parts
  | p => [p]

/-- The pattern that consists of the given parts. -/
def ofParts : List Pattern → Pattern
  | [] => empty
  | [p] => p
  | p :: ps => seq p (ofParts ps)

/-- Parts with neighbouring texts joined. -/
def joinTexts : List Pattern → List Pattern
  | [] => []
  | text cs :: ps =>
    match joinTexts ps with
    | text ds :: ps => text (cs ++ ds) :: ps
    | ps => text cs :: ps
  | p :: ps => p :: joinTexts ps

/-- Patterns one behind another. -/
def sequence (ps : List Pattern) : Pattern :=
  ofParts (joinTexts (ps.flatMap parts))

/-- What a choice is between. -/
def branches : Pattern → List Pattern
  | alt p q => p :: q.branches
  | p => [p]

/-- The choice between the given patterns. -/
def ofBranches : List Pattern → Pattern
  | [] => set .none
  | [p] => p
  | p :: ps => alt p (ofBranches ps)

/-- The character of a pattern that is just one. -/
def char? : Pattern → Option Char
  | text [c] => some c
  | _ => none

/-- The set of a pattern that is just one. -/
def set? : Pattern → Option CharSet
  | set s => some s
  | _ => none

/-- The choice between patterns that do not all begin alike: a set if they are all characters, or
all sets. -/
def unite (ps : List Pattern) : Pattern :=
  match ps with
  | [] | [_] => ofBranches ps
  | ps =>
    match ps.mapM char? with
    | some cs => ofSet (.ofList cs)
    | none =>
      match ps.mapM set? with
      | some sets => ofSet (.ofRanges (sets.flatMap (·.ranges)))
      | none => ofBranches ps

/-- What two lists begin with. -/
def sharedStart : List Pattern → List Pattern → List Pattern
  | p :: ps, q :: qs => if p = q then p :: sharedStart ps qs else []
  | _, _ => []

/-- What all patterns of a list begin with; nothing unless all are sequences. -/
def commonStart : List Pattern → List Pattern
  | [] => []
  | p :: ps =>
    if (p :: ps).all (2 ≤ ·.parts.length) then
      ps.foldl (fun start q => sharedStart start q.parts) p.parts
    else []

/-- The first possible one of several patterns. What all of them begin with comes before the choice;
what is left does not begin alike. -/
def choice (ps : List Pattern) : Pattern :=
  match ps.flatMap branches with
  | [p] => p
  | ps =>
    match commonStart ps with
    | [] => unite ps
    | start =>
      let ends := ps.map fun p => ofParts (p.parts.drop start.length)
      sequence (start ++ [unite (ends.flatMap branches)])

/-- Rounds of a pattern. Where a round takes nothing, one is as good as many; one round is the
pattern itself. -/
def repeated (greedy : Bool) (least : Nat) (most : Option Nat) (p : Pattern) : Pattern :=
  let (least, most) :=
    if p.longest = some 0 then (min least 1, some (min (most.getD 1) 1)) else (least, most)
  if least = 0 && most = some 0 then empty
  else if least = 1 && most = some 1 then p
  else rounds greedy least most p

end Pattern

end Dataflow
