import Dataflow.Pattern.Escape

/-!
# Classes in brackets

A class in brackets is a union of characters, ranges and classes. Unions can be combined by
operators of one rank, from left to right, and a class can stand in a class.
-/

namespace Dataflow

namespace Pattern

/-- An operator between sets. -/
inductive SetOp where
  | inter
  | diff
  | symmDiff
  deriving DecidableEq, Repr

/-- The meaning of an operator. -/
def SetOp.apply : SetOp → CharSet → CharSet → CharSet
  | inter => .inter
  | diff => .diff
  | symmDiff => .symmDiff

/-- A class that is being read. Its height is the greatest number of brackets, operators, and unions
of two parts or more that stand in one another. -/
structure OpenClass where
  turned : Bool
  /-- The left side of an operator, its height, and the operator. -/
  left : Option (CharSet × Nat × SetOp) := none
  ranges : List (Nat × Nat) := []
  parts : Nat := 0
  tallest : Nat := 0

namespace OpenClass

/-- The class with one more part of some height. -/
def add (k : OpenClass) (s : CharSet) (height : Nat) : OpenClass :=
  { k with
    ranges := s.ranges ++ k.ranges
    parts := k.parts + 1
    tallest := max k.tallest height }

/-- The set so far and its height, the last operator being applied. -/
def value (flags : Flags) (k : OpenClass) : CharSet × Nat :=
  let union := CharSet.ofRanges k.ranges
  let height := if 2 ≤ k.parts then k.tallest + 1 else k.tallest
  match k.left with
  | none => (union, height)
  | some (left, leftHeight, op) =>
    (op.apply (flags.fold left) (flags.fold union), max leftHeight height + 1)

/-- The class after an operator. -/
def operate (flags : Flags) (k : OpenClass) (op : SetOp) : OpenClass :=
  let (left, height) := k.value flags
  { turned := k.turned, left := some (left, height, op) }

/-- The set of the whole class, and its height. -/
def close (flags : Flags) (k : OpenClass) : Option (CharSet × Nat) := do
  let (s, height) := k.value flags
  return (← flags.turned k.turned (flags.fold s), height + 1)

end OpenClass

/-- A character as a part of a class; without the classes of all scripts it has to be ASCII. -/
def Flags.member (flags : Flags) (c : Char) : Option Char :=
  if flags.unicode || c.toNat < 0x80 then some c else none

/-- Hyphens at the start of a class, each standing for itself. -/
def readHyphens (flags : Flags) : Nat → OpenClass → List Char → OpenClass × List Char
  | 0, k, cs => (k, cs)
  | fuel + 1, k, cs =>
    match cs with
    | '-' :: rest => readHyphens flags fuel (k.add (.single '-') 0) (flags.skip rest)
    | cs => (k, cs)

/-- The start of a class behind its bracket: whether it is turned over, then hyphens or a closing
bracket that stand for themselves. -/
def readOpening (flags : Flags) (cs : List Char) : Option (OpenClass × List Char) :=
  let cs := flags.skip cs
  let (turned, cs) := match cs with
    | '^' :: rest => (true, flags.skip rest)
    | cs => (false, cs)
  match readHyphens flags cs.length { turned } cs with
  | (_, []) => none
  | (k, ']' :: rest) =>
    some (if k.parts = 0 then (k.add (.single ']') 0, flags.skip rest) else (k, ']' :: rest))
  | (k, cs) => some (k, cs)

/-- A class named between colons, behind its bracket. -/
def readPosix? (flags : Flags) (cs : List Char) : Option (Option CharSet × List Char) :=
  match cs with
  | ':' :: cs =>
    let (turned, cs) := match cs with
      | '^' :: rest => (true, rest)
      | cs => (false, cs)
    match cs.dropWhile (· != ':') with
    | ':' :: ']' :: rest =>
      (CharSet.posix? (String.ofList (cs.takeWhile (· != ':')))).map fun s =>
        (flags.turned turned (flags.fold s), rest)
    | _ => none
  | _ => none

/-- One sign in a class. -/
def readMember (flags : Flags) : List Char → Option (Atom × List Char)
  | [] => none
  | '\\' :: cs => readEscape flags cs
  | c :: cs => some (.char c, cs)

/-- A character, a class or a range in a class. -/
def readRange (flags : Flags) (cs : List Char) : Option (CharSet × List Char) := do
  let (first, cs) ← readMember flags cs
  let alone : Option (CharSet × List Char) :=
    match first with
    | .char c => do return (.single (← flags.member c), cs)
    | .set s => some (s, cs)
    | .look _ => none
  match flags.skip cs with
  | [] => none
  | '-' :: rest =>
    match flags.skip rest with
    | ']' :: _ | '-' :: _ => alone
    | rest =>
      let (last, rest) ← readMember flags rest
      match first, last with
      | .char a, .char b =>
        let a ← flags.member a
        let b ← flags.member b
        if a ≤ b then return (.range a b, rest) else none
      | _, _ => none
  | _ => alone

/-- The rest of a class and its height, given the classes that are open, the innermost first. -/
def readClassFrom (flags : Flags) : Nat → List OpenClass → List Char →
    Option (CharSet × Nat × List Char)
  | 0, _, _ => none
  | _, [], _ => none
  | fuel + 1, k :: outer, cs =>
    match flags.skip cs with
    | [] => none
    | '[' :: rest =>
      match readPosix? flags rest with
      | some (s, rest) => do readClassFrom flags fuel (k.add (← s) 0 :: outer) rest
      | none => do
        let (inner, rest) ← readOpening flags rest
        readClassFrom flags fuel (inner :: k :: outer) rest
    | ']' :: rest => do
      let (s, height) ← k.close flags
      match outer with
      | [] => return (s, height, rest)
      | k :: outer => readClassFrom flags fuel (k.add s height :: outer) rest
    | '&' :: '&' :: rest => readClassFrom flags fuel (k.operate flags .inter :: outer) rest
    | '-' :: '-' :: rest => readClassFrom flags fuel (k.operate flags .diff :: outer) rest
    | '~' :: '~' :: rest => readClassFrom flags fuel (k.operate flags .symmDiff :: outer) rest
    | cs => do
      let (s, rest) ← readRange flags cs
      readClassFrom flags fuel (k.add s 0 :: outer) rest

/-- A class in brackets and its height, behind the first bracket. -/
def readClass (flags : Flags) (cs : List Char) : Option (CharSet × Nat × List Char) := do
  let (k, rest) ← readOpening flags cs
  readClassFrom flags (cs.length + 1) [k] rest

end Pattern

end Dataflow
