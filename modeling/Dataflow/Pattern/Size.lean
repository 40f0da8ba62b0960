import Dataflow.Pattern.Basic
import Dataflow.Pattern.Encoding
import Std.Data.HashMap

/-!
# The size of patterns

A pattern may be too large. Its size is that of the automaton over bytes that recognises it, read
forwards or backwards: every state takes 32 bytes, every way out of a state of several ranges takes
8, and every way out of a fork takes 4.

The states are counted in the order in which they are made. Equal states of one set are made only
once, as far as a table of bounded size remembers them; the place of a state in that table depends
on the numbers of the states it leads to.
-/

namespace Dataflow

namespace Pattern

/-- The greatest size of a pattern. -/
def sizeLimit : Nat :=
  10 * 1024 * 1024

/-- What has been counted so far. -/
structure Extent where
  states : Nat := 0
  ways : Nat := 0
  deriving DecidableEq, Repr

/-- Adds what a pattern takes, unless the size becomes too great. -/
abbrev Count : Type :=
  Extent → Option Extent

/-- Adds states, and bytes for the ways out of them. -/
def Extent.grow (states ways : Nat) : Count := fun e =>
  let e := ⟨e.states + states, e.ways + ways⟩
  if 32 * e.states + e.ways ≤ sizeLimit then some e else none

/-- Adds a fork with two ways. -/
def Extent.fork : Count :=
  Extent.grow 1 8

/-- Adds the same several times. -/
def Extent.times (count : Count) : Nat → Count
  | 0, e => some e
  | n + 1, e =>
    match count e with
    | some e => times count n e
    | none => none

/-- A way out of a state, with the number of the state it leads to. -/
abbrev Exit : Type :=
  ByteRange × Nat

/-- The states of one set that are remembered, by their places in the table. -/
abbrev Memory (α : Type) : Type :=
  Std.HashMap Nat (α × Nat)

/-- A place in a table that is computed from some numbers. -/
def placeOf (places : Nat) (ns : List Nat) : Nat :=
  let mixed := ns.foldl (fun h n => (h ^^^ UInt64.ofNat n) * 1099511628211) 14695981039346656037
  (mixed % UInt64.ofNat places).toNat

/-- The numbers that the place of a way is computed from. -/
def Exit.numbers (w : Exit) : List Nat :=
  [w.1.first.toNat, w.1.last.toNat, w.2]

/-- What has been counted, and the states that are remembered. -/
structure Sharing (α : Type) where
  extent : Extent
  memory : Memory α := {}

/-- The state of a key: the one that is remembered at its place, or else a new one. -/
def Sharing.get {α : Type} [BEq α] (place : Nat) (key : α) (ways : Nat) (s : Sharing α) :
    Option (Nat × Sharing α) :=
  match s.memory[place]?.filter (·.1 == key) with
  | some (_, state) => some (state, s)
  | none => do
    let state := s.extent.states
    return (state, ⟨← s.extent.grow 1 ways, s.memory.insert place (key, state)⟩)

/-- The state that reads any of the given forms, all of which end in one state. Forms with one
beginning share it. -/
def forwardState (final : Nat) : (fuel : Nat) → List (List ByteRange) → Sharing (List Exit) →
    Option (Nat × Sharing (List Exit))
  | 0, _, s => some (final, s)
  | fuel + 1, forms, s => do
    let groups := forms.splitBy fun f g => f.head? == g.head?
    let (ways, s) ← groups.foldlM (fun (ways, s) group => do
      match group with
      | [] | [] :: _ => return (ways, s)
      | (range :: rest) :: _ =>
        if rest.isEmpty then return ((range, final) :: ways, s)
        let (state, s) ← forwardState final fuel (group.map List.tail) s
        return ((range, state) :: ways, s)) ([], s)
    let ways := ways.reverse
    s.get (placeOf 10000 (ways.flatMap Exit.numbers)) ways (8 * ways.length)

/-- The state that reads the bytes of a form from its last to its first. Forms with one beginning
share their ends. -/
def backwardState (final : Nat) (form : List ByteRange) (s : Sharing (Nat × ByteRange)) :
    Option (Nat × Sharing (Nat × ByteRange)) :=
  form.foldlM (fun (state, s) range =>
    s.get (placeOf 1000 [state, range.first.toNat, range.last.toNat]) (state, range) 0) (final, s)

/-- Adds a set whose characters have the given forms. -/
def countForms (backward : Bool) (forms : List (List ByteRange)) : Count := fun e =>
  if backward then do
    let final := e.states + 1
    let s ← forms.foldlM (fun s form => do
      let (_, s) ← backwardState final form s
      return { s with extent := ← s.extent.grow 0 4 }) ⟨← e.grow 2 0, {}⟩
    return s.extent
  else do
    let (_, s) ← forwardState e.states 4 forms ⟨← e.grow 1 0, {}⟩
    return s.extent

/-- Adds a set of characters. -/
def countSet (backward : Bool) (s : CharSet) : Count :=
  if s.isAscii then Extent.grow 2 (8 * s.ranges.length)
  else countForms backward s.forms

/-- The texts of a choice between texts. -/
def texts? : Pattern → Option (List (List UInt8))
  | text cs => some [cs.flatMap String.utf8EncodeChar]
  | alt (text cs) q => q.texts?.map (cs.flatMap String.utf8EncodeChar :: ·)
  | _ => none

/-- Words by their first bytes, which are in ascending order. -/
def byFirstByte (words : List (List UInt8)) : List (List (List UInt8)) :=
  (words.mergeSort fun v w => v.headD 0 ≤ w.headD 0).splitBy fun v w => v.head? == w.head?

/-- Adds a state from which the rests of some words are read. A word that ends there parts the words
before it from those behind it; of several ends before all other words, only the first counts. -/
def countWords : (fuel : Nat) → List (List UInt8) → Count
  | 0, _, e => some e
  | fuel + 1, words, e => do
    let words := match words with
      | [] :: rest => [] :: rest.dropWhile List.isEmpty
      | words => words
    let runs := words.splitBy fun v w => !v.isEmpty && !w.isEmpty
    let (ways, e) ← runs.foldlM (fun (ways, e) run => do
      if run.all List.isEmpty then return (ways + 1, e)
      let groups := byFirstByte run
      let e ← groups.foldlM (fun e group =>
        let tails := group.map List.tail
        if tails.all List.isEmpty then some e else countWords fuel tails e) e
      return (ways + 1, ← e.grow 1 (if groups.length = 1 then 0 else 8 * groups.length))) (0, e)
    e.grow 1 (4 * ways)

/-- Adds what joins an alternative with those before it, given their number. -/
def joinBranch : Nat → Count
  | 0 => some
  | 1 => Extent.grow 2 8
  | _ => Extent.grow 0 4

/-- Adds rounds. -/
def countRounds (least : Nat) (most : Option Nat) (empty : Bool) (count : Count) : Count := fun e =>
  match most, least with
  | some 1, 0 => do (← count (← e.fork)).grow 1 0
  | some most, least => do
    let e ← if least = 0 then e.grow 1 0 else Extent.times count least e
    if least = most then return e
    Extent.times (fun e => do count (← e.fork)) (most - least) (← e.grow 1 0)
  | none, 0 => do
    if empty then (← (← (← count e).fork).fork).grow 1 0
    else count (← e.fork)
  | none, least => do (← Extent.times count least e).fork

/-- Adds a pattern, as the alternative with so many before it in a choice. -/
def count (backward : Bool) : Nat → Pattern → Count
  | rank, alt p q => fun e => do
    match if rank = 0 then (alt p q).texts? else none with
    | some words =>
      let words := if backward then words.map List.reverse else words
      countWords (words.foldl (max · ·.length) 0 + 1) words (← e.grow 1 0)
    | none =>
      let e ← joinBranch rank (← p.count backward 0 e)
      q.count backward (rank + 1) e
  | rank, empty | rank, look _ => fun e => do joinBranch rank (← e.grow 1 0)
  | rank, text cs => fun e => do joinBranch rank (← e.grow (byteLength cs) 0)
  | rank, set s => fun e => do joinBranch rank (← countSet backward s e)
  | rank, seq p q => fun e => do
    if backward then joinBranch rank (← p.count backward 0 (← q.count backward 0 e))
    else joinBranch rank (← q.count backward 0 (← p.count backward 0 e))
  | rank, rounds _ least most p => fun e => do
    let mayTakeNothing := !p.shortest.any (0 < ·)
    joinBranch rank (← countRounds least most mayTakeNothing (fun e => p.count backward 0 e) e)
  | rank, group _ p => fun e => do
    if backward then joinBranch rank (← p.count backward 0 e)
    else joinBranch rank (← (← p.count backward 0 (← e.grow 1 0)).grow 1 0)

/-- Whether a pattern matches only at one end of a text: at its start, or backwards at its end. -/
def isAnchored (backward : Bool) : Pattern → Bool
  | look l => l == if backward then .textEnd else .textStart
  | seq p q =>
    if backward then q.isAnchored backward || (p.isAnchored backward && q.longest == some 0)
    else p.isAnchored backward || (p.longest == some 0 && q.isAnchored backward)
  | alt p q => p.isAnchored backward && q.isAnchored backward
  | rounds _ least _ p => 0 < least && p.isAnchored backward
  | group _ p => p.isAnchored backward
  | _ => false

/-- The automaton of a pattern in one direction. A pattern that may match at any place is entered by
a loop. -/
def extent? (backward : Bool) (p : Pattern) : Option Extent := do
  let e ← if p.isAnchored backward then Extent.grow 1 0 {} else Extent.grow 3 16 {}
  if backward then (← p.count backward 0 e).grow 1 0
  else (← p.count backward 0 (← e.grow 1 0)).grow 2 0

/-- Whether a pattern is small enough in both directions. -/
def fits (p : Pattern) : Bool :=
  (p.extent? false).isSome && (p.extent? true).isSome

end Pattern

end Dataflow
