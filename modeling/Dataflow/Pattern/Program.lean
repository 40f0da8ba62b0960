import Dataflow.Pattern.Size
import Dataflow.Pattern.Words

/-!
# Programs of patterns

A pattern is matched by a program of numbered instructions. A program is written from its end to
its start, so that every instruction knows where to go on; only a loop has to be entered after
its body is known.
-/

namespace Dataflow

/-- One instruction. -/
inductive Instruction where
  | accept
  | take (s : CharSet) (next : Nat)
  | look (l : Look) (next : Nat)
  /-- Goes on at two places, of which the first is preferred. -/
  | fork (first second : Nat)

/-- Numbered instructions, and the number to start from. -/
structure Program where
  code : Array Instruction
  start : Nat

namespace Pattern

/-- Writes instructions for something that goes on at a place: gives the place to start from. -/
abbrev Emit : Type :=
  Nat → Array Instruction → Nat × Array Instruction

/-- Writes a fork that prefers to go on with many rounds or with few. -/
def forkOf (greedy : Bool) (again done : Nat) : Instruction :=
  if greedy then .fork again done else .fork done again

/-- Writes a number of copies, one behind another. -/
def emitCopies (body : Emit) : Nat → Emit
  | 0, next, code => (next, code)
  | count + 1, next, code =>
    let (start, code) := body next code
    emitCopies body count start code

/-- Writes up to a number of copies, each of which may be the last; `done` is where they go on. -/
def emitUpTo (greedy : Bool) (body : Emit) (done : Nat) : Nat → Emit
  | 0, next, code => (next, code)
  | count + 1, next, code =>
    let (start, code) := body next code
    emitUpTo greedy body done count code.size (code.push (forkOf greedy start done))

/-- Writes a loop of at least one round: gives the place of its fork along with its start. -/
def emitLoop (greedy : Bool) (body : Emit) (next : Nat) (code : Array Instruction) :
    Nat × Nat × Array Instruction :=
  let fork := code.size
  let (start, code) := body fork (code.push .accept)
  (fork, start, code.set! fork (forkOf greedy start next))

/-- Writes rounds. A loop whose rounds may be empty is entered by a fork of its own, so that an
empty round does not end the loop before other rounds were tried. -/
def emitRounds (greedy : Bool) (least : Nat) (most : Option Nat) (empty : Bool) (body : Emit) :
    Emit := fun next code =>
  match most, least with
  | some most, least =>
    let (start, code) := emitUpTo greedy body next (most - least) next code
    emitCopies body least start code
  | none, 0 =>
    let (fork, start, code) := emitLoop greedy body next code
    if empty then (code.size, code.push (forkOf greedy start next)) else (fork, code)
  | none, least + 1 =>
    let (_, start, code) := emitLoop greedy body next code
    emitCopies body least start code

/-- Writes the instructions of a text. -/
def emitText (cs : List Char) : Emit := fun next code =>
  cs.foldr (fun c (next, code) => (code.size, code.push (.take (.single c) next))) (next, code)

/-- Writes the instructions of a pattern. -/
def emit : Pattern → Emit
  | empty, next, code => (next, code)
  | text cs, next, code => emitText cs next code
  | set s, next, code => (code.size, code.push (.take s next))
  | look l, next, code => (code.size, code.push (.look l next))
  | seq p q, next, code =>
    let (start, code) := q.emit next code
    p.emit start code
  | alt p q, next, code =>
    let (second, code) := q.emit next code
    let (first, code) := p.emit next code
    (code.size, code.push (.fork first second))
  | rounds greedy least most p, next, code =>
    let mayTakeNothing := !p.shortest.any (0 < ·)
    emitRounds greedy least most mayTakeNothing (fun next code => p.emit next code) next code
  | group _ p, next, code => p.emit next code

/-- The program of a pattern, unless the pattern is too large. -/
def program? (p : Pattern) : Option Program :=
  let p := p.spelled
  if p.fits then
    let (start, code) := p.emit 0 #[.accept]
    some ⟨code, start⟩
  else none

end Pattern

end Dataflow
