import Dataflow.Matching.Engine
import Dataflow.Pattern.Program
import Dataflow.Pattern.Reader
import Dataflow.Text.Scan
import Std.Data.HashSet

/-!
# Searching with patterns

A program is run over a text by following all its ways at once, in the order of preference. As long
as no match is found, one more way begins at every place, behind all others. A way that comes to an
instruction that a preferred way has reached at the same place is given up, and a way that matches
ends all ways after it. The match is the one that the last way to match has found.
-/

namespace Dataflow

/-- A way through a program. -/
structure Way where
  next : Nat
  /-- The number of characters before the place where the way began. -/
  start : Nat
  deriving DecidableEq, Repr

namespace Program

/-- The ways to where they take a character or match, in the order of preference. Every instruction
forks at most once, so that three steps for each are fuel enough. -/
def reach (p : Program) (before behind : Option Char) :
    Nat → List Way → Std.HashSet Nat → List Way → List Way
  | 0, _, _, reached => reached.reverse
  | _, [], _, reached => reached.reverse
  | fuel + 1, w :: waiting, seen, reached =>
    if seen.contains w.next then p.reach before behind fuel waiting seen reached
    else
      let seen := seen.insert w.next
      match p.code[w.next]? with
      | some (.fork first second) =>
        let waiting := { w with next := first } :: { w with next := second } :: waiting
        p.reach before behind fuel waiting seen reached
      | some (.look l next) =>
        let waiting := if l.holds before behind then { w with next } :: waiting else waiting
        p.reach before behind fuel waiting seen reached
      | _ => p.reach before behind fuel waiting seen (w :: reached)

/-- The ways after a character, up to the first one that matches, and where that one began. -/
def advance (p : Program) (c : Option Char) : List Way → List Way → List Way × Option Nat
  | [], ways => (ways.reverse, none)
  | w :: reached, ways =>
    match p.code[w.next]? with
    | some .accept => (ways.reverse, some w.start)
    | some (.take s next) =>
      p.advance c reached (if c.any s.contains then { w with next } :: ways else ways)
    | _ => p.advance c reached ways

/-- The match that is found in the end, by the numbers of characters before its start and before its
stop; `taken` characters have been taken so far, and `best` is the match found so far. -/
def findFrom (p : Program) (ways : List Way) (before : Option Char) (taken : Nat)
    (best : Option (Nat × Nat)) (cs : List Char) : Option (Nat × Nat) :=
  let ways := if best.isNone then ways ++ [⟨p.start, taken⟩] else ways
  let reached := p.reach before cs.head? (ways.length + 3 * p.code.size) ways {} []
  let (ways, found) := p.advance cs.head? reached []
  let best := match found with
    | some start => some (start, taken)
    | none => best
  match cs with
  | [] => best
  | c :: cs =>
    if ways.isEmpty && best.isSome then best else p.findFrom ways (some c) (taken + 1) best cs

/-- The first match in a text, by the numbers of characters before its start and before its stop. -/
def find (p : Program) (before : Option Char) (cs : List Char) : Option (Nat × Nat) :=
  p.findFrom [] before 0 none cs

/-- The places of the matches that are not empty and do not overlap. Behind an empty match, the
search goes on with the next character; every search takes one at least, so that their number is
fuel enough. -/
def findAllFrom (p : Program) : Nat → Option Char → Nat → List Char → List (Nat × Nat)
  | 0, _, _, _ => []
  | fuel + 1, before, offset, cs =>
    match p.find before cs with
    | none => []
    | some (start, stop) =>
      let taken := cs.take (max stop (start + 1))
      let rest := p.findAllFrom fuel (taken.getLast?.or before) (offset + byteLength taken)
        (cs.drop taken.length)
      if start < stop then
        (offset + byteLength (cs.take start), offset + byteLength (cs.take stop)) :: rest
      else rest

/-- The places of the matches in a text that are not empty and do not overlap. -/
def findAll (p : Program) (text : String) : List (Nat × Nat) :=
  p.findAllFrom text.length none 0 text.toList

end Program

/-- The program of a text that describes a pattern. -/
def Program.ofText? (text : String) : Option Program := do
  (← Pattern.ofText? text).program?

/-- One engine, which knows a part of the usual language of patterns. It leaves out the matches that
are empty. -/
def Pattern.engine : PatternEngine where
  compile text :=
    match Program.ofText? text with
    | some program => .ok program.findAll
    | none => .error "not a pattern that is known"

end Dataflow
