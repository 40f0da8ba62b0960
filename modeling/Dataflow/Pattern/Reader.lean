import Dataflow.Pattern.Brackets
import Dataflow.Text.Integer

/-!
# Reading patterns

A pattern is read from left to right, one sign at a time. Groups that are open are kept on a
stack, with the flags to go back to at their ends.
-/

namespace Dataflow

namespace Pattern

/-- A part of a pattern. Its height is the greatest number of groups, rounds, classes, choices, and
sequences of two parts or more that stand in one another. -/
structure Part where
  pattern : Pattern
  height : Nat := 0
  /-- Whether it can be repeated; what only sets flags cannot. -/
  repeatable : Bool := true

/-- The greatest height that a pattern may have. -/
def heightLimit : Nat :=
  250

/-- The height of something with the given parts: one more than the greatest if there are two or
more. -/
def heightOf (heights : List Nat) : Nat :=
  let tallest := heights.foldl max 0
  if 2 ≤ heights.length then tallest + 1 else tallest

/-- A group that is being read: its finished alternatives and the parts of the last one, the newest
first. -/
structure OpenGroup where
  branches : List Part := []
  parts : List Part := []
  /-- The place of the group among all groups, if it counts as one. -/
  index : Option Nat := none
  outerFlags : Flags := {}

namespace OpenGroup

/-- The group with one more part, unless that is too high. -/
def add (g : OpenGroup) (part : Part) : Option OpenGroup :=
  if part.height ≤ heightLimit then some { g with parts := part :: g.parts } else none

/-- The alternative that is being read. -/
def branch (g : OpenGroup) : Part :=
  ⟨sequence (g.parts.reverse.map (·.pattern)), heightOf (g.parts.map (·.height)), true⟩

/-- The group after the sign between alternatives. -/
def nextBranch (g : OpenGroup) : OpenGroup :=
  { g with branches := g.branch :: g.branches, parts := [] }

/-- What is between the signs of the group. -/
def content (g : OpenGroup) : Part :=
  let branches := (g.branch :: g.branches).reverse
  ⟨choice (branches.map (·.pattern)), heightOf (branches.map (·.height)), true⟩

/-- The whole group. -/
def value (g : OpenGroup) : Part :=
  let content := g.content
  match g.index with
  | some index => ⟨group index content.pattern, content.height + 1, true⟩
  | none => ⟨content.pattern, content.height + 1, true⟩

/-- The group with its last part repeated; there has to be one. -/
def repeatLast (g : OpenGroup) (greedy : Bool) (least : Nat) (most : Option Nat) :
    Option OpenGroup :=
  match g.parts with
  | part :: parts =>
    if part.repeatable then
      { g with parts }.add ⟨repeated greedy least most part.pattern, part.height + 1, true⟩
    else none
  | [] => none

end OpenGroup

/-- A pattern that is being read. -/
structure Reading where
  group : OpenGroup := {}
  outer : List OpenGroup := []
  flags : Flags := {}
  groups : Nat := 0
  names : List (List Char) := []

namespace Reading

/-- One more part in the innermost group. -/
def add (r : Reading) (part : Part) : Option Reading := do
  return { r with group := ← r.group.add part }

/-- A group begins. -/
def enter (r : Reading) (index : Option Nat) (flags : Flags) : Reading :=
  { r with
    group := { index, outerFlags := r.flags }
    outer := r.group :: r.outer
    flags := flags }

/-- A group that counts as one begins. -/
def enterCounted (r : Reading) : Reading :=
  { r with groups := r.groups + 1 }.enter (some (r.groups + 1)) r.flags

/-- The innermost group ends. -/
def leave (r : Reading) : Option Reading :=
  match r.outer with
  | [] => none
  | g :: outer => do
    return { r with
      group := ← g.add r.group.value
      outer := outer
      flags := r.group.outerFlags }

/-- The whole pattern, if no group is open and it is not too high. -/
def finish (r : Reading) : Option Pattern :=
  let content := r.group.content
  if r.outer.isEmpty && content.height ≤ heightLimit then some content.pattern else none

end Reading

/-- Whether a character can stand first in the name of a group. -/
def isNameStart (c : Char) : Bool :=
  c == '_' || isAlphabetic c

/-- Whether a character can stand in the name of a group. -/
def isNamePart (c : Char) : Bool :=
  c == '_' || c == '.' || c == '[' || c == ']' || isAlphanumeric c

/-- The name of a group, up to the sign that ends it. -/
def readName (cs : List Char) : Option (List Char × List Char) :=
  match cs.dropWhile (· != '>') with
  | '>' :: rest =>
    match cs.takeWhile (· != '>') with
    | [] => none
    | c :: name => if isNameStart c && name.all isNamePart then some (c :: name, rest) else none
  | _ => none

/-- A group with a name, which has to be new. -/
def readNamed (r : Reading) (cs : List Char) : Option (Reading × List Char) := do
  let (name, rest) ← readName cs
  if r.names.contains name then none
  return ({ r with names := name :: r.names }.enterCounted, rest)

/-- What follows an opening parenthesis. -/
def readGroup (r : Reading) (cs : List Char) : Option (Reading × List Char) :=
  match r.flags.skip cs with
  | '?' :: 'P' :: '<' :: rest => readNamed r rest
  | '?' :: '<' :: rest => readNamed r rest
  | '?' :: rest => do
    let (seen, flags, stop, rest) ← readFlags r.flags true [] rest
    if stop == ':' then return (r.enter none flags, rest)
    else if seen.isEmpty then none
    else return (← { r with flags }.add ⟨empty, 0, false⟩, rest)
  | rest => some (r.enterCounted, rest)

/-- Whether rounds are many: a question mark turns the usual choice over. -/
def readGreed (flags : Flags) : List Char → Bool × List Char
  | '?' :: rest => (flags.swapGreed, rest)
  | cs => (!flags.swapGreed, cs)

/-- The digits at the start of a list of characters; what does not count may stand behind each. -/
def readDigits (flags : Flags) : Nat → List Char → List Char → List Char × List Char
  | 0, found, cs => (found.reverse, cs)
  | fuel + 1, found, cs =>
    match cs with
    | c :: rest =>
      if c.isDigit then readDigits flags fuel (c :: found) (flags.skip rest)
      else (found.reverse, cs)
    | [] => (found.reverse, [])

/-- A number of rounds, with white space around it; none if there is no digit. -/
def readCount (flags : Flags) (cs : List Char) : Option (Option Nat × List Char) :=
  let (digits, rest) := readDigits flags (cs.length + 1) [] (cs.dropWhile isBlank)
  let rest := flags.skip (rest.dropWhile isBlank)
  if digits.isEmpty then some (none, rest)
  else do return (some (← naturalOfText? word32Max (String.ofList digits)), rest)

/-- Numbers of rounds behind an opening brace. -/
def readCounts (flags : Flags) (cs : List Char) :
    Option (Nat × Option Nat × List Char) := do
  let (least, rest) ← readCount flags (flags.skip cs)
  let least ← least
  match rest with
  | '\x7d' :: rest => return (least, some least, rest)
  | ',' :: rest =>
    match flags.skip rest with
    | '\x7d' :: rest => return (least, none, rest)
    | rest =>
      let (most, rest) ← readCount flags rest
      let most ← most
      match rest with
      | '\x7d' :: rest => if least ≤ most then return (least, some most, rest) else none
      | _ => none
  | _ => none

/-- The last part repeated, and what follows. -/
def Reading.repeatLast (r : Reading) (least : Nat) (most : Option Nat) (cs : List Char) :
    Option (Reading × List Char) := do
  let (greedy, rest) := readGreed r.flags cs
  return ({ r with group := ← r.group.repeatLast greedy least most }, rest)

/-- A character, up to case if case does not count. -/
def Flags.literal (flags : Flags) (c : Char) : Pattern :=
  if !flags.ignoreCase then text [c]
  else if flags.unicode then ofSet (.ofList (caseVariants c))
  else ofSet (CharSet.single c).foldedAscii

/-- The set of the dot. -/
def Flags.dot (flags : Flags) : Option CharSet :=
  if !flags.unicode then none
  else if flags.dotAll then some .all
  else if flags.returns then some (CharSet.ofList ['\n', '\r']).compl
  else some (CharSet.single '\n').compl

/-- The condition of the sign for the start. -/
def Flags.start (flags : Flags) : Look :=
  if !flags.multiLine then .textStart else if flags.returns then .returnStart else .lineStart

/-- The condition of the sign for the end. -/
def Flags.stop (flags : Flags) : Look :=
  if !flags.multiLine then .textEnd else if flags.returns then .returnEnd else .lineEnd

/-- The part of a pattern that a sign stands for. -/
def Flags.part (flags : Flags) : Atom → Part
  | .char c => { pattern := flags.literal c }
  | .set s => { pattern := ofSet s }
  | .look l => { pattern := look l }

/-- Reads one sign, given the characters from it on. -/
def readSign (r : Reading) (c : Char) (cs : List Char) : Option (Reading × List Char) :=
  match c with
  | '(' => readGroup r cs
  | ')' => do return (← r.leave, cs)
  | '|' => some ({ r with group := r.group.nextBranch }, cs)
  | '[' => do
    let (s, height, cs) ← readClass r.flags cs
    return (← r.add { pattern := ofSet s, height }, cs)
  | '?' => r.repeatLast 0 (some 1) cs
  | '*' => r.repeatLast 0 none cs
  | '+' => r.repeatLast 1 none cs
  | '\x7b' => do
    let (least, most, cs) ← readCounts r.flags cs
    r.repeatLast least most (r.flags.skip cs)
  | '\\' => do
    let (atom, cs) ← readEscape r.flags cs
    return (← r.add (r.flags.part atom), cs)
  | '.' => do return (← r.add { pattern := ofSet (← r.flags.dot) }, cs)
  | '^' => do return (← r.add { pattern := look r.flags.start }, cs)
  | '$' => do return (← r.add { pattern := look r.flags.stop }, cs)
  | c => do return (← r.add { pattern := r.flags.literal c }, cs)

/-- Reads the rest of a pattern; every sign takes a character, so that the number of characters is
fuel enough. -/
def readFrom : Nat → Reading → List Char → Option Pattern
  | 0, _, _ => none
  | fuel + 1, r, cs =>
    match r.flags.skip cs with
    | [] => r.finish
    | c :: cs => do
      let (r, cs) ← readSign r c cs
      readFrom fuel r cs

/-- The pattern that a text describes. -/
def ofText? (text : String) : Option Pattern :=
  readFrom (text.length + 1) {} text.toList

end Pattern

end Dataflow
