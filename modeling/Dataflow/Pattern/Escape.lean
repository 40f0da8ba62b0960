import Dataflow.Pattern.Basic
import Dataflow.Text.Alphanumeric

/-!
# Flags and escapes

Flags change what the following parts of a pattern mean. An escape begins with a backslash and
stands for a character, a set of characters or a condition.
-/

namespace Dataflow

namespace Pattern

/-- What the parts of a pattern mean. -/
structure Flags where
  ignoreCase : Bool := false
  multiLine : Bool := false
  dotAll : Bool := false
  swapGreed : Bool := false
  unicode : Bool := true
  returns : Bool := false
  spaced : Bool := false
  deriving DecidableEq, Repr

/-- A flag turned on or off by its letter. -/
def Flags.set? (flags : Flags) (on : Bool) : Char → Option Flags
  | 'i' => some { flags with ignoreCase := on }
  | 'm' => some { flags with multiLine := on }
  | 's' => some { flags with dotAll := on }
  | 'U' => some { flags with swapGreed := on }
  | 'u' => some { flags with unicode := on }
  | 'R' => some { flags with returns := on }
  | 'x' => some { flags with spaced := on }
  | _ => none

/-- Flag letters up to the sign that ends them: the letters seen, the flags, that sign, and what
follows it. A letter may stand once, and the sign that turns the letters behind it off must not
be the last. -/
def readFlags (flags : Flags) (on : Bool) (seen : List Char) :
    List Char → Option (List Char × Flags × Char × List Char)
  | [] => none
  | c :: cs =>
    if c == ':' || c == ')' then
      if seen.head? == some '-' then none else some (seen, flags, c, cs)
    else if seen.contains c then none
    else if c == '-' then readFlags flags false (c :: seen) cs
    else do readFlags (← flags.set? on c) on (c :: seen) cs

/-- Skips a comment to the end of its line. -/
def afterComment : List Char → List Char
  | [] => []
  | c :: cs => if c == '\n' then cs else afterComment cs

/-- Skips white space and, `fuel` times at most, comments. -/
def skipSpaces : Nat → List Char → List Char
  | 0, cs => cs
  | fuel + 1, cs =>
    match cs.dropWhile isBlank with
    | '#' :: rest => skipSpaces fuel (afterComment rest)
    | rest => rest

/-- Skips what does not count. -/
def Flags.skip (flags : Flags) (cs : List Char) : List Char :=
  if flags.spaced then skipSpaces (cs.length + 1) cs else cs

/-- The value of a hexadecimal digit. -/
def hexValue? (c : Char) : Option Nat :=
  if '0' ≤ c && c ≤ '9' then some (c.toNat - '0'.toNat)
  else if 'a' ≤ c && c ≤ 'f' then some (c.toNat - 'a'.toNat + 10)
  else if 'A' ≤ c && c ≤ 'F' then some (c.toNat - 'A'.toNat + 10)
  else none

/-- The character of a code point. -/
def charOfCode? (code : Nat) : Option Char :=
  if h : code.isValidChar then some (Char.ofNatAux code h) else none

/-- A number of a given count of hexadecimal digits. -/
def readHex (flags : Flags) : Nat → Nat → List Char → Option (Nat × List Char)
  | 0, value, cs => some (value, cs)
  | count + 1, value, cs =>
    match flags.skip cs with
    | c :: cs => do readHex flags count (16 * value + (← hexValue? c)) cs
    | [] => none

/-- Characters up to a closing brace. -/
def readBraced (flags : Flags) : Nat → List Char → List Char → Option (List Char × List Char)
  | 0, _, _ => none
  | fuel + 1, found, cs =>
    match flags.skip cs with
    | [] => none
    | '\x7d' :: rest => some (found.reverse, rest)
    | c :: rest => readBraced flags fuel (c :: found) rest

/-- The number of a list of hexadecimal digits, of which there is at least one. -/
def hexNumber? : List Char → Option Nat
  | [] => none
  | cs => cs.foldlM (fun value c => do return 16 * value + (← hexValue? c)) 0

/-- A character given by its code point, with so many digits or in braces. Without the classes of
all scripts, two digits give a byte, and a byte above U+007F is no character. -/
def readCode (flags : Flags) (digits : Nat) (cs : List Char) : Option (Char × List Char) :=
  match flags.skip cs with
  | '\x7b' :: cs => do
    let (found, cs) ← readBraced flags (cs.length + 1) [] cs
    return (← charOfCode? (← hexNumber? found), cs)
  | cs => do
    let (code, cs) ← readHex flags digits 0 cs
    if !flags.unicode && digits == 2 && 0x7f < code then none
    return (← charOfCode? code, cs)

/-- What one sign of a pattern stands for. -/
inductive Atom where
  | char (c : Char)
  | set (s : CharSet)
  | look (l : Look)

/-- A list of characters split at the first place where a list stands. -/
def splitAtFirst (mark : List Char) (found : List Char) :
    List Char → Option (List Char × List Char)
  | [] => none
  | c :: cs =>
    if mark.isPrefixOf (c :: cs) then some (found.reverse, (c :: cs).drop mark.length)
    else splitAtFirst mark (c :: found) cs

/-- The class that a text in braces names, and whether it is to be turned over. -/
def namedClass? (name : List Char) : Option (CharSet × Bool) :=
  match splitAtFirst ['!', '='] [] name with
  | some (property, value) => do
    return (← CharSet.property? (some (String.ofList property)) (String.ofList value), true)
  | none =>
    match splitAtFirst [':'] [] name <|> splitAtFirst ['='] [] name with
    | some (property, value) => do
      return (← CharSet.property? (some (String.ofList property)) (String.ofList value), false)
    | none => do return (← CharSet.property? none (String.ofList name), false)

/-- A set turned over or not; without the classes of all scripts, no set is turned over. -/
def Flags.turned (flags : Flags) (turned : Bool) (s : CharSet) : Option CharSet :=
  if !turned then some s else if flags.unicode then some (.compl s) else none

/-- A set up to case, if case does not count. -/
def Flags.fold (flags : Flags) (s : CharSet) : CharSet :=
  if flags.ignoreCase then if flags.unicode then .folded s else .foldedAscii s else s

/-- A class given by a property. -/
def readProperty (flags : Flags) (turned : Bool) (cs : List Char) :
    Option (CharSet × List Char) := do
  if !flags.unicode then none
  match flags.skip cs with
  | '\x7b' :: cs =>
    let (name, cs) ← readBraced flags (cs.length + 1) [] cs
    let (s, other) ← namedClass? name
    return (← flags.turned (turned != other) (flags.fold s), cs)
  | c :: cs =>
    if c == '\\' then none
    return (← flags.turned turned (flags.fold (← CharSet.property? none (String.singleton c))), cs)
  | [] => none

/-- Whether a character can stand in the name of a special edge of words. -/
def isEdgeName (c : Char) : Bool :=
  ('a' ≤ c && c ≤ 'z') || ('A' ≤ c && c ≤ 'Z') || c == '-'

/-- The edge of words behind a backslash and a small b: a plain one, or one named in braces. What
stands in the braces may also be a number of rounds, which is left alone. -/
def readEdge (flags : Flags) (cs : List Char) : Option (Look × List Char) :=
  match cs with
  | '\x7b' :: inner =>
    match flags.skip inner with
    | c :: _ =>
      if isEdgeName c then do
        let (name, rest) ← readBraced flags (inner.length + 1) [] inner
        match String.ofList name with
        | "start" => return (.wordStart flags.unicode, rest)
        | "end" => return (.wordEnd flags.unicode, rest)
        | "start-half" => return (.wordStartHalf flags.unicode, rest)
        | "end-half" => return (.wordEndHalf flags.unicode, rest)
        | _ => none
      else some (.wordEdge flags.unicode, cs)
    | [] => none
  | _ => some (.wordEdge flags.unicode, cs)

/-- Whether a character stands for itself behind a backslash: every ASCII character but letters,
digits and angle brackets. -/
def isEscapable (c : Char) : Bool :=
  c.toNat < 0x80 && !c.isAlphanum && c != '<' && c != '>'

/-- What follows a backslash. -/
def readEscape (flags : Flags) : List Char → Option (Atom × List Char)
  | [] => none
  | c :: cs =>
    let char (c : Char) : Option (Atom × List Char) := some (.char c, cs)
    let look (l : Look) : Option (Atom × List Char) := some (.look l, cs)
    let set (turned : Bool) (s : CharSet) : Option (Atom × List Char) := do
      return (.set (← flags.turned turned s), cs)
    match c with
    | 'x' => (readCode flags 2 cs).map fun (c, cs) => (.char c, cs)
    | 'u' => (readCode flags 4 cs).map fun (c, cs) => (.char c, cs)
    | 'U' => (readCode flags 8 cs).map fun (c, cs) => (.char c, cs)
    | 'p' => (readProperty flags false cs).map fun (s, cs) => (.set s, cs)
    | 'P' => (readProperty flags true cs).map fun (s, cs) => (.set s, cs)
    | 'd' => set false (.digits flags.unicode)
    | 's' => set false (.spaces flags.unicode)
    | 'w' => set false (.words flags.unicode)
    | 'D' => set true (.digits flags.unicode)
    | 'S' => set true (.spaces flags.unicode)
    | 'W' => set true (.words flags.unicode)
    | 'a' => char '\x07'
    | 'f' => char '\x0c'
    | 't' => char '\t'
    | 'n' => char '\n'
    | 'r' => char '\r'
    | 'v' => char '\x0b'
    | 'A' => look .textStart
    | 'z' => look .textEnd
    | 'b' => (readEdge flags cs).map fun (l, cs) => (.look l, cs)
    | 'B' => look (.noWordEdge flags.unicode)
    | '<' => look (.wordStart flags.unicode)
    | '>' => look (.wordEnd flags.unicode)
    | c => if isEscapable c then char c else none

end Pattern

end Dataflow
