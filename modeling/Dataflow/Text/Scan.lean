/-!
# Scanning a text from left to right

Matches that do not overlap are found by trying every place from left to right and going on behind
each match. Places are counted in bytes of the text's UTF-8 form.
-/

namespace Dataflow

/-- The number of bytes of a list of characters. -/
def byteLength : List Char → Nat
  | [] => 0
  | c :: cs => c.utf8Size + byteLength cs

@[simp] theorem byteLength_nil : byteLength [] = 0 :=
  rfl

@[simp] theorem byteLength_cons (c : Char) (cs : List Char) :
    byteLength (c :: cs) = c.utf8Size + byteLength cs :=
  rfl

/-- Bytes add up along a text. -/
@[simp] theorem byteLength_append (cs ds : List Char) :
    byteLength (cs ++ ds) = byteLength cs + byteLength ds := by
  induction cs with
  | nil => simp
  | cons c cs ih => simp [ih, Nat.add_assoc]

/-- The characters that begin at one of the bytes from `start` up to `stop`. -/
def between (start stop : Nat) (offset : Nat) : List Char → List Char
  | [] => []
  | c :: cs =>
    let rest := between start stop (offset + c.utf8Size) cs
    if start ≤ offset ∧ offset < stop then c :: rest else rest

/-- The part of a text between two places. -/
def textBetween (text : String) (start stop : Nat) : String :=
  String.ofList (between start stop 0 text.toList)

/-- The places of the matches that do not overlap. The number of characters matched at a place is
given by the character before it and those behind it, and is zero if there is no match; `skip` is
the number of characters left of the last match. -/
def scan (matched : Option Char → List Char → Nat) (skip : Nat) (before : Option Char)
    (offset : Nat) : List Char → List (Nat × Nat)
  | [] => []
  | c :: cs =>
    let next := offset + c.utf8Size
    match skip with
    | left + 1 => scan matched left (some c) next cs
    | 0 =>
      match matched before (c :: cs) with
      | 0 => scan matched 0 (some c) next cs
      | more + 1 =>
        (offset, next + byteLength (cs.take more)) :: scan matched more (some c) next cs

/-- The places of the occurrences of a word that do not overlap. -/
def occurrences (word : List Char) (text : List Char) : List (Nat × Nat) :=
  scan (fun _ cs => if word.isPrefixOf cs then word.length else 0) 0 none 0 text

end Dataflow
