import Dataflow.Pattern.Basic

/-!
# Patterns that stand for words

A pattern may stand for a few words and nothing else. Such a pattern is written as the choice
between its words, so that parts of it that match nothing do not count for its size.
-/

namespace Dataflow

/-- The characters of a word. -/
abbrev Word : Type :=
  List Char

namespace Pattern

/-- The number of words that a pattern may stand for. -/
def wordsLimit : Nat :=
  250

/-- The number of bytes of a word. -/
def wordLengthLimit : Nat :=
  100

/-- The number of characters of a set whose characters are taken one by one. -/
def wordSetLimit : Nat :=
  10

/-- The number of rounds that are written out. -/
def wordRoundsLimit : Nat :=
  10

/-- The number of words that are told apart by their first bytes. -/
def wordChoiceLimit : Nat :=
  10

/-- Every word of a list with every word of another one behind it. -/
def wordsBehind (ws vs : List Word) : Option (List Word) :=
  if ws.length * vs.length ≤ wordsLimit then
    let both := (ws.flatMap fun w => vs.map (w ++ ·)).eraseReps
    if both.all (byteLength · ≤ wordLengthLimit) then some both else none
  else none

/-- The words of both lists. -/
def wordsOfEither (ws vs : List Word) : Option (List Word) :=
  if ws.length + vs.length ≤ wordsLimit then some (ws ++ vs).eraseReps else none

/-- Several times the same words, behind some others. -/
def wordsRepeated (vs : List Word) : Nat → List Word → Option (List Word)
  | 0, ws => some ws
  | _, [] => some []
  | n + 1, ws => do wordsRepeated vs n (← wordsBehind ws vs)

/-- The words that a pattern stands for, in the order of preference, if it stands for nothing else.
What is behind a pattern without any words does not matter. -/
def words? : Pattern → Option (List Word)
  | empty | look _ => some [[]]
  | text cs => wordsBehind [[]] [cs]
  | set s =>
    let number := s.ranges.foldl (fun n (a, b) => n + (b + 1 - a)) 0
    if number ≤ wordSetLimit then
      some (s.ranges.flatMap fun (a, b) =>
        (List.range (b + 1 - a)).map fun i => [Char.ofNat (a + i)])
    else none
  | seq p q => do
    match ← p.words? with
    | [] => return []
    | ws => wordsBehind ws (← q.words?)
  | alt p q => do wordsOfEither (← p.words?) (← q.words?)
  | rounds greedy least most p => do
    let vs ← p.words?
    if least = 0 then
      if most = some 1 || vs.isEmpty then
        if greedy then wordsOfEither vs [[]] else wordsOfEither [[]] vs
      else none
    else
      match ← wordsRepeated vs (min least wordRoundsLimit) [[]] with
      | [] => return []
      | ws => if some least = most && least ≤ wordRoundsLimit then return ws else none
  | group _ p => p.words?

/-- Whether a pattern has neither groups that count nor conditions. -/
def isPlain : Pattern → Bool
  | empty | text _ | set _ => true
  | look _ | group _ _ => false
  | seq p q | alt p q => p.isPlain && q.isPlain
  | rounds _ _ _ p => p.isPlain

/-- The first byte of a word. -/
def firstByte (w : Word) : Option UInt8 :=
  (w.flatMap String.utf8EncodeChar).head?

/-- Whether words can be looked for by themselves: there is one, or a few that do not all begin with
the same byte, and the empty one is not among them. -/
def areDistinct : List Word → Bool
  | [] => false
  | w :: ws =>
    (w :: ws).all (!·.isEmpty) &&
      (ws.isEmpty || (ws.length < wordChoiceLimit && !ws.all (firstByte · == firstByte w)))

/-- The pattern, written as the choice between its words if it stands for a few. -/
def spelled (p : Pattern) : Pattern :=
  match if p.isPlain then p.words? else none with
  | some ws => if areDistinct ws then ofBranches (ws.map text) else p
  | none => p

end Pattern

end Dataflow
