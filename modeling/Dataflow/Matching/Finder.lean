import Dataflow.Matching.Engine
import Dataflow.Operator
import Dataflow.Text.Scan
import Dataflow.Text.Token

/-!
# Finding matches in a text

A finder looks for the matches of one query in the text of an attribute and gives them as spans.
-/

namespace Dataflow

/-- What is looked for. -/
inductive Finder where
  | keywords (query : String) (matching : Matching)
  | pattern (text : String) (search : Search)
  /-- Enough of the words of a query, each of which is listed once. -/
  | fuzzy (terms : List String) (threshold : Binary64)

/-- The span between two places of a text. -/
def Span.ofText (column text key : String) (start stop : Nat) : Span :=
  ⟨column, start, stop, key, textBetween text start stop⟩

namespace Finder

/-- Every occurrence of a term among the tokens of a text. -/
def findTerm (column text : String) (tokens : List Token) (term : String) : List Span :=
  (tokens.filter (·.term == term)).map fun token =>
    .ofText column text term token.start token.stop

/-- The occurrences of all terms, each span once, in the order of the text; nothing unless every
term occurs. -/
def findAllTerms (column text : String) (terms : List String) : List Span :=
  let found := terms.map (findTerm column text (tokens text))
  if found.any List.isEmpty then []
  else (found.flatten.mergeSort fun s t =>
    s.start < t.start || (s.start == t.start && s.stop ≤ t.stop)).eraseReps

/-- The last token of a run of tokens that has the given terms in order. -/
def phraseEnd? : List String → Token → List Token → Option Token
  | [], last, _ => some last
  | _ :: _, _, [] => none
  | term :: terms, _, token :: tokens =>
    if token.term == term then phraseEnd? terms token tokens else none

/-- The runs of consecutive tokens that have the given terms in order. -/
def findPhrase (column text query : String) (terms : List String) : List Token → List Span
  | [] => []
  | token :: rest =>
    match phraseEnd? terms token (token :: rest) with
    | some last =>
      .ofText column text query token.start last.stop :: findPhrase column text query terms rest
    | none => findPhrase column text query terms rest

/-- The occurrences of a query that do not overlap, letter by letter and regardless of the case of
the letters from A to Z. -/
def findSubstring (column text query : String) : List Span :=
  let fold (s : String) : List Char := s.toList.map Char.toLower
  (occurrences (fold query) (fold text)).map fun (start, stop) =>
    .ofText column text query start stop

/-- The occurrences of a query's words, if the share of them that occurs reaches the threshold. -/
def findShare (column text : String) (terms : List String) (threshold : Binary64) : List Span :=
  let hits := (tokens text).filter fun token => terms.contains token.term
  let present := terms.filter fun term => hits.any (·.term == term)
  let share := (Binary64.ofNat present.length).div (.ofNat terms.length)
  if present.isEmpty || share.lt threshold then []
  else hits.map fun token => .ofText column text token.term token.start token.stop

/-- The matches in the text of an attribute. -/
def find (column text : String) : Finder → List Span
  | keywords query .conjunction => findAllTerms column text (terms query)
  | keywords query .phrase => findPhrase column text query (terms query) (tokens text)
  | keywords query .substring => findSubstring column text query
  | pattern key search =>
    ((search text).map fun (start, stop) => .ofText column text key start stop).filter
      fun span => !span.value.isEmpty
  | fuzzy terms threshold => findShare column text terms threshold

/-- The matches in several attributes of a tuple; an attribute without value has none. -/
def findIn (finder : Finder) (t : Tuple) (columns : List String) : Result (List Span) := do
  let found ← columns.mapM fun column => do
    match ← t.getText? column with
    | some text => return finder.find column text
    | none => return []
  return found.flatten

/-- A finder of the words of a query, which has to have one. -/
def ofKeywords (id : OperatorId) (query : String) (matching : Matching) : Result Finder :=
  if (terms query).isEmpty then .error (.config (.emptyKeywords id))
  else .ok (.keywords query matching)

/-- A finder of the matches of a pattern, which an engine has to accept. -/
def ofPattern (engine : PatternEngine) (id : OperatorId) (text : String) : Result Finder :=
  match engine.compile text with
  | .ok search => .ok (.pattern text search)
  | .error reason => .error (.config (.badPattern id text reason))

/-- A finder of a share of the words of a query, which has to have one. The share is above 0 and
at most 1. -/
def ofShare (id : OperatorId) (query : String) (threshold : Binary64) : Result Finder :=
  if !((Binary64.zero false).lt threshold && threshold.le (.ofNat 1)) then
    .error (.config (.fuzzyThreshold id threshold))
  else if (terms query).isEmpty then .error (.config (.emptyFuzzyQuery id))
  else .ok (.fuzzy (terms query).eraseDups threshold)

end Finder

/-- A finder, where it looks, and the schema of what it gives. -/
structure Matcher where
  finder : Finder
  columns : List String
  schema : Schema

/-- A tuple with its matches behind it, or nothing if it has none. -/
def Matcher.apply (m : Matcher) (t : Tuple) : Result (Option Tuple) := do
  let spans ← m.finder.findIn t m.columns
  if spans.isEmpty then return none
  return some (← t.append m.schema (.list spans))

end Dataflow
