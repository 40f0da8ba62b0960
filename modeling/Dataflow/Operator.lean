import Dataflow.Flag

/-!
# Operators

An operator is a kind with its configuration, under a name. The kind fixes how many inputs an
operator has, whether it has an output, and how many workers it runs on.
-/

namespace Dataflow

/-- How a keyword query is matched. -/
inductive Matching where
  | conjunction
  | phrase
  | substring
  deriving DecidableEq, Repr, Inhabited

/-- The classes of entities that can be looked for. -/
inductive EntityType where
  | noun
  | verb
  | adjective
  | adverb
  | person
  | location
  | organization
  | money
  | percent
  | date
  | time
  | named
  deriving DecidableEq, Repr, Inhabited

/-- What a user function does with its tuples. -/
inductive FunctionRole where
  | map
  | filter
  | supervisedTraining
  | unsupervisedTraining
  deriving DecidableEq, Repr, Inhabited

namespace Matching

/-- All ways of matching. -/
def all : List Matching :=
  [.conjunction, .phrase, .substring]

/-- The name in a submitted plan. -/
def tag : Matching → String
  | .conjunction => "conjunction"
  | .phrase => "phrase"
  | .substring => "substring"

/-- The name in a description. -/
def label : Matching → String
  | .conjunction => "Conjunction"
  | .phrase => "Phrase"
  | .substring => "Substring"

end Matching

namespace EntityType

/-- All classes. -/
def all : List EntityType :=
  [.noun, .verb, .adjective, .adverb, .person, .location, .organization, .money, .percent, .date,
    .time, .named]

/-- The name in a submitted plan. -/
def tag : EntityType → String
  | .noun => "NOUN"
  | .verb => "VERB"
  | .adjective => "ADJECTIVE"
  | .adverb => "ADVERB"
  | .person => "PERSON"
  | .location => "LOCATION"
  | .organization => "ORGANIZATION"
  | .money => "MONEY"
  | .percent => "PERCENT"
  | .date => "DATE"
  | .time => "TIME"
  | .named => "NE_ALL"

/-- The name in a description. -/
def label : EntityType → String
  | .noun => "Noun"
  | .verb => "Verb"
  | .adjective => "Adjective"
  | .adverb => "Adverb"
  | .person => "Person"
  | .location => "Location"
  | .organization => "Organization"
  | .money => "Money"
  | .percent => "Percent"
  | .date => "Date"
  | .time => "Time"
  | .named => "NeAll"

end EntityType

namespace FunctionRole

/-- All roles. -/
def all : List FunctionRole :=
  [.map, .filter, .supervisedTraining, .unsupervisedTraining]

/-- The name in a submitted plan. -/
def tag : FunctionRole → String
  | .map => "map"
  | .filter => "filter"
  | .supervisedTraining => "supervised_training"
  | .unsupervisedTraining => "unsupervised_training"

/-- The name in a description. -/
def label : FunctionRole → String
  | .map => "Map"
  | .filter => "Filter"
  | .supervisedTraining => "SupervisedTraining"
  | .unsupervisedTraining => "UnsupervisedTraining"

/-- Whether tuples are worked on one by one; training needs all of them in one place. -/
def isParallel : FunctionRole → Bool
  | .map | .filter => true
  | .supervisedTraining | .unsupervisedTraining => false

end FunctionRole

/-- A function that users bring along. -/
structure UserFunction where
  role : FunctionRole
  script : Option String
  inputs : List String
  outputs : List Attribute
  batchSize : Nat
  workers : Option Nat
  deriving DecidableEq, Repr

/-- The kinds of operators, each with its configuration. -/
inductive OperatorKind where
  | scanSource (table : String)
  /-- Reads the rows of a table that a keyword query matches. -/
  | keywordSource (table query : String) (columns : List String) (matching : Matching)
    (result : String)
  | keywordMatcher (query : String) (columns : List String) (matching : Matching)
    (result : String)
  | patternMatcher (pattern : String) (columns : List String) (result : String)
  | fuzzyMatcher (query : String) (columns : List String) (threshold : Binary64)
    (result : String)
  | entityMatcher (entity : EntityType) (columns : List String) (result : String)
  | projection (columns : List String)
  | typeCasting (column : String) (target : AttributeType)
  | userFunction (function : UserFunction)
  /-- Joins the tuples of two inputs, the inner one first, whose spans are near each other. -/
  | join (innerColumn outerColumn : String) (threshold : Nat)
  | wordCountPartial (column : String)
  | wordCloud (limit : Nat)
  | tupleSink
  deriving DecidableEq, Repr

namespace OperatorKind

/-- The tags of all kinds, in the order of their declaration. -/
def tags : List String :=
  ["ScanSource", "KeywordSource", "KeywordMatcher", "RegexMatcher", "FuzzyTokenMatcher",
    "NlpEntity", "Projection", "TypeCasting", "PythonUdf", "Join", "WordCountPartial",
    "WordCloud", "TupleSink"]

/-- The tag of a kind, under which executors are registered. -/
def tag : OperatorKind → String
  | .scanSource _ => "ScanSource"
  | .keywordSource .. => "KeywordSource"
  | .keywordMatcher .. => "KeywordMatcher"
  | .patternMatcher .. => "RegexMatcher"
  | .fuzzyMatcher .. => "FuzzyTokenMatcher"
  | .entityMatcher .. => "NlpEntity"
  | .projection _ => "Projection"
  | .typeCasting .. => "TypeCasting"
  | .userFunction _ => "PythonUdf"
  | .join .. => "Join"
  | .wordCountPartial _ => "WordCountPartial"
  | .wordCloud _ => "WordCloud"
  | .tupleSink => "TupleSink"

/-- The number of inputs. -/
def inputArity : OperatorKind → Nat
  | .scanSource _ | .keywordSource .. => 0
  | .join .. => 2
  | _ => 1

/-- The number of outputs; an output can feed several consumers. -/
def outputArity : OperatorKind → Nat
  | .tupleSink => 0
  | _ => 1

/-- A source has no input. -/
def isSource (kind : OperatorKind) : Bool :=
  kind.inputArity == 0

/-- A sink has no output. -/
def isSink (kind : OperatorKind) : Bool :=
  kind.outputArity == 0

/-- The number of workers of a user function. -/
def functionWorkers (id : OperatorId) (standard : Nat) (function : UserFunction) : Result Nat :=
  match function.role.isParallel, function.workers with
  | true, some 0 => .error (.config (.zeroWorkers id))
  | true, some n => .ok n
  | true, none => .ok standard
  | false, some n =>
    if 1 < n then .error (.config (.severalWorkers id function.role.label n)) else .ok 1
  | false, none => .ok 1

/-- The number of workers an operator runs on. Kinds that look at tuples one by one take the
standard number; sources, joins, sinks and totals run on one worker. -/
def workers (id : OperatorId) (standard : Nat) : OperatorKind → Result Nat
  | .userFunction function => functionWorkers id (max standard 1) function
  | .keywordMatcher .. | .patternMatcher .. | .fuzzyMatcher .. | .entityMatcher ..
  | .projection _ | .typeCasting .. | .wordCountPartial _ => .ok (max standard 1)
  | .scanSource _ | .keywordSource .. | .join .. | .wordCloud _ | .tupleSink => .ok 1

end OperatorKind

/-- A named operator. -/
structure Operator where
  id : OperatorId
  kind : OperatorKind
  deriving DecidableEq, Repr

/-- The same configuration under another name. -/
def Operator.withId (operator : Operator) (id : OperatorId) : Operator :=
  { operator with id := id }

/-- The attribute of a counted word. -/
def wordName : String :=
  "word"

/-- The attribute of a count. -/
def countName : String :=
  "count"

/-- The schema of counted words. -/
def wordCountSchema : Schema :=
  ⟨[⟨wordName, .string⟩, ⟨countName, .integer⟩], by decide⟩

/-- The schema of changes to counted words. -/
def wordCloudSchema : Schema :=
  ⟨[flagAttribute, ⟨wordName, .string⟩, ⟨countName, .integer⟩], by decide⟩

end Dataflow
