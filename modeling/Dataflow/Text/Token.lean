import Dataflow.Text.Alphanumeric
import Dataflow.Text.Lowercase
import Dataflow.Text.Scan

/-!
# Words of a text

The tokens of a text are its longest runs of letters and digits. A token is compared by its
lower-case form and knows its place in the text.
-/

namespace Dataflow

/-- A word at a place of a text. -/
structure Token where
  start : Nat
  stop : Nat
  term : String
  deriving DecidableEq, Repr

/-- The token of a run of characters, which is given in reverse order. -/
def Token.ofRun (start stop : Nat) (run : List Char) : Token :=
  ⟨start, stop, lowercase (String.ofList run.reverse)⟩

/-- The tokens of the characters from an offset on, where `run` holds the characters of a token
that has begun before, in reverse order, and `start` its offset. -/
def tokensFrom (start : Nat) (run : List Char) (offset : Nat) : List Char → List Token
  | [] => if run.isEmpty then [] else [.ofRun start offset run]
  | c :: cs =>
    let next := offset + c.utf8Size
    if isAlphanumeric c then
      tokensFrom (if run.isEmpty then offset else start) (c :: run) next cs
    else if run.isEmpty then tokensFrom next [] next cs
    else .ofRun start offset run :: tokensFrom next [] next cs

/-- The tokens of a text, in order. -/
def tokens (text : String) : List Token :=
  tokensFrom 0 [] 0 text.toList

/-- The terms of a text, in order. -/
def terms (text : String) : List String :=
  (tokens text).map Token.term

end Dataflow
