import Dataflow.Text.CodePoints

/-!
# Blank characters

White space of every script, and texts with the white space at both ends taken off.
-/

namespace Dataflow

/-- The code points with the property White_Space. -/
def blanks : CodePoints := ⟨
  [0x9, 0xe, 0x20, 0x21, 0x85, 0x86, 0xa0, 0xa1, 0x1680, 0x1681, 0x2000, 0x200b, 0x2028, 0x202a,
   0x202f, 0x2030, 0x205f, 0x2060, 0x3000, 0x3001]⟩

/-- White space of any script. -/
def isBlank (c : Char) : Bool :=
  blanks.contains c

/-- A text without the white space at its two ends. -/
def trimBlanks (s : String) : String :=
  String.ofList (((s.toList.dropWhile isBlank).reverse.dropWhile isBlank).reverse)

end Dataflow
