/-!
# Engines for patterns

Patterns are compiled and matched by an engine that is not a part of the program. Nothing is said
here of the patterns that it knows; whatever depends on it takes it as a parameter.
-/

namespace Dataflow

/-- A compiled pattern: gives the places of its matches in a text, in bytes, from left to right. -/
abbrev Search : Type :=
  String → List (Nat × Nat)

/-- An engine for patterns. -/
structure PatternEngine where
  /-- Compiles the text of a pattern, or says why it is no pattern. -/
  compile : String → Except String Search

end Dataflow
