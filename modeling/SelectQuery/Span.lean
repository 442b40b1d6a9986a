/-!
# Spans

A stretch of a text, counted in characters. Both numbers of a span are words of 64 bits, so the
position after its last character need not be one.
-/

namespace SelectQuery

/-- The characters of a text from `start` on, `length` of them. -/
structure Span where
  start : Nat
  length : Nat
  deriving DecidableEq, Repr

namespace Span

/-- The span of no characters at the beginning. -/
def zero : Span := ⟨0, 0⟩

/-- How many words there are: the largest is one less. -/
def wordCount : Nat := UInt64.size

/-- The position after the last character, if it fits into a word. -/
def end? (s : Span) : Option Nat :=
  if s.start + s.length < wordCount then some (s.start + s.length) else none

/-- The span as messages name it. -/
def display (s : Span) : String :=
  "pos " ++ toString s.start ++ ", len " ++ toString s.length

end Span

end SelectQuery
