/-!
# Locations

Line and column of a position in a text. A line feed starts a new line and every other character,
a carriage return too, takes one column.
-/

namespace SelectQuery

/-- A line and a column, both counted from one. -/
structure Location where
  line : Nat
  column : Nat
  deriving DecidableEq, Repr

namespace Location

/-- The beginning of a text. -/
def first : Location := ⟨1, 1⟩

/-- The location after a character. -/
def next (l : Location) (c : Char) : Location :=
  if c = '\n' then ⟨l.line + 1, 1⟩ else ⟨l.line, l.column + 1⟩

/-- The location after a text. -/
def after (cs : List Char) : Location :=
  cs.foldl next first

end Location

/-- The location of a position. A position behind the text is where the text ends. -/
def locate (source : String) (position : Nat) : Location :=
  Location.after (source.toList.take position)

end SelectQuery
