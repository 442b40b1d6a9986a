/-!
# Lines of a text

A line feed ends a line. `pieces` cuts a text at its line feeds; `lines` are the lines as they are
shown, which lose a carriage return that stands before the line feed, and of which there is none
behind the last line feed unless something stands there.
-/

namespace SelectQuery.Text

/-- The parts of the text between its line feeds, of which there is one more than line feeds. -/
def pieces : List Char → List (List Char)
  | [] => [[]]
  | c :: cs => if c = '\n' then [] :: pieces cs else (pieces cs).modifyHead (c :: ·)

theorem length_pieces (cs : List Char) : (pieces cs).length = cs.count '\n' + 1 := by
  induction cs with
  | nil => rfl
  | cons c cs ih =>
    by_cases h : c = '\n'
    · simp [pieces, h, ih]
    · simp [pieces, h, ih]

theorem pieces_ne_nil (cs : List Char) : pieces cs ≠ [] := by
  intro h
  simpa [h] using length_pieces cs

/-- The parts of the text that end behind a line feed, and what stands behind the last one if that
    is not nothing. -/
def splitBehindFeeds : List Char → List (List Char)
  | [] => []
  | c :: cs =>
    if c = '\n' then [c] :: splitBehindFeeds cs
    else match splitBehindFeeds cs with
      | [] => [[c]]
      | part :: parts => (c :: part) :: parts

/-- The line without a carriage return at its end. -/
def dropReturn (line : List Char) : List Char :=
  if line.getLast? = some '\r' then line.dropLast else line

/-- The line without what ends it: a line feed, or a carriage return and a line feed. A carriage
    return alone ends no line. -/
def dropEnding (line : List Char) : List Char :=
  if line.getLast? = some '\n' then dropReturn line.dropLast else line

/-- The lines of the text. -/
def lines (cs : List Char) : List (List Char) :=
  (splitBehindFeeds cs).map dropEnding

/-- The line of that number, counted from one. A line that the text does not have is empty. -/
def lineText (cs : List Char) (number : Nat) : List Char :=
  (lines cs)[number - 1]?.getD []

end SelectQuery.Text
