import SelectQuery.Location
import SelectQuery.QueryError
import SelectQuery.Text.Lines

/-!
# Diagnostics

An error is shown with the line it is on, and carets under the place:

    error: Unexpected token. (pos 10, len 1) Expected From, found Comma.
     --> line 1, column 11
      |
    1 | SELECT id,, name FROM users
      |           ^
-/

namespace SelectQuery

open Text

/-- As many spaces as that. -/
def spaces (n : Nat) : String :=
  String.ofList (List.replicate n ' ')

namespace Diagnostic

/-- How many carets go under a line: those of the span that have a character of the line above them,
    and one at least. -/
def caretCount (line : List Char) (column length : Nat) : Nat :=
  max 1 (min length (line.length - (column - 1)))

/-- The carets at their column. -/
def underline (line : List Char) (column length : Nat) : String :=
  spaces (column - 1) ++ String.ofList (List.replicate (caretCount line column length) '^')

/-- The five lines that show a message about a place, on its line and with carets under it. -/
def layout (message : String) (place : Location) (line : List Char) (carets : String) :
    List String :=
  let number := toString place.line
  let gutter := spaces number.length
  ["error: " ++ message,
    gutter ++ "--> line " ++ number ++ ", column " ++ toString place.column,
    gutter ++ " |",
    number ++ " | " ++ String.ofList line,
    gutter ++ " | " ++ carets]

/-- The five lines that show an error of the text. -/
def lines (source : String) (e : QueryError) : List String :=
  let place := locate source e.span.start
  let line := lineText source.toList place.line
  layout e.message place line (underline line place.column e.span.length)

end Diagnostic

/-- The error as it is shown, without a line feed at the end. -/
def renderError (source : String) (e : QueryError) : String :=
  "\n".intercalate (Diagnostic.lines source e)

end SelectQuery
