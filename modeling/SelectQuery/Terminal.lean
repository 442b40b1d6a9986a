import SelectQuery.Outcome
import SelectQuery.Evaluation
import SelectQuery.Table.Draw
import SelectQuery.Text.CharWidth
import SelectQuery.Text.Controls

/-!
# Formats at a terminal

How tables, records of the log and failures look at a terminal. The program leaves this to others,
and nothing but the command as a whole depends on it.
-/

namespace SelectQuery

open Text

/-- The table as it is drawn at a terminal. -/
def drawTable (t : Table) : String :=
  t.draw charWidth

/-- The table of tokens as text. -/
def renderTokens (ts : List Token) : String :=
  drawTable (.ofTokens ts)

/-- The table of a statement as text. -/
def renderStatement (st : Statement) : String :=
  drawTable (.ofStatement st)

/-- The answer as it is shown at a terminal, without a line feed at the end. -/
def Answer.render (answer : Answer) : String :=
  answer.text drawTable

/-- The record as it is shown, but for the time that stands in front of its level: the further lines
    of a message are indented, and there are no controls in it. A control sequence that the message
    leaves open takes in its end. -/
def LogRecord.display (r : LogRecord) : String :=
  let indented := r.message.toList.flatMap fun c =>
    if c = '\n' then '\n' :: List.replicate 4 ' ' else [c]
  withoutControls
    ("[" ++ r.level.name ++ " " ++ r.target.name ++ "] " ++ String.ofList indented ++ "\n")

/-- A failure of the surroundings, with its reason. -/
def failureText (what reason : String) : String :=
  "Error: " ++ what ++ "\n\nCaused by:\n    " ++ reason ++ "\n"

/-- The formats at a terminal. -/
def Formats.terminal : Formats :=
  ⟨drawTable, LogRecord.display, failureText⟩

end SelectQuery
