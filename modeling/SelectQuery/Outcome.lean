import SelectQuery.Log
import SelectQuery.Table

/-!
# Outcomes

What a run comes to, as far as the program decides it: its output, the records that it shows in its
log, and how it ends. How tables, records and failures are put in words is not its own work, so that
it takes the formats for them from outside (`Formats`).
-/

namespace SelectQuery

/-- What a run complains about when it ends. -/
inductive Complaint where
  /-- A query cannot be read; the text shows where. -/
  | diagnostic (text : String)
  /-- Something around the program failed, for that reason. -/
  | failure (what reason : String)
  deriving DecidableEq, Repr

/-- How a run ends. -/
structure Exit where
  code : Nat
  complaint : Option Complaint
  deriving DecidableEq, Repr

/-- What a run comes to. -/
structure Outcome where
  output : String
  log : List LogRecord
  exit : Exit
  deriving DecidableEq, Repr

/-- What a run puts out, and its exit code. -/
structure Report where
  exitCode : Nat
  output : String
  errors : String
  deriving DecidableEq, Repr

/-- The texts that are made of tables, of records of the log and of failures with their reasons. -/
structure Formats where
  table : Table → String
  record : LogRecord → String
  failure : String → String → String

namespace Formats

variable (formats : Formats)

/-- The text of a complaint. -/
def complaint : Complaint → String
  | .diagnostic text => text ++ "\n"
  | .failure what reason => formats.failure what reason

/-- What is put out as errors: the log, and behind it the complaint if there is one. -/
def errors (log : List LogRecord) (last : Option Complaint) : String :=
  String.join (log.map formats.record ++ (last.map formats.complaint).toList)

/-- The report on a run. -/
def report (outcome : Outcome) : Report :=
  ⟨outcome.exit.code, outcome.output, formats.errors outcome.log outcome.exit.complaint⟩

end Formats

end SelectQuery
