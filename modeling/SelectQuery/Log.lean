import SelectQuery.Statement.Parse
import SelectQuery.Text.Quoted

/-!
# Log records

What is told about reading a query: each token and each recognised part at level `trace`, the query
itself and failures at level `debug`.
-/

namespace SelectQuery

open Text

/-- The levels of records, from the coarser to the finer. -/
inductive LogLevel where
  | debug
  | trace
  deriving DecidableEq, Repr

/-- The name of the level. -/
def LogLevel.name : LogLevel → String
  | .debug => "DEBUG"
  | .trace => "TRACE"

/-- Who writes a record. -/
inductive LogTarget where
  | evaluation
  | lexer
  | parser
  deriving DecidableEq, Repr

/-- The name of the target. -/
def LogTarget.name : LogTarget → String
  | .evaluation => "selectql::repl"
  | .lexer => "lexer"
  | .parser => "parser"

/-- A record of the log. -/
structure LogRecord where
  level : LogLevel
  target : LogTarget
  message : String
  deriving DecidableEq, Repr

/-- How much of the log is shown. -/
inductive Verbosity where
  | silent
  | debug
  | trace
  deriving DecidableEq, Repr

/-- Whether records of the level are shown. -/
def Verbosity.shows : Verbosity → LogLevel → Bool
  | .silent, _ => false
  | .debug, .debug => true
  | .debug, .trace => false
  | .trace, _ => true

namespace LogRecord

/-- The record of a query that is about to be read. -/
def ofInput (input : String) : LogRecord :=
  ⟨.debug, .evaluation, "Evaluating: " ++ input⟩

/-- The record of a token. -/
def ofToken (t : Token) : LogRecord :=
  ⟨.trace, .lexer, t.display⟩

/-- The record of what stopped a scan. -/
def ofFault (fault : ScanFault) : LogRecord :=
  let message := fault.error.message
  match fault with
  | .unexpectedChar c _ => ⟨.debug, .lexer, "Lexing failed on " ++ quotedChar c ++ ": " ++ message⟩
  | .unterminatedString _ _ => ⟨.debug, .lexer, "Lexing failed: " ++ message⟩

/-- The record of a recognised part of a statement. -/
def ofMilestone : Milestone → LogRecord
  | .columns names => ⟨.trace, .parser, "Columns: " ++ quotedList names⟩
  | .table name => ⟨.trace, .parser, "Table: " ++ name⟩
  | .condition c => ⟨.trace, .parser, "Where: " ++ c.display⟩

/-- The record of an error found in the tokens. -/
def ofParseError (e : QueryError) : LogRecord :=
  ⟨.debug, .parser, "Parsing failed: " ++ e.message⟩

end LogRecord

/-- The records of a scan: the tokens and what stopped it. -/
def Scan.records (s : Scan) : List LogRecord :=
  s.tokens.map .ofToken ++ (s.fault.map LogRecord.ofFault).toList

/-- The records of a parse: what was recognised, and the error. -/
def Parse.records (p : Parse) : List LogRecord :=
  p.milestones.map .ofMilestone ++
    match p.result with
    | .ok _ => []
    | .error e => [.ofParseError e]

/-- The records that are shown. -/
def Verbosity.shown (v : Verbosity) (records : List LogRecord) : List LogRecord :=
  records.filter fun r => v.shows r.level

end SelectQuery
