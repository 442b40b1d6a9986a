import SelectQuery.Folder
import SelectQuery.Request
import SelectQuery.Session
import SelectQuery.Terminal

/-!
# The command

A whole run of the command: what it puts out and its exit code, from its arguments, the files that
it can read and its input.
-/

namespace SelectQuery

/-- The reason why a file cannot be read, as the system words it. -/
def FileFault.reason : FileFault → String
  | .notFound => "No such file or directory (os error 2)"
  | .notAllowed => "Permission denied (os error 13)"
  | .isFolder => "Is a directory (os error 21)"
  | .notFolder => "Not a directory (os error 20)"
  | .nameTooLong => "File name too long (os error 36)"
  | .notText => SelectQuery.notText
  | .other reason => reason

namespace Command

/-- The help on the command. -/
def helpText : String :=
  "\n".intercalate
    ["Tokenize and parse `SELECT <cols> FROM <table> [WHERE <col> <op> <value>]` queries",
      "",
      "Usage: selectql [OPTIONS] [QUERY]",
      "",
      "Arguments:",
      "  [QUERY]  Query to evaluate once. Starts a REPL if neither this nor --file is given",
      "",
      "Options:",
      "  -f, --file <FILE>  Read the query from a file instead",
      "      --tokens       Print the token table alongside the statement",
      "  -v, --verbose...   Raise the log level (-v debug, -vv trace). RUST_LOG takes precedence",
      "  -h, --help         Print help",
      "  -V, --version      Print version",
      ""]

/-- The name and number of the command. -/
def versionText : String :=
  "cli 0.1.0\n"

/-- What is put out before a session. -/
def banner : String :=
  "selectql\n"

/-- The report on arguments that set no task. -/
def stopReport : ArgumentStop → Report
  | .help => ⟨0, helpText, ""⟩
  | .version => ⟨0, versionText, ""⟩
  | .misuse m => ⟨2, "", m.message⟩

variable (draw : Table → String)

/-- What a query comes to: its answer, which is a complaint if the query cannot be read. -/
def queryOutcome (r : Request) (input : String) : Outcome :=
  let log := r.verbosity.shown (evaluationRecords input)
  let text := (evaluate r.showTokens input).text draw
  if (evaluate r.showTokens input).isOk then ⟨text ++ "\n", log, ⟨0, none⟩⟩
  else ⟨"", log, ⟨1, some (.diagnostic text)⟩⟩

/-- What a file with the given content comes to. Blanks at its end do not count. -/
def fileOutcome (r : Request) (path : String) (content : Except FileFault (List UInt8)) :
    Outcome :=
  let text := do
    let bytes ← content
    match decode? bytes with
    | none => .error .notText
    | some text => .ok text
  match text with
  | .error fault =>
    ⟨"", [], ⟨1, some (.failure ("Failed to open file " ++ path ++ ".") fault.reason)⟩⟩
  | .ok text => queryOutcome draw r (Text.trimEnd text)

/-- The settings of the session that is asked for. -/
def settings (r : Request) : Session.Settings :=
  ⟨r.showTokens, r.verbosity⟩

/-- What a session with that input comes to. -/
def sessionOutcome (r : Request) (input : List UInt8) : Outcome :=
  let outcome := Session.run draw (settings r) input
  { outcome with output := banner ++ outcome.output }

/-- What the request comes to. -/
def outcome (folder : Folder) (r : Request) (input : List UInt8) : Outcome :=
  match r.task with
  | .query text => queryOutcome draw r text
  | .file path => fileOutcome draw r path (folder.read path)
  | .session => sessionOutcome draw r input

/-- The report on a run of the command, with the formats. -/
def report (formats : Formats) (folder : Folder) (arguments : List String) (input : List UInt8) :
    Report :=
  match Request.ofArguments arguments with
  | .error stop => stopReport stop
  | .ok r => formats.report (outcome formats.table folder r input)

/-- Runs the command at a terminal. -/
def run (folder : Folder) (arguments : List String) (input : List UInt8) : Report :=
  report .terminal folder arguments input

end Command

end SelectQuery
