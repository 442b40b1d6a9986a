import SelectQuery.Evaluation
import SelectQuery.Outcome

/-!
# Sessions

In a session lines are read one after the other and each is answered: a query is evaluated, and a
line that starts with a full stop, or is a question mark, is a command. `respond` answers one line,
`turn` says what one line of bytes comes to, and `run` plays a whole session.
-/

namespace SelectQuery

open Text

/-- The answers to a line. -/
inductive Response where
  /-- The session ends. -/
  | leave
  | help
  /-- The line is blank. -/
  | nothing
  /-- The line is a command that there is not. -/
  | unrecognised
  /-- The line asks for tokens. -/
  | tokens (answer : Answer)
  /-- The line is a query. -/
  | evaluated (answer : Answer)
  deriving DecidableEq, Repr

/-- The commands of a session. -/
inductive SessionCommand where
  | leave
  | help
  | tokens
  deriving DecidableEq, Repr

/-- The command of that name in small letters. -/
def SessionCommand.ofName? (name : String) : Option SessionCommand :=
  if name ∈ [".exit", ".quit", ".close"] then some .leave
  else if name ∈ [".help", ".h", "?", ".?"] then some .help
  else if name = ".tokens" then some .tokens
  else none

namespace Session

/-- The help on a session, without a line feed at the end. -/
def helpText : String :=
  "\n".intercalate
    ["Enter a query of the form SELECT <cols> FROM <table> [WHERE <col> <op> <value>].",
      "Meta commands:",
      "  .tokens <query>   show the tokens of a query",
      "  .help             show this message",
      "  .exit             leave"]

/-- What stands before each line. -/
def prompt : String := "> "

/-- Whether a line is a command. -/
def isCommand (line : String) : Bool :=
  line.toList.head? = some '.' || line = "?"

/-- The first word of a line in small letters, and what stands after the space behind it. -/
def splitCommand (line : String) : String × String :=
  let word := line.toList.takeWhile (· != ' ')
  let rest := (line.toList.dropWhile (· != ' ')).drop 1
  (String.ofList (lowerCase word), String.ofList rest)

/-- The command of a line, with the text that it is about. -/
def command? (line : String) : Option (SessionCommand × String) :=
  let (name, rest) := splitCommand line
  (SessionCommand.ofName? name).map fun c => (c, trim rest)

/-- The answer to a line. -/
def respond (showTokens : Bool) (line : String) : Response :=
  let line := trim line
  if line = "" then .nothing
  else if isCommand line then
    match command? line with
    | none => .unrecognised
    | some (.leave, _) => .leave
    | some (.help, _) => .help
    | some (.tokens, rest) => .tokens (evaluateTokens rest)
  else .evaluated (evaluate showTokens line)

/-- The records of answering a line. -/
def lineRecords (line : String) : List LogRecord :=
  let line := trim line
  if line = "" then []
  else if isCommand line then
    match command? line with
    | some (.tokens, rest) => tokenRecords rest
    | _ => []
  else evaluationRecords line

end Session

/-- What an answer puts out, where `draw` draws tables. -/
def Response.output (draw : Table → String) : Response → String
  | .leave => "Goodbye.\n"
  | .help => Session.helpText ++ "\n"
  | .nothing => ""
  | .unrecognised => "Error! Command not recognised.\n"
  | .tokens answer => answer.text draw ++ "\n"
  | .evaluated answer => answer.text draw ++ "\n"

/-- The reason why bytes cannot be taken as text. -/
def notText : String :=
  "stream did not contain valid UTF-8"

/-- The text that the bytes encode. -/
def decode? (bytes : List UInt8) : Option String :=
  String.fromUTF8? bytes.toByteArray

namespace Session

/-- How a session shows what it does. -/
structure Settings where
  showTokens : Bool
  verbosity : Verbosity
  deriving DecidableEq, Repr

/-- What one line comes to, and how the session ends if it ends with it. -/
structure Turn where
  output : String
  log : List LogRecord
  exit : Option Exit
  deriving DecidableEq, Repr

/-- What the end of the input comes to. -/
def atEnd : Outcome :=
  ⟨"\n", [], ⟨0, none⟩⟩

/-- The turn for a line of text. -/
def textTurn (draw : Table → String) (settings : Settings) (line : String) : Turn :=
  let response := respond settings.showTokens line
  ⟨response.output draw, settings.verbosity.shown (lineRecords line),
    if response = .leave then some ⟨0, none⟩ else none⟩

/-- The turn for a line of bytes. -/
def turn (draw : Table → String) (settings : Settings) (line : List UInt8) : Turn :=
  match decode? line with
  | none => ⟨"", [], some ⟨1, some (.failure "Failed to read from stdin." notText)⟩⟩
  | some text => textTurn draw settings text

/-- The first line of the bytes with its line feed, and what comes after it. -/
def splitLine : List UInt8 → List UInt8 × List UInt8
  | [] => ([], [])
  | b :: rest =>
    if b = 10 then ([b], rest)
    else
      let (line, later) := splitLine rest
      (b :: line, later)

theorem append_splitLine (bytes : List UInt8) :
    (splitLine bytes).1 ++ (splitLine bytes).2 = bytes := by
  induction bytes with
  | nil => rfl
  | cons b rest ih =>
    by_cases h : b = 10
    · simp [splitLine, h]
    · simp [splitLine, h, ih]

/-- A line takes a byte at least. -/
theorem length_splitLine_lt (b : UInt8) (rest : List UInt8) :
    (splitLine (b :: rest)).2.length < (b :: rest).length := by
  have all := congrArg List.length (append_splitLine rest)
  by_cases h : b = 10
  · simp [splitLine, h]
  · simp only [splitLine, h, if_false, List.length_cons]
    simp only [List.length_append] at all
    omega

/-- Plays a session on all of its input, up to the line that ends it. -/
def run (draw : Table → String) (settings : Settings) : List UInt8 → Outcome
  | [] => { atEnd with output := prompt ++ atEnd.output }
  | b :: rest =>
    let t := turn draw settings (splitLine (b :: rest)).1
    match t.exit with
    | some exit => ⟨prompt ++ t.output, t.log, exit⟩
    | none =>
      let later := run draw settings (splitLine (b :: rest)).2
      ⟨prompt ++ t.output ++ later.output, t.log ++ later.log, later.exit⟩
termination_by bytes => bytes.length
decreasing_by exact length_splitLine_lt b rest

end Session

end SelectQuery
