import Mathlib.Data.List.Forall2
import SelectQuery.Proofs.Responses
import SelectQuery.Terminal

/-!
# Sessions line by line

A session answers each line for itself. Where its input begins with whole lines of text that do not
end it, it puts out the prompt and the response to each and goes on with what follows as if that
were all of its input (`run_lines`). What follows can end it in three ways: with a line that leaves
the session, with a line that is no text, and with the end of the input, which may come in the
middle of a line. One step of a session is the turn for one line (`run_firstLine`); the whole lines
are an induction on it.
-/

namespace SelectQuery

namespace Session

/-! ## Lines of the input -/

/-- The byte of a line feed. -/
def feed : UInt8 := 10

/-- The bytes are a line with its line feed, and encode the text. -/
structure WholeLine (bytes : List UInt8) (text : String) : Prop where
  ends : ∃ body, feed ∉ body ∧ bytes = body ++ [feed]
  encodes : decode? bytes = some text

/-- What stands before `later` in the input is a line: it ends with its line feed, or with the
    input. -/
inductive FirstLine : List UInt8 → List UInt8 → Prop
  | whole {body later : List UInt8} : feed ∉ body → FirstLine (body ++ [feed]) later
  | broken {line : List UInt8} : line ≠ [] → feed ∉ line → FirstLine line []

theorem WholeLine.firstLine {bytes : List UInt8} {text : String} (line : WholeLine bytes text)
    (later : List UInt8) : FirstLine bytes later := by
  obtain ⟨body, single, rfl⟩ := line.ends
  exact .whole single

theorem splitLine_whole {body : List UInt8} (single : feed ∉ body) (later : List UInt8) :
    splitLine (body ++ feed :: later) = (body ++ [feed], later) := by
  induction body with
  | nil => rfl
  | cons b body ih =>
    simp only [List.mem_cons, not_or] at single
    have other : b ≠ 10 := Ne.symm single.1
    simp [splitLine, other, ih single.2]

theorem splitLine_broken {line : List UInt8} (single : feed ∉ line) :
    splitLine line = (line, []) := by
  induction line with
  | nil => rfl
  | cons b line ih =>
    simp only [List.mem_cons, not_or] at single
    have other : b ≠ 10 := Ne.symm single.1
    simp [splitLine, other, ih single.2]

theorem FirstLine.splitLine {line later : List UInt8} (first : FirstLine line later) :
    splitLine (line ++ later) = (line, later) := by
  cases first with
  | whole single =>
    rw [List.append_assoc]
    exact splitLine_whole single later
  | broken _ single =>
    rw [List.append_nil]
    exact splitLine_broken single

/-! ## One turn -/

variable {draw : Table → String} {settings : Settings} {line later : List UInt8} {text : String}

/-- A session plays the turn of its first line and goes on behind it, if that does not end it. -/
theorem run_firstLine (draw : Table → String) (settings : Settings) (first : FirstLine line later) :
    run draw settings (line ++ later) =
      match (turn draw settings line).exit with
      | some exit =>
        ⟨prompt ++ (turn draw settings line).output, (turn draw settings line).log, exit⟩
      | none =>
        ⟨prompt ++ (turn draw settings line).output ++ (run draw settings later).output,
          (turn draw settings line).log ++ (run draw settings later).log,
          (run draw settings later).exit⟩ := by
  have split := first.splitLine
  cases bytes : line ++ later with
  | nil =>
    cases first with
    | whole _ => simp at bytes
    | broken nonempty _ => simp [nonempty] at bytes
  | cons b rest =>
    rw [bytes] at split
    cases exit : (turn draw settings line).exit with
    | none => simp [run, split, exit]
    | some code => simp [run, split, exit]

/-- A line that leaves a session is no query, and nothing is told about it. -/
theorem lineRecords_of_leave {showTokens : Bool} (leaves : respond showTokens text = .leave) :
    lineRecords text = [] := by
  unfold respond at leaves
  unfold lineRecords
  dsimp only at leaves ⊢
  by_cases blank : Text.trim text = ""
  · rw [if_pos blank]
  · rw [if_neg blank] at leaves ⊢
    by_cases command : isCommand (Text.trim text) = true
    · rw [if_pos command] at leaves ⊢
      cases found : command? (Text.trim text) with
      | none => rfl
      | some entry =>
        obtain ⟨name, rest⟩ := entry
        cases name with
        | leave | help => rfl
        | tokens => simp [found] at leaves
    · rw [if_neg command] at leaves
      cases leaves

theorem turn_of_leave (encodes : decode? line = some text)
    (leaves : respond settings.showTokens text = .leave) :
    turn draw settings line = ⟨"Goodbye.\n", [], some ⟨0, none⟩⟩ := by
  simp [turn, encodes, textTurn, leaves, lineRecords_of_leave leaves, Response.output,
    Verbosity.shown]

theorem turn_of_stay (encodes : decode? line = some text)
    (stays : respond settings.showTokens text ≠ .leave) :
    turn draw settings line = ⟨(respond settings.showTokens text).output draw,
      settings.verbosity.shown (lineRecords text), none⟩ := by
  simp [turn, encodes, textTurn, stays]

theorem turn_of_noText (noText : decode? line = none) :
    turn draw settings line =
      ⟨"", [], some ⟨1, some (.failure "Failed to read from stdin."
        "stream did not contain valid UTF-8")⟩⟩ := by
  simp [turn, noText, SelectQuery.notText]

/-- A line of text that does not end the session is answered, and the session goes on. -/
theorem run_of_stay (first : FirstLine line later) (encodes : decode? line = some text)
    (stays : respond settings.showTokens text ≠ .leave) :
    run draw settings (line ++ later) =
      ⟨"> " ++ (respond settings.showTokens text).output draw ++ (run draw settings later).output,
        settings.verbosity.shown (lineRecords text) ++ (run draw settings later).log,
        (run draw settings later).exit⟩ := by
  rw [run_firstLine draw settings first, turn_of_stay encodes stays]
  rfl

theorem run_nil (draw : Table → String) (settings : Settings) :
    run draw settings [] = ⟨"> \n", [], ⟨0, none⟩⟩ := by
  rw [run]
  rfl

/-! ## Whole lines -/

/-- The bytes of the lines, each given with its text. -/
def input (lines : List (List UInt8 × String)) : List UInt8 :=
  lines.flatMap Prod.fst

/-- What is told about the lines. -/
def log (settings : Settings) (lines : List (List UInt8 × String)) : List LogRecord :=
  lines.flatMap fun line => settings.verbosity.shown (lineRecords line.2)

/-- Nothing is told at the level `silent`. -/
theorem log_of_silent (silent : settings.verbosity = .silent)
    (lines : List (List UInt8 × String)) : log settings lines = [] := by
  simp [log, silent, Verbosity.shown, Verbosity.shows]

/-- Each of the lines has its response unless one leaves the session. -/
theorem forall₂_responds_iff {showTokens : Bool} {lines : List (List UInt8 × String)}
    {responses : List String} :
    List.Forall₂ (fun line response => Responds draw showTokens line.2 response) lines responses ↔
      (∀ line ∈ lines, respond showTokens line.2 ≠ .leave) ∧
        lines.map (fun line => (respond showTokens line.2).output draw) = responses := by
  induction lines generalizing responses with
  | nil => simp [eq_comm]
  | cons line lines ih =>
    rw [List.forall₂_cons_left_iff]
    constructor
    · rintro ⟨response, responses, responds, later, rfl⟩
      obtain ⟨stay, rfl⟩ := responds_iff.mp responds
      obtain ⟨stays, rfl⟩ := ih.mp later
      exact ⟨List.forall_mem_cons.mpr ⟨stay, stays⟩, rfl⟩
    · rintro ⟨stays, rfl⟩
      obtain ⟨stay, stays⟩ := List.forall_mem_cons.mp stays
      exact ⟨_, _, responds_iff.mpr ⟨stay, rfl⟩, ih.mpr ⟨stays, rfl⟩, rfl⟩

theorem run_input_append {lines : List (List UInt8 × String)}
    (whole : ∀ line ∈ lines, WholeLine line.1 line.2)
    (stays : ∀ line ∈ lines, respond settings.showTokens line.2 ≠ .leave) (later : List UInt8) :
    run draw settings (input lines ++ later) =
      ⟨String.join ((lines.map fun line => (respond settings.showTokens line.2).output draw).map
          ("> " ++ ·)) ++ (run draw settings later).output,
        log settings lines ++ (run draw settings later).log, (run draw settings later).exit⟩ := by
  induction lines with
  | nil => simp [input, log]
  | cons line lines ih =>
    obtain ⟨first, whole⟩ := List.forall_mem_cons.mp whole
    obtain ⟨stay, stays⟩ := List.forall_mem_cons.mp stays
    have split : input (line :: lines) ++ later = line.1 ++ (input lines ++ later) := by
      simp [input]
    rw [split, run_of_stay (first.firstLine _) first.encodes stay, ih whole stays]
    simp [log, String.append_assoc]

/-! ## Main result -/

/-- Whole lines of text that do not leave a session are answered one by one, each after the prompt
    and for itself, and the session goes on with the rest of its input as if that were all. It ends
    with the first line that leaves it or is no text, or with its input. -/
theorem run_lines (draw : Table → String) (settings : Settings)
    (lines : List (List UInt8 × String)) (later : List UInt8)
    (whole : ∀ line ∈ lines, WholeLine line.1 line.2)
    (stays : ∀ line ∈ lines, respond settings.showTokens line.2 ≠ .leave) :
    (∃ responses,
      List.Forall₂ (fun line response => Responds draw settings.showTokens line.2 response)
        lines responses ∧
      run draw settings (input lines ++ later) =
        ⟨String.join (responses.map ("> " ++ ·)) ++ (run draw settings later).output,
          log settings lines ++ (run draw settings later).log,
          (run draw settings later).exit⟩) ∧
    (settings.verbosity = .silent →
      (run draw settings (input lines ++ later)).log = (run draw settings later).log) ∧
    (later = [] → run draw settings later = ⟨"> \n", [], ⟨0, none⟩⟩) ∧
    ∀ line rest, later = line ++ rest → FirstLine line rest →
      (∀ text, decode? line = some text → respond settings.showTokens text = .leave →
        run draw settings later = ⟨"> Goodbye.\n", [], ⟨0, none⟩⟩) ∧
      (decode? line = none →
        run draw settings later = ⟨"> ", [], ⟨1, some (.failure "Failed to read from stdin."
          "stream did not contain valid UTF-8")⟩⟩) ∧
      (∀ text, decode? line = some text → respond settings.showTokens text ≠ .leave → rest = [] →
        ∃ response, Responds draw settings.showTokens text response ∧
          run draw settings later = ⟨"> " ++ response ++ "> \n",
            settings.verbosity.shown (lineRecords text), ⟨0, none⟩⟩) := by
  have run_eq : run draw settings (input lines ++ later) = _ := run_input_append whole stays later
  refine ⟨⟨_, forall₂_responds_iff.mpr ⟨stays, rfl⟩, run_eq⟩, ?_, ?_, ?_⟩
  · intro silent
    rw [run_eq, log_of_silent silent, List.nil_append]
  · rintro rfl
    exact run_nil draw settings
  · rintro line rest rfl first
    refine ⟨?_, ?_, ?_⟩
    · intro text encodes leaves
      rw [run_firstLine draw settings first, turn_of_leave encodes leaves]
      rfl
    · intro noText
      rw [run_firstLine draw settings first, turn_of_noText noText]
      rfl
    · rintro text encodes stay rfl
      refine ⟨_, responds_iff.mpr ⟨stay, rfl⟩, ?_⟩
      rw [run_of_stay first encodes stay, run_nil, List.append_nil]

/-- A query that fails, a blank line, a command that there is not, the help, a request for tokens
    and a query that succeeds are answered, and what stands behind the line that leaves the session,
    which is no text, is never read. -/
theorem run_lines_each :
    let settings : Settings := ⟨false, .silent⟩
    let lines : List (List UInt8 × String) :=
      [([115, 101, 108, 101, 99, 116, 10], "select\n"), ([9, 10], "\t\n"), ([46, 98, 10], ".b\n"),
        ([46, 72, 101, 108, 112, 10], ".Help\n"),
        ([46, 116, 111, 107, 101, 110, 115, 32, 97, 10], ".tokens a\n"),
        ([115, 101, 108, 101, 99, 116, 32, 97, 32, 102, 114, 111, 109, 32, 116, 10],
          "select a from t\n")]
    let later : List UInt8 := [46, 81, 117, 105, 116, 10] ++ [255]
    (∀ line ∈ lines, WholeLine line.1 line.2) ∧
    (∀ line ∈ lines, respond settings.showTokens line.2 ≠ .leave) ∧
    run drawTable settings (input lines ++ later) =
      ⟨"> error: Unexpected token. (pos 6, len 0) Expected From, found EndOfInput.\n" ++
        " --> line 1, column 7\n  |\n1 | select\n  |       ^\n" ++
        "> > Error! Command not recognised.\n" ++
        "> Enter a query of the form SELECT <cols> FROM <table> [WHERE <col> <op> <value>].\n" ++
        "Meta commands:\n" ++
        "  .tokens <query>   show the tokens of a query\n" ++
        "  .help             show this message\n" ++
        "  .exit             leave\n" ++
        "> +------------+------+-------+--------+\n" ++
        "| kind       | text | start | length |\n" ++
        "+------------+------+-------+--------+\n" ++
        "| Identifier | a    | 0     | 1      |\n" ++
        "+------------+------+-------+--------+\n" ++
        "| EndOfInput |      | 1     | 0      |\n" ++
        "+------------+------+-------+--------+\n" ++
        "> +---------+---+\n| columns | a |\n+---------+---+\n| table   | t |\n+---------+---+\n" ++
        "SELECT a FROM t\n" ++
        "> Goodbye.\n", [], ⟨0, none⟩⟩ := by
  intro settings lines later
  have ends : ∀ line ∈ lines, feed ∉ line.1.dropLast ∧ line.1 = line.1.dropLast ++ [feed] ∧
      decode? line.1 = some line.2 := by
    decide +kernel
  have whole : ∀ line ∈ lines, WholeLine line.1 line.2 := by
    intro line member
    obtain ⟨single, split, encodes⟩ := ends line member
    exact ⟨⟨_, single, split⟩, encodes⟩
  have stays : ∀ line ∈ lines, respond settings.showTokens line.2 ≠ .leave := by
    decide +kernel
  obtain ⟨⟨responses, responds, run_eq⟩, -, -, ended⟩ :=
    run_lines drawTable settings lines later whole stays
  obtain ⟨-, rfl⟩ := forall₂_responds_iff.mp responds
  have single : feed ∉ [46, 81, 117, 105, 116] := by
    decide
  have first : FirstLine [46, 81, 117, 105, 116, 10] [255] := .whole single
  obtain ⟨leaves, -⟩ := ended [46, 81, 117, 105, 116, 10] [255] rfl first
  have left := leaves ".Quit\n" (by decide +kernel) (by decide +kernel)
  refine ⟨whole, stays, ?_⟩
  rw [run_eq, left, log_of_silent rfl]
  decide +kernel

end Session

end SelectQuery
