import Mathlib.Data.List.TakeWhile
import SelectQuery.Session

/-!
# What a session says to a line

`Responds` says which text answers a line, in terms of the line itself: nothing if it is blank; the
result of a query, or where it is wrong; and for a command what its name asks for. A line that
leaves the session has no response. The relation holds exactly for what a session puts out
(`responds_iff`).
-/

namespace SelectQuery

open Text

/-! ## Results -/

/-- The text shows the result of evaluating a query, together with its tokens if these are asked
    for. -/
inductive ShowsResult (draw : Table → String) (s : String) : Bool → String → Prop
  | badToken {showTokens : Bool} {e : QueryError} :
      tokenize s = .error e → ShowsResult draw s showTokens (renderError s e)
  | badStatement {showTokens : Bool} {ts : List Token} {e : QueryError} :
      tokenize s = .ok ts → parse ts = .error e → ShowsResult draw s showTokens (renderError s e)
  | statement {ts : List Token} {st : Statement} :
      tokenize s = .ok ts → parse ts = .ok st →
      ShowsResult draw s false (draw (.ofStatement st) ++ "\n" ++ st.display)
  | statementWithTokens {ts : List Token} {st : Statement} :
      tokenize s = .ok ts → parse ts = .ok st →
      ShowsResult draw s true
        (draw (.ofTokens ts) ++ "\n" ++ draw (.ofStatement st) ++ "\n" ++ st.display)

/-- The text shows the tokens of a text, or where it has none. -/
inductive ShowsTokens (draw : Table → String) (s : String) : String → Prop
  | badToken {e : QueryError} : tokenize s = .error e → ShowsTokens draw s (renderError s e)
  | tokens {ts : List Token} : tokenize s = .ok ts → ShowsTokens draw s (draw (.ofTokens ts))

variable {draw : Table → String} {showTokens : Bool} {s shown : String}

theorem showsResult_iff :
    ShowsResult draw s showTokens shown ↔ (evaluate showTokens s).text draw = shown := by
  unfold evaluate
  constructor
  · rintro (lexed | ⟨lexed, parsed⟩ | ⟨lexed, parsed⟩ | ⟨lexed, parsed⟩)
    · simp [lexed, Answer.text]
    · simp [lexed, parsed, Answer.text]
    · simp [lexed, parsed, Answer.text]
    · simp [lexed, parsed, Answer.text]
  · rintro rfl
    cases lexed : tokenize s with
    | error e => exact .badToken lexed
    | ok ts =>
      cases parsed : parse ts with
      | error e => simpa [parsed, Answer.text] using .badStatement lexed parsed
      | ok st =>
        cases showTokens with
        | false => simpa [parsed, Answer.text] using .statement lexed parsed
        | true => simpa [parsed, Answer.text] using .statementWithTokens lexed parsed

theorem showsTokens_iff :
    ShowsTokens draw s shown ↔ (evaluateTokens s).text draw = shown := by
  unfold evaluateTokens
  constructor
  · rintro (lexed | lexed) <;> simp [lexed, Answer.text]
  · rintro rfl
    cases lexed : tokenize s with
    | error e => exact .badToken lexed
    | ok ts => exact .tokens lexed

namespace Session

/-! ## Commands -/

/-- What a command starts with: a full stop. A question mark alone is a command too. -/
def MarksCommand (line : String) : Prop :=
  line.toList.head? = some '.' ∨ line = "?"

/-- The line is a command of that name, which is its first word in small letters, about the text
    behind the first space. Blanks around the line and around the text do not count. -/
inductive IsCommandLine (line : String) : String → String → Prop
  | alone {word : List Char} :
      MarksCommand (trim line) → (trim line).toList = word → ' ' ∉ word →
      IsCommandLine line (String.ofList (lowerCase word)) ""
  | about {word text : List Char} :
      MarksCommand (trim line) → (trim line).toList = word ++ ' ' :: text → ' ' ∉ word →
      IsCommandLine line (String.ofList (lowerCase word)) (trim (String.ofList text))

variable {line name text : String}

theorem marksCommand_iff : MarksCommand line ↔ isCommand line = true := by
  simp [MarksCommand, isCommand]

theorem ne_space_of_mem {word : List Char} (single : ' ' ∉ word) :
    ∀ c ∈ word, (c != ' ') = true := by
  intro c member
  exact bne_iff_ne.mpr fun space => single (space ▸ member)

theorem splitCommand_of_space {word rest : List Char} (split : line.toList = word ++ ' ' :: rest)
    (single : ' ' ∉ word) :
    splitCommand line = (String.ofList (lowerCase word), String.ofList rest) := by
  have inWord := ne_space_of_mem single
  rw [splitCommand, split, List.takeWhile_append_of_pos inWord, List.dropWhile_append_of_pos inWord]
  simp

theorem splitCommand_of_single (single : ' ' ∉ line.toList) :
    splitCommand line = (String.ofList (lowerCase line.toList), "") := by
  have inWord := ne_space_of_mem single
  rw [splitCommand, List.takeWhile_eq_self_iff.mpr inWord, List.dropWhile_eq_nil_iff.mpr inWord]
  rfl

theorem trim_empty : trim "" = "" := by
  decide

theorem isCommandLine_iff :
    IsCommandLine line name text ↔
      isCommand (trim line) = true ∧ (splitCommand (trim line)).1 = name ∧
        trim (splitCommand (trim line)).2 = text := by
  rw [← marksCommand_iff]
  constructor
  · rintro (⟨marked, rfl, single⟩ | ⟨marked, split, single⟩)
    · rw [splitCommand_of_single single]
      exact ⟨marked, rfl, trim_empty⟩
    · rw [splitCommand_of_space split single]
      exact ⟨marked, rfl, rfl⟩
  · rintro ⟨marked, rfl, rfl⟩
    by_cases space : ' ' ∈ (trim line).toList
    · obtain ⟨word, rest, split, single⟩ := List.eq_append_cons_of_mem space
      rw [splitCommand_of_space split single]
      exact .about marked split single
    · rw [splitCommand_of_single space, trim_empty]
      exact .alone marked rfl space

/-! ## Responses -/

/-- The text is what a session says to the line. -/
inductive Responds (draw : Table → String) (showTokens : Bool) (line : String) : String → Prop
  | blank : trim line = "" → Responds draw showTokens line ""
  | query {shown : String} :
      trim line ≠ "" → ¬MarksCommand (trim line) → ShowsResult draw (trim line) showTokens shown →
      Responds draw showTokens line (shown ++ "\n")
  | tokens {text shown : String} :
      IsCommandLine line ".tokens" text → ShowsTokens draw text shown →
      Responds draw showTokens line (shown ++ "\n")
  | help {name text : String} :
      IsCommandLine line name text → name ∈ [".help", ".h", "?", ".?"] →
      Responds draw showTokens line
        ("Enter a query of the form SELECT <cols> FROM <table> [WHERE <col> <op> <value>].\n" ++
          "Meta commands:\n" ++
          "  .tokens <query>   show the tokens of a query\n" ++
          "  .help             show this message\n" ++
          "  .exit             leave\n")
  | unrecognised {name text : String} :
      IsCommandLine line name text →
      name ∉ [".exit", ".quit", ".close", ".help", ".h", "?", ".?", ".tokens"] →
      Responds draw showTokens line "Error! Command not recognised.\n"

/-- The answer to a command, by its name. -/
theorem respond_of_isCommandLine (command : IsCommandLine line name text) (showTokens : Bool) :
    respond showTokens line =
      match SessionCommand.ofName? name with
      | none => .unrecognised
      | some .leave => .leave
      | some .help => .help
      | some .tokens => .tokens (evaluateTokens text) := by
  obtain ⟨marked, rfl, rfl⟩ := isCommandLine_iff.mp command
  have nonempty : trim line ≠ "" := by
    intro blank
    rw [blank] at marked
    exact absurd marked (by decide)
  have found : command? (trim line) =
      (SessionCommand.ofName? (splitCommand (trim line)).1).map
        fun asked => (asked, trim (splitCommand (trim line)).2) := rfl
  simp only [respond, if_neg nonempty, if_pos marked, found]
  cases SessionCommand.ofName? (splitCommand (trim line)).1 with
  | none => simp only [Option.map_none]
  | some asked => cases asked <;> simp only [Option.map_some]

theorem ofName?_eq_help_iff :
    SessionCommand.ofName? name = some .help ↔ name ∈ [".help", ".h", "?", ".?"] := by
  constructor
  · intro found
    unfold SessionCommand.ofName? at found
    split_ifs at found with leave help
    · cases found
    · exact help
    · cases found
  · intro among
    simp only [List.mem_cons, List.not_mem_nil, or_false] at among
    rcases among with rfl | rfl | rfl | rfl <;> decide

theorem ofName?_eq_tokens_iff : SessionCommand.ofName? name = some .tokens ↔ name = ".tokens" := by
  constructor
  · intro found
    unfold SessionCommand.ofName? at found
    split_ifs at found with leave help tokens
    · cases found
    · cases found
    · exact tokens
  · rintro rfl
    decide

theorem ofName?_eq_none_iff :
    SessionCommand.ofName? name = none ↔
      name ∉ [".exit", ".quit", ".close", ".help", ".h", "?", ".?", ".tokens"] := by
  have all : [".exit", ".quit", ".close", ".help", ".h", "?", ".?", ".tokens"] =
      [".exit", ".quit", ".close"] ++ ([".help", ".h", "?", ".?"] ++ [".tokens"]) := rfl
  rw [all, List.mem_append, List.mem_append, List.mem_singleton, not_or, not_or]
  unfold SessionCommand.ofName?
  split_ifs with leave help tokens <;> simp_all

theorem helpText_append :
    helpText ++ "\n" =
      "Enter a query of the form SELECT <cols> FROM <table> [WHERE <col> <op> <value>].\n" ++
        "Meta commands:\n" ++
        "  .tokens <query>   show the tokens of a query\n" ++
        "  .help             show this message\n" ++
        "  .exit             leave\n" := by
  decide +kernel

/-- A session says to a line what the line asks for, unless the line leaves it. -/
theorem responds_iff :
    Responds draw showTokens line shown ↔
      respond showTokens line ≠ .leave ∧ (respond showTokens line).output draw = shown := by
  constructor
  · rintro (blank | ⟨nonempty, unmarked, result⟩ | ⟨command, result⟩ | ⟨command, named⟩ |
      ⟨command, unnamed⟩)
    · simp [respond, blank, Response.output]
    · rw [marksCommand_iff] at unmarked
      simp [respond, nonempty, unmarked, Response.output, showsResult_iff.mp result]
    · rw [respond_of_isCommandLine command, ofName?_eq_tokens_iff.mpr rfl]
      simp [Response.output, showsTokens_iff.mp result]
    · rw [respond_of_isCommandLine command, ofName?_eq_help_iff.mpr named]
      exact ⟨nofun, helpText_append⟩
    · rw [respond_of_isCommandLine command, ofName?_eq_none_iff.mpr unnamed]
      exact ⟨nofun, rfl⟩
  · rintro ⟨stays, rfl⟩
    -- A line is looked at in the order in which a session does: blank, a command, or a query.
    by_cases blank : trim line = ""
    · simpa [respond, blank, Response.output] using Responds.blank blank
    · by_cases marked : isCommand (trim line) = true
      · have command : IsCommandLine line _ _ := isCommandLine_iff.mpr ⟨marked, rfl, rfl⟩
        rw [respond_of_isCommandLine command] at stays ⊢
        cases named : SessionCommand.ofName? (splitCommand (trim line)).1 with
        | none => exact .unrecognised command (ofName?_eq_none_iff.mp named)
        | some asked =>
          cases asked with
          | leave => simp [named] at stays
          | help =>
            simp only [Response.output, helpText_append]
            exact .help command (ofName?_eq_help_iff.mp named)
          | tokens =>
            rw [ofName?_eq_tokens_iff.mp named] at command
            exact .tokens command (showsTokens_iff.mpr rfl)
      · have query : respond showTokens line = .evaluated (evaluate showTokens (trim line)) := by
          simp [respond, blank, marked]
        rw [query]
        exact .query blank (mt marksCommand_iff.mp marked) (showsResult_iff.mpr rfl)

end Session

end SelectQuery
