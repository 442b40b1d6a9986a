import SelectQuery.Statement
import SelectQuery.Token.Scan

/-!
# Parsing statements

A statement is read from the front of a list of tokens:

    Select columns From Identifier [Where Identifier comparison value]

where the columns are names or asterisks with commas between them, possibly none, possibly with a
comma after the last. What follows a statement is left alone. A `Reader` goes over tokens and keeps
what it has come to know even if it fails later; `parseAt` runs the reader for statements from a
position in a list of tokens and says where it stopped; `parseQuery` reads a text.
-/

namespace SelectQuery

/-- What has been recognised on the way through a statement. -/
inductive Milestone where
  | columns (names : List String)
  | table (name : String)
  | condition (condition : Condition)
  deriving DecidableEq, Repr

/-- The places that an error names when the tokens have run out. -/
structure Ending where
  /-- The span of the last token. -/
  last : Span
  /-- The span of the first token for the end of the text, or of the last token without one. -/
  sentinel : Span
  deriving DecidableEq, Repr

/-- The ending of a list of tokens. No tokens end at the beginning. -/
def Ending.of (ts : List Token) : Ending :=
  let last := (ts.getLast?.map (·.span)).getD .zero
  ⟨last, ((ts.find? (·.kind = .endOfInput)).map (·.span)).getD last⟩

/-- What a reader has done: what it recognised, the value or the error, and the tokens that it did
    not take. -/
structure Reading (α : Type) where
  milestones : List Milestone
  result : Except QueryError α
  rest : List Token

/-- A way to read a value from the front of a list of tokens with the given ending. -/
def Reader (α : Type) : Type :=
  Ending → List Token → Reading α

namespace Reader

variable {α β : Type}

/-- Takes no token. -/
def done (a : α) : Reader α :=
  fun _ ts => ⟨[], .ok a, ts⟩

/-- Goes on from where the first reader stopped, if it did not fail. -/
def andThen (p : Reader α) (f : α → Reader β) : Reader β :=
  fun e ts =>
    let before := p e ts
    match before.result with
    | .error err => ⟨before.milestones, .error err, before.rest⟩
    | .ok a =>
      let after := f a e before.rest
      ⟨before.milestones ++ after.milestones, after.result, after.rest⟩

instance : Monad Reader where
  pure := done
  bind := andThen

theorem pure_run (a : α) (e : Ending) (ts : List Token) :
    (pure a : Reader α) e ts = ⟨[], .ok a, ts⟩ :=
  rfl

/-- After a failure nothing more is read. -/
theorem bind_run_of_error {p : Reader α} {f : α → Reader β} {e : Ending} {ts : List Token}
    {err : QueryError} (failed : (p e ts).result = .error err) :
    (p >>= f) e ts = ⟨(p e ts).milestones, .error err, (p e ts).rest⟩ := by
  show andThen p f e ts = _
  simp only [andThen, failed]

/-- After a success the next reader goes on with the tokens that are left. -/
theorem bind_run_of_ok {p : Reader α} {f : α → Reader β} {e : Ending} {ts : List Token} {a : α}
    (read : (p e ts).result = .ok a) :
    (p >>= f) e ts =
      ⟨(p e ts).milestones ++ (f a e (p e ts).rest).milestones, (f a e (p e ts).rest).result,
        (f a e (p e ts).rest).rest⟩ := by
  show andThen p f e ts = _
  simp only [andThen, read]

/-- Notes what has been recognised. -/
def reach (m : Milestone) : Reader Unit :=
  fun _ ts => ⟨[m], .ok (), ts⟩

/-- Fails at the next token, or at the last one if there is none. -/
def refuse (expected : Option TokenKind) : Reader α :=
  fun e ts =>
    match ts with
    | [] => ⟨[], .error (.unexpectedToken e.last expected (some .endOfInput)), []⟩
    | t :: rest => ⟨[], .error (.unexpectedToken t.span expected (some t.kind)), t :: rest⟩

/-- Takes the next token if it gives a value. -/
def take (value? : Token → Option α) (expected : Option TokenKind) : Reader α :=
  fun e ts =>
    match ts with
    | [] => refuse expected e []
    | t :: rest =>
      match value? t with
      | some a => ⟨[], .ok a, rest⟩
      | none => refuse expected e (t :: rest)

end Reader

/-- The text of a token of the kind. -/
def Token.textOf? (kind : TokenKind) (t : Token) : Option String :=
  if t.kind = kind then some t.text else none

/-- The name of a column. -/
def Token.column? (t : Token) : Option String :=
  if t.kind = .identifier ∨ t.kind = .asterisk then some t.text else none

/-- The comparison that the token is the sign of. -/
def Token.comparison? (t : Token) : Option Comparison :=
  match t.kind with
  | .equal => some .equal
  | .greaterThan => some .greaterThan
  | .lessThan => some .lessThan
  | _ => none

/-- The value that the token stands for. -/
def Token.literal? (t : Token) : Option Literal :=
  match t.kind with
  | .number => some (.number t.text)
  | .stringLiteral => some (.string t.text)
  | _ => none

namespace Reader

/-- Takes a token of the kind and gives its text. -/
def token (kind : TokenKind) : Reader String :=
  take (Token.textOf? kind) (some kind)

/-- The columns at the front of the tokens, and the tokens after them. A comma is taken with the
    column before it, whether or not a column follows. -/
def splitColumns : List Token → List String × List Token
  | [] => ([], [])
  | t :: rest =>
    match t.column? with
    | none => ([], t :: rest)
    | some name =>
      match rest with
      | [] => ([name], [])
      | next :: later =>
        if next.kind = .comma then
          let further := splitColumns later
          (name :: further.1, further.2)
        else ([name], next :: later)

/-- Takes the columns, of which there may be none. -/
def columnList : Reader (List String) :=
  fun _ ts =>
    let found := splitColumns ts
    ⟨[.columns found.1], .ok found.1, found.2⟩

/-- Takes the name of the table. -/
def tableName : Reader String := do
  let name ← token .identifier
  reach (.table name)
  return name

/-- How many tokens a condition takes. -/
def conditionLength : Nat := 3

/-- Fails if fewer tokens than a condition takes stand before the end of the text. -/
def roomForCondition : Reader Unit :=
  fun e ts =>
    if (ts.takeWhile (·.kind != .endOfInput)).length < conditionLength then
      ⟨[], .error (.plain .invalidWhereClause e.sentinel), ts⟩
    else ⟨[], .ok (), ts⟩

/-- Takes a condition. -/
def condition : Reader Condition := do
  roomForCondition
  let column ← token .identifier
  let comparison ← take Token.comparison? (some .equal)
  let value ← take Token.literal? none
  reach (.condition ⟨column, comparison, value⟩)
  return ⟨column, comparison, value⟩

/-- Takes a condition with its key if the key is next. -/
def whereClause : Reader (Option Condition) :=
  fun e ts =>
    match ts with
    | [] => done none e []
    | t :: rest =>
      if t.kind = .whereKey then (some <$> condition) e rest else done none e (t :: rest)

/-- Takes a statement. -/
def statement : Reader Statement := do
  let _ ← token .selectKey
  let columns ← columnList
  let _ ← token .fromKey
  let table ← tableName
  let condition ← whereClause
  return ⟨columns, table, condition⟩

end Reader

/-- What came of reading a statement from a position on: what was recognised, the statement or the
    error, and the position after the last token taken. -/
structure Parse where
  milestones : List Milestone
  result : Except QueryError Statement
  position : Nat

/-- Reads a statement from the token at the position on. A position after all tokens stays. -/
def parseAt (ts : List Token) (position : Nat) : Parse :=
  let reading := Reader.statement (Ending.of ts) (ts.drop position)
  ⟨reading.milestones, reading.result,
    position + ((ts.drop position).length - reading.rest.length)⟩

/-- Reads a statement from the first token on. -/
def parse (ts : List Token) : Except QueryError Statement :=
  (parseAt ts 0).result

/-- Reads the statement at the front of a text. The whole text has to consist of tokens. -/
def parseQuery (s : String) : Except QueryError Statement := do
  parse (← tokenize s)

/-- What can be done with a position among tokens. -/
inductive Move where
  /-- Goes to a position, wherever it is. -/
  | goTo (position : Nat)
  /-- Reads a statement and stays where that stopped. -/
  | parse
  deriving DecidableEq, Repr

/-- Makes the moves one after the other, and tells after each the position and what was read. -/
def drive (ts : List Token) (position : Nat) :
    List Move → List (Nat × Option (Except QueryError Statement))
  | [] => []
  | .goTo n :: moves => (n, none) :: drive ts n moves
  | .parse :: moves =>
    let p := parseAt ts position
    (p.position, some p.result) :: drive ts p.position moves

end SelectQuery
