import SelectQuery.Token

/-!
# Errors of queries

What can be wrong with a query, where, and the wording of it.
-/

namespace SelectQuery

/-- The causes of an error. -/
inductive ErrorCode where
  /-- The value before anything went wrong; no failure carries it. -/
  | noError
  | unexpectedChar
  | unterminatedString
  | unexpectedToken
  | invalidWhereClause
  deriving DecidableEq, Repr

/-- The wording of the cause. -/
def ErrorCode.display : ErrorCode → String
  | .noError => "No error."
  | .unexpectedChar => "Unexpected character."
  | .unterminatedString => "Unterminated string literal."
  | .unexpectedToken => "Unexpected token."
  | .invalidWhereClause => "Invalid WHERE clause. Expected <column> <operator> <value>."

/-- An error of a query: its cause, its place, and the kinds of token that were expected and found
    there, as far as that can be said. -/
structure QueryError where
  code : ErrorCode
  span : Span
  expected : Option TokenKind
  actual : Option TokenKind
  deriving DecidableEq, Repr

namespace QueryError

/-- The value before anything went wrong. -/
def absent : QueryError :=
  ⟨.noError, .zero, none, none⟩

/-- An error that says nothing about kinds of token. -/
def plain (code : ErrorCode) (span : Span) : QueryError :=
  ⟨code, span, none, none⟩

/-- A token of the wrong kind. -/
def unexpectedToken (span : Span) (expected actual : Option TokenKind) : QueryError :=
  ⟨.unexpectedToken, span, expected, actual⟩

/-- Whether anything went wrong. -/
def isError (e : QueryError) : Bool :=
  e.code != .noError

/-- The end of a message, on the kinds of token that were expected and found. -/
def kindsDisplay : Option TokenKind → Option TokenKind → String
  | some e, some a => " Expected " ++ e.name ++ ", found " ++ a.name ++ "."
  | some e, none => " Expected " ++ e.name ++ "."
  | none, some a => " Found " ++ a.name ++ "."
  | none, none => ""

/-- The message: cause, place, and kinds of token. -/
def message (e : QueryError) : String :=
  e.code.display ++ " (" ++ e.span.display ++ ")" ++ kindsDisplay e.expected e.actual

end QueryError

end SelectQuery
