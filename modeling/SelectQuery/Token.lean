import SelectQuery.Span

/-!
# Tokens

The words of a query: what kinds of token there are, the words that are keys of the language, and a
token with its place in the text.
-/

namespace SelectQuery

/-- The kinds of token. -/
inductive TokenKind where
  | selectKey
  | fromKey
  | whereKey
  | identifier
  | number
  | comma
  | asterisk
  | equal
  | greaterThan
  | lessThan
  | stringLiteral
  | semicolon
  | endOfInput
  deriving DecidableEq, Repr

/-- The name of the kind in messages and tables. -/
def TokenKind.name : TokenKind → String
  | .selectKey => "Select"
  | .fromKey => "From"
  | .whereKey => "Where"
  | .identifier => "Identifier"
  | .number => "Number"
  | .comma => "Comma"
  | .asterisk => "Asterisk"
  | .equal => "Equal"
  | .greaterThan => "GreaterThan"
  | .lessThan => "LessThan"
  | .stringLiteral => "StringLiteral"
  | .semicolon => "Semicolon"
  | .endOfInput => "EndOfInput"

/-- The kind of a word in small letters that is a key of the language. -/
def keyword? (word : String) : Option TokenKind :=
  if word = "select" then some .selectKey
  else if word = "from" then some .fromKey
  else if word = "where" then some .whereKey
  else none

/-- The kind of a word in small letters. -/
def wordKind (word : String) : TokenKind :=
  (keyword? word).getD .identifier

/-- The kind of the token that consists of this one character. -/
def punctuation? (c : Char) : Option TokenKind :=
  match c with
  | ',' => some .comma
  | ';' => some .semicolon
  | '*' => some .asterisk
  | '=' => some .equal
  | '>' => some .greaterThan
  | '<' => some .lessThan
  | _ => none

/-- A token: its kind, its text (in small letters for a word, without the quotes for a string) and
    its place in the text it was read from. -/
structure Token where
  kind : TokenKind
  text : String
  span : Span
  deriving DecidableEq, Repr

namespace Token

/-- The token that stands for the end of a text of that length. -/
def endOfInput (position : Nat) : Token :=
  ⟨.endOfInput, "", ⟨position, 0⟩⟩

/-- The token as log records name it. -/
def display (t : Token) : String :=
  t.kind.name ++ ": '" ++ t.text ++ "' @ " ++ toString t.span.start

end Token

end SelectQuery
