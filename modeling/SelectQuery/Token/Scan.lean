import SelectQuery.QueryError
import SelectQuery.Text.Blank
import SelectQuery.Text.Letter
import SelectQuery.Text.LowerCase

/-!
# Scanning a text

A text is read from its beginning, the longest token first, and its blanks are passed over. `Lexeme`
says what stands at the head of a text; `scan` reads one lexeme after the other and counts the
characters; `tokenize` gives the tokens of a text with the one for its end, or the error at the
first place that starts no token.
-/

namespace SelectQuery

open Text

/-- What stands at the head of a text. -/
inductive Lexeme where
  /-- A character to pass over. -/
  | blank
  /-- A token that takes `extra` characters after its first. -/
  | token (kind : TokenKind) (text : String) (extra : Nat)
  /-- A string that is never closed. -/
  | unterminated
  /-- A character that starts no token. -/
  | unexpected
  deriving DecidableEq, Repr

namespace Lexeme

/-- The string whose opening quote stands before the text: it ends at the next quote. -/
def readString (rest : List Char) : Lexeme :=
  let body := rest.takeWhile (· != '\x27')
  if body.length < rest.length then .token .stringLiteral (String.ofList body) (body.length + 1)
  else .unterminated

/-- The number that starts with the digit `c`: it goes on as long as there are digits. -/
def readNumber (c : Char) (rest : List Char) : Lexeme :=
  let more := rest.takeWhile Char.isDigit
  .token .number (String.ofList (c :: more)) more.length

/-- The word that starts with the letter `c`: it goes on over letters, numerals and underscores, and
    is taken to small letters before it is looked up among the keys of the language. -/
def readWord (c : Char) (rest : List Char) : Lexeme :=
  let more := rest.takeWhile isWordChar
  let word := String.ofList (lowerCase (c :: more))
  .token (wordKind word) word more.length

/-- The lexeme at the head of the text `c :: rest`. -/
def read (c : Char) (rest : List Char) : Lexeme :=
  if isBlank c then .blank
  else match punctuation? c with
    | some kind => .token kind (String.singleton c) 0
    | none =>
      if c = '\x27' then readString rest
      else if c.isDigit then readNumber c rest
      else if isLetter c then readWord c rest
      else .unexpected

/-- A token does not reach beyond the text. -/
theorem extra_le_of_read {c : Char} {rest : List Char} {kind : TokenKind} {text : String}
    {extra : Nat} (found : read c rest = .token kind text extra) : extra ≤ rest.length := by
  have within (p : Char → Bool) : (rest.takeWhile p).length ≤ rest.length :=
    (List.takeWhile_prefix p).length_le
  unfold read at found
  split at found
  · cases found
  · split at found
    · cases found
      exact Nat.zero_le _
    · split at found
      · unfold readString at found
        dsimp only at found
        split at found
        · cases found
          assumption
        · cases found
      · split at found
        · cases found
          exact within _
        · split at found
          · cases found
            exact within _
          · cases found

end Lexeme

/-- Why a scan stopped before the end of the text. -/
inductive ScanFault where
  /-- The character at the position starts no token. -/
  | unexpectedChar (c : Char) (position : Nat)
  /-- The string that starts at the position is open to the end of the text. -/
  | unterminatedString (position length : Nat)
  deriving DecidableEq, Repr

/-- The fault as an error of the query. -/
def ScanFault.error : ScanFault → QueryError
  | .unexpectedChar _ position => .plain .unexpectedChar ⟨position, 1⟩
  | .unterminatedString position length => .plain .unterminatedString ⟨position, length⟩

/-- The tokens read from a text, without the one for its end, and what stopped the scan. -/
structure Scan where
  tokens : List Token
  fault : Option ScanFault
  deriving DecidableEq, Repr

/-- Scans a text whose first character has the given position. -/
def scan (position : Nat) : List Char → Scan
  | [] => ⟨[], none⟩
  | c :: rest =>
    match Lexeme.read c rest with
    | .blank => scan (position + 1) rest
    | .unexpected => ⟨[], some (.unexpectedChar c position)⟩
    | .unterminated => ⟨[], some (.unterminatedString position (rest.length + 1))⟩
    | .token kind text extra =>
      let later := scan (position + (extra + 1)) (rest.drop extra)
      ⟨⟨kind, text, ⟨position, extra + 1⟩⟩ :: later.tokens, later.fault⟩
termination_by cs => cs.length
decreasing_by
  all_goals simp only [List.length_drop, List.length_cons]
  all_goals omega

/-- The tokens of a whole text, the one for its end last, or the error at which the scan stopped. -/
def tokenize (s : String) : Except QueryError (List Token) :=
  let found := scan 0 s.toList
  match found.fault with
  | none => .ok (found.tokens ++ [Token.endOfInput s.length])
  | some fault => .error fault.error

end SelectQuery
