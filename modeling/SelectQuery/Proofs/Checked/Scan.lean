import SelectQuery.Proofs.Checked
import SelectQuery.Token.Scan

/-!
# Scanning by index

The scan as a machine does it: the text stands in a list that is only read at indices, a position
goes up over it, and every step of arithmetic is checked. What is scanned from a position on is what
`scan` finds in the rest of the text behind it, so no check ever fails (`Checked.tokenize_eq_pure`).
That no text is longer than the largest word is all that the checks need: a position is never behind
the end of the text, and the end of a token never before its start.
-/

namespace SelectQuery

open Text

namespace Checked

/-- One round of a search: ends at the end of the text or where the condition is met. -/
def searchRound (cs : List Char) (ends : Char → Bool) (cursor : Nat) : Checked (Nat ⊕ Nat) := do
  if cs.length ≤ cursor then return .inl cursor
  else
    let c ← index cs cursor
    if ends c then return .inl cursor
    else return .inr (← add cursor 1)

/-- The first index, from `start` on, at which the text ends or the condition is met. -/
noncomputable def scanUntil (cs : List Char) (ends : Char → Bool) (start : Nat) : Checked Nat :=
  loop (searchRound cs ends) start

/-- The span from an index up to another. -/
def spanBetween (start stop : Nat) : Checked Span := do
  return ⟨start, ← sub stop start⟩

/-- What came of one round of the scan, with the position after it. -/
inductive Round where
  | finished
  | blank (position : Nat)
  | token (t : Token) (position : Nat)
  | failed (e : QueryError)
  deriving DecidableEq, Repr

/-- How the scan goes on with what has been found before the round. -/
def Round.next (length : Nat) (found : List Token) :
    Round → Except QueryError (List Token) ⊕ Nat × List Token
  | finished => .inl (.ok (found ++ [Token.endOfInput length]))
  | blank position => .inr (position, found)
  | token t position => .inr (position, found ++ [t])
  | failed e => .inl (.error e)

/-- Takes the sign at the index. -/
def takeSign (cs : List Char) (kind : TokenKind) (start : Nat) : Checked Round := do
  let position ← add start 1
  let c ← index cs start
  return .token ⟨kind, String.singleton c, ⟨start, 1⟩⟩ position

/-- Takes the string whose opening quote stands at the index. -/
noncomputable def takeString (cs : List Char) (start : Nat) : Checked Round := do
  let close ← scanUntil cs (· == '\x27') (← add start 1)
  if cs.length ≤ close then
    return .failed (.plain .unterminatedString ⟨start, ← sub close start⟩)
  else
    let position ← add close 1
    let text ← slice cs (← add start 1) close
    return .token ⟨.stringLiteral, String.ofList text, ← spanBetween start position⟩ position

/-- Takes the number that starts at the index. -/
noncomputable def takeNumber (cs : List Char) (start : Nat) : Checked Round := do
  let stop ← scanUntil cs (!·.isDigit) start
  let text ← slice cs start stop
  return .token ⟨.number, String.ofList text, ← spanBetween start stop⟩ stop

/-- Takes the word that starts at the index. -/
noncomputable def takeWord (cs : List Char) (start : Nat) : Checked Round := do
  let stop ← scanUntil cs (!isWordChar ·) start
  let word := String.ofList (lowerCase (← slice cs start stop))
  return .token ⟨wordKind word, word, ← spanBetween start stop⟩ stop

/-- One round of the scan: ends at the end of the text, and otherwise passes over a blank or takes a
    token. -/
noncomputable def round (cs : List Char) (position : Nat) : Checked Round := do
  if cs.length ≤ position then return .finished
  else
    let c ← index cs position
    if isBlank c then return .blank (← add position 1)
    else match punctuation? c with
      | some kind => takeSign cs kind position
      | none =>
        if c = '\x27' then takeString cs position
        else if c.isDigit then takeNumber cs position
        else if isLetter c then takeWord cs position
        else return .failed (.plain .unexpectedChar ⟨position, 1⟩)

/-- Makes rounds from the position on until the text ends or a round fails. -/
noncomputable def scanFrom (cs : List Char) (position : Nat) (found : List Token) :
    Checked (Except QueryError (List Token)) :=
  loop (fun s => return (← round cs s.1).next cs.length s.2) (position, found)

/-- The tokens of a whole text, or the error at which the scan stopped. -/
noncomputable def tokenize (s : String) : Checked (Except QueryError (List Token)) :=
  scanFrom s.toList 0 []

/-! ## One round -/

variable {cs rest : List Char} {c : Char} {start : Nat}

/-- A search stops behind the characters that do not meet its condition. -/
theorem scanUntil_eq_pure {ends goesOn : Char → Bool} (opposite : ∀ c, ends c = !goesOn c)
    (fits : cs.length < Span.wordCount) {cursor : Nat} (here : cs.drop cursor = rest) :
    scanUntil cs ends cursor = pure (cursor + (rest.takeWhile goesOn).length) := by
  induction rest generalizing cursor with
  | nil =>
    apply loop_of_inl
    rw [searchRound, if_pos (List.drop_eq_nil_iff.mp here)]
    rfl
  | cons c rest ih =>
    obtain ⟨inside, there⟩ := drop_eq_cons here
    by_cases more : goesOn c = true
    · have round : searchRound cs ends cursor = pure (.inr (cursor + 1)) := by
        rw [searchRound, if_neg (Nat.not_le.mpr inside), index_eq_pure here, pure_bind, opposite,
          add_eq_pure (by omega)]
        simp [more]
      rw [scanUntil, loop_of_inr round, List.takeWhile_cons_of_pos more, List.length_cons,
        ← Nat.add_assoc, Nat.add_right_comm]
      exact ih there
    · apply loop_of_inl
      rw [searchRound, if_neg (Nat.not_le.mpr inside), index_eq_pure here, pure_bind, opposite]
      simp [more]

/-- What a round comes to at a lexeme. -/
def Round.of (position : Nat) (c : Char) (rest : List Char) : Lexeme → Round
  | .blank => .blank (position + 1)
  | .token kind text extra =>
    .token ⟨kind, text, ⟨position, extra + 1⟩⟩ (position + (extra + 1))
  | .unterminated => .failed (ScanFault.unterminatedString position (rest.length + 1)).error
  | .unexpected => .failed (ScanFault.unexpectedChar c position).error

theorem spanBetween_add (start length : Nat) :
    spanBetween start (start + length) = pure ⟨start, length⟩ := by
  rw [spanBetween, sub_eq_pure (Nat.le_add_right start length), Nat.add_sub_cancel_left]
  rfl

theorem takeSign_eq_pure (fits : cs.length < Span.wordCount) (here : cs.drop start = c :: rest)
    (kind : TokenKind) :
    takeSign cs kind start =
      pure (Round.of start c rest (.token kind (String.singleton c) 0)) := by
  obtain ⟨inside, -⟩ := drop_eq_cons here
  rw [takeSign, add_eq_pure (by omega), pure_bind, index_eq_pure here, pure_bind]
  rfl

/-- A string is closed behind its body, or the text ends where its body ends. -/
theorem takeString_eq_pure (fits : cs.length < Span.wordCount)
    (here : cs.drop start = '\x27' :: rest) :
    takeString cs start = pure (Round.of start '\x27' rest (Lexeme.readString rest)) := by
  obtain ⟨inside, there⟩ := drop_eq_cons here
  have long : cs.length - (start + 1) = rest.length := by
    rw [← List.length_drop, there]
  have opposite (c : Char) : (c == '\x27') = !(c != '\x27') := by
    simp [bne]
  have search := scanUntil_eq_pure opposite fits there
  unfold takeString Lexeme.readString
  generalize isBody : rest.takeWhile (· != '\x27') = body at search
  obtain ⟨after, split⟩ : body <+: rest := by
    rw [← isBody]
    exact List.takeWhile_prefix _
  have shorter : body.length + after.length = rest.length := by
    rw [← split, List.length_append]
  rw [add_eq_pure (by omega), pure_bind, search, pure_bind]
  by_cases closed : body.length < rest.length
  · have text := slice_eq_pure (there.trans split.symm) inside
    have position : start + 1 + body.length + 1 = start + (body.length + 1 + 1) := by
      omega
    rw [if_neg (by omega), if_pos closed, add_eq_pure (by omega), pure_bind, pure_bind, text,
      pure_bind, position, spanBetween_add]
    rfl
  · have toEnd : start + 1 + body.length - start = rest.length + 1 := by
      omega
    rw [if_pos (by omega), if_neg closed, sub_eq_pure (by omega), pure_bind, toEnd]
    rfl

/-- A number or a word stops behind the characters that go on it, of which its first is one. -/
theorem scanUntil_then_slice {ends goesOn : Char → Bool} (opposite : ∀ c, ends c = !goesOn c)
    (fits : cs.length < Span.wordCount) (here : cs.drop start = c :: rest)
    (first : goesOn c = true) :
    scanUntil cs ends start = pure (start + ((rest.takeWhile goesOn).length + 1)) ∧
      slice cs start (start + ((rest.takeWhile goesOn).length + 1)) =
        pure (c :: rest.takeWhile goesOn) := by
  have whole : (c :: rest).takeWhile goesOn = c :: rest.takeWhile goesOn :=
    List.takeWhile_cons_of_pos first
  constructor
  · rw [scanUntil_eq_pure opposite fits here, whole]
    rfl
  · obtain ⟨inside, -⟩ := drop_eq_cons here
    have split : cs.drop start = (c :: rest.takeWhile goesOn) ++ rest.dropWhile goesOn := by
      rw [here, List.cons_append, List.takeWhile_append_dropWhile]
    exact slice_eq_pure split (Nat.le_of_lt inside)

theorem takeNumber_eq_pure (fits : cs.length < Span.wordCount) (here : cs.drop start = c :: rest)
    (digit : c.isDigit = true) :
    takeNumber cs start = pure (Round.of start c rest (Lexeme.readNumber c rest)) := by
  obtain ⟨search, text⟩ := scanUntil_then_slice (fun _ => rfl) fits here digit
  rw [takeNumber, search, pure_bind, text, pure_bind, spanBetween_add]
  rfl

theorem takeWord_eq_pure (fits : cs.length < Span.wordCount) (here : cs.drop start = c :: rest)
    (letter : isLetter c = true) :
    takeWord cs start = pure (Round.of start c rest (Lexeme.readWord c rest)) := by
  obtain ⟨search, text⟩ :=
    scanUntil_then_slice (fun _ => rfl) fits here (isWordChar_of_isLetter letter)
  rw [takeWord, search, pure_bind, text, pure_bind, spanBetween_add]
  rfl

/-- A round does what the lexeme at its position asks for. -/
theorem round_eq_pure (fits : cs.length < Span.wordCount) (here : cs.drop start = c :: rest)
    {lexeme : Lexeme} (read : Lexeme.read c rest = lexeme) :
    round cs start = pure (Round.of start c rest lexeme) := by
  obtain ⟨inside, -⟩ := drop_eq_cons here
  rw [round, if_neg (Nat.not_le.mpr inside), index_eq_pure here, pure_bind, ← read, Lexeme.read]
  by_cases blank : isBlank c = true
  · rw [if_pos blank, if_pos blank, add_eq_pure (by omega)]
    rfl
  · rw [if_neg blank, if_neg blank]
    cases punctuation? c with
    | some kind => exact takeSign_eq_pure fits here kind
    | none =>
      dsimp only
      by_cases quote : c = '\x27'
      · subst quote
        rw [if_pos rfl, if_pos rfl]
        exact takeString_eq_pure fits here
      · rw [if_neg quote, if_neg quote]
        by_cases digit : c.isDigit = true
        · rw [if_pos digit, if_pos digit]
          exact takeNumber_eq_pure fits here digit
        · rw [if_neg digit, if_neg digit]
          by_cases letter : isLetter c = true
          · rw [if_pos letter, if_pos letter]
            exact takeWord_eq_pure fits here letter
          · rw [if_neg letter, if_neg letter]
            rfl

/-! ## All rounds -/

/-- A scan as the rounds report it, when `found` are the tokens of the rounds before it. -/
def outcome (found : List Token) (length : Nat) (later : Scan) : Except QueryError (List Token) :=
  match later.fault with
  | none => .ok (found ++ later.tokens ++ [Token.endOfInput length])
  | some fault => .error fault.error

theorem scanFrom_of_inl {position : Nat} {found : List Token} {r : Round}
    {result : Except QueryError (List Token)} (made : round cs position = pure r)
    (ends : r.next cs.length found = .inl result) : scanFrom cs position found = pure result := by
  apply loop_of_inl
  rw [made, pure_bind, ends]

theorem scanFrom_of_inr {position position' : Nat} {found found' : List Token} {r : Round}
    (made : round cs position = pure r)
    (goesOn : r.next cs.length found = .inr (position', found')) :
    scanFrom cs position found = scanFrom cs position' found' := by
  apply loop_of_inr
  rw [made, pure_bind, goesOn]

/-- The rounds from a position on find what the scan of the rest finds. -/
theorem scanFrom_eq_pure (fits : cs.length < Span.wordCount) {position : Nat} (found : List Token)
    (here : cs.drop position = rest) :
    scanFrom cs position found = pure (outcome found cs.length (scan position rest)) := by
  induction position, rest using scan.induct generalizing found with
  | case1 position =>
    have made : round cs position = pure .finished := if_pos (List.drop_eq_nil_iff.mp here)
    rw [scanFrom_of_inl made rfl, scan]
    simp [outcome]
  | case2 position c rest read ih =>
    rw [scanFrom_of_inr (round_eq_pure fits here read) rfl, scan, read]
    exact ih found (drop_eq_cons here).2
  | case3 position c rest read =>
    rw [scanFrom_of_inl (round_eq_pure fits here read) rfl, scan, read]
    rfl
  | case4 position c rest read =>
    rw [scanFrom_of_inl (round_eq_pure fits here read) rfl, scan, read]
    rfl
  | case5 position c rest kind text extra read ih =>
    have there : cs.drop (position + (extra + 1)) = rest.drop extra := by
      rw [← List.drop_drop, here]
      rfl
    rw [scanFrom_of_inr (round_eq_pure fits here read) rfl, ih _ there, scan, read]
    simp [outcome]

/-- No check fails in a scan, and it finds what the scan without checks finds. -/
theorem tokenize_eq_pure {s : String} (fits : s.length < Span.wordCount) :
    tokenize s = pure (SelectQuery.tokenize s) :=
  scanFrom_eq_pure (by rwa [String.length_toList]) [] rfl

end Checked

end SelectQuery
