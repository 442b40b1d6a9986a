import SelectQuery.Proofs.Spelling
import SelectQuery.QueryError

/-!
# Messages tell errors apart

No two errors have the same message (`QueryError.message_eq_iff`). A message is cut into its parts
from the front: a part ends at the first character that it cannot hold, so equal messages have equal
parts (`parts_eq_of_append_cons_eq`), and each part says what it was made from. No cause holds a
bracket, the numbers are made of digits and the kinds of token of letters. Which of the kinds are
named shows in the word before them and in the sign behind them.
-/

namespace SelectQuery

/-- Texts that are equal, and start with parts and with a character that no part can hold, have
    equal parts, the same character behind them, and equal rests. -/
theorem parts_eq_of_append_cons_eq {p : Char → Bool} {part part' rest rest' : List Char}
    {stop stop' : Char} (holds : ∀ c ∈ part, p c = true) (holds' : ∀ c ∈ part', p c = true)
    (ends : p stop = false) (ends' : p stop' = false)
    (same : part ++ stop :: rest = part' ++ stop' :: rest') :
    part = part' ∧ stop = stop' ∧ rest = rest' := by
  have cut : (part ++ stop :: rest).takeWhile p = part :=
    takeWhile_append_of_stop holds (by simpa using ends)
  have cut' : (part' ++ stop' :: rest').takeWhile p = part' :=
    takeWhile_append_of_stop holds' (by simpa using ends')
  have parts : part = part' := by
    rw [← cut, same, cut']
  subst parts
  simpa using same

/-! ## Causes -/

theorem ErrorCode.display_injective : Function.Injective ErrorCode.display := by
  intro code code' same
  cases code <;> cases code' <;> simp [display] at same ⊢

theorem ErrorCode.ne_bracket_of_mem_display (code : ErrorCode) :
    ∀ c ∈ code.display.toList, (c != '(') = true := by
  cases code <;> exact List.all_eq_true.mp (by decide)

/-- A cause ends before the first bracket. -/
theorem ErrorCode.eq_of_append_eq {code code' : ErrorCode} {rest rest' : List Char}
    (same : code.display.toList ++ ' ' :: '(' :: rest =
      code'.display.toList ++ ' ' :: '(' :: rest') : code = code' ∧ rest = rest' := by
  have holds (code : ErrorCode) : ∀ c ∈ code.display.toList ++ [' '], (c != '(') = true :=
    List.forall_mem_append.mpr ⟨code.ne_bracket_of_mem_display, by simp⟩
  have split : (code.display.toList ++ [' ']) ++ '(' :: rest =
      (code'.display.toList ++ [' ']) ++ '(' :: rest' := by
    simpa using same
  obtain ⟨causes, -, rests⟩ :=
    parts_eq_of_append_cons_eq (holds code) (holds code') (by decide) (by decide) split
  have texts : code.display.toList = code'.display.toList := List.append_cancel_right causes
  exact ⟨display_injective (String.toList_inj.mp texts), rests⟩

/-! ## Spans -/

/-- A number ends before the first character that is no digit. -/
theorem number_eq_of_append_cons_eq {n n' : Nat} {stop : Char} {rest rest' : List Char}
    (ends : stop.isDigit = false)
    (same : Nat.toDigits 10 n ++ stop :: rest = Nat.toDigits 10 n' ++ stop :: rest') :
    n = n' ∧ rest = rest' := by
  have digits (n : Nat) : ∀ c ∈ Nat.toDigits 10 n, c.isDigit = true := by
    intro c member
    exact Nat.isDigit_of_mem_toDigits (by decide) (by decide) member
  obtain ⟨numbers, -, rests⟩ :=
    parts_eq_of_append_cons_eq (digits n) (digits n') ends ends same
  have values : n = n' := by
    rw [← Nat.ofDigitChars_ten_toDigits (n := n), numbers, Nat.ofDigitChars_ten_toDigits]
  exact ⟨values, rests⟩

/-- The start of a span ends at the comma and its length at the bracket behind it. -/
theorem Span.eq_of_append_eq {s s' : Span} {rest rest' : List Char}
    (same : s.display.toList ++ ')' :: rest = s'.display.toList ++ ')' :: rest') :
    s = s' ∧ rest = rest' := by
  obtain ⟨start, length⟩ := s
  obtain ⟨start', length'⟩ := s'
  have numbers : Nat.toDigits 10 start ++
        ',' :: (" len ".toList ++ (Nat.toDigits 10 length ++ ')' :: rest)) =
      Nat.toDigits 10 start' ++
        ',' :: (" len ".toList ++ (Nat.toDigits 10 length' ++ ')' :: rest')) := by
    simpa [display] using same
  obtain ⟨rfl, behind⟩ := number_eq_of_append_cons_eq rfl numbers
  obtain ⟨rfl, rests⟩ := number_eq_of_append_cons_eq rfl (List.append_cancel_left behind)
  exact ⟨rfl, rests⟩

/-! ## Kinds of token -/

theorem TokenKind.name_injective : Function.Injective TokenKind.name := by
  intro kind kind' same
  cases kind <;> cases kind' <;> simp [name] at same ⊢

theorem TokenKind.isAlpha_of_mem_name (kind : TokenKind) :
    ∀ c ∈ kind.name.toList, c.isAlpha = true := by
  cases kind <;> exact List.all_eq_true.mp (by decide)

/-- The name of a kind ends before the first character that is no letter. -/
theorem TokenKind.eq_of_append_cons_eq {kind kind' : TokenKind} {stop stop' : Char}
    {rest rest' : List Char} (ends : stop.isAlpha = false) (ends' : stop'.isAlpha = false)
    (same : kind.name.toList ++ stop :: rest = kind'.name.toList ++ stop' :: rest') :
    kind = kind' ∧ stop = stop' ∧ rest = rest' := by
  obtain ⟨names, stops, rests⟩ := parts_eq_of_append_cons_eq kind.isAlpha_of_mem_name
    kind'.isAlpha_of_mem_name ends ends' same
  exact ⟨name_injective (String.toList_inj.mp names), stops, rests⟩

namespace QueryError

/-- What a message says of kinds when one was expected: a full stop is behind its name, or a comma
    and the kind that was found. -/
theorem toList_kindsDisplay_some (expected : TokenKind) (actual : Option TokenKind) :
    (kindsDisplay (some expected) actual).toList =
      " Expected ".toList ++ (expected.name.toList ++
        match actual with
        | none => ['.']
        | some a => ',' :: (" found ".toList ++ (a.name.toList ++ ['.']))) := by
  cases actual <;> simp [kindsDisplay]

/-- Where a kind was expected, its name ends at the full stop or at the comma, and the comma shows
    that a kind was found. -/
theorem kinds_eq_of_kindsDisplay_some_eq {expected expected' : TokenKind}
    {actual actual' : Option TokenKind}
    (same : kindsDisplay (some expected) actual = kindsDisplay (some expected') actual') :
    expected = expected' ∧ actual = actual' := by
  replace same := congrArg String.toList same
  rw [toList_kindsDisplay_some, toList_kindsDisplay_some] at same
  replace same := List.append_cancel_left same
  cases actual with
  | none =>
    cases actual' with
    | none =>
      obtain ⟨rfl, -, -⟩ := TokenKind.eq_of_append_cons_eq rfl rfl same
      exact ⟨rfl, rfl⟩
    | some a' =>
      obtain ⟨-, ⟨⟩, -⟩ := TokenKind.eq_of_append_cons_eq rfl rfl same
  | some a =>
    cases actual' with
    | none =>
      obtain ⟨-, ⟨⟩, -⟩ := TokenKind.eq_of_append_cons_eq rfl rfl same
    | some a' =>
      obtain ⟨rfl, -, behind⟩ := TokenKind.eq_of_append_cons_eq rfl rfl same
      obtain ⟨rfl, -, -⟩ :=
        TokenKind.eq_of_append_cons_eq rfl rfl (List.append_cancel_left behind)
      exact ⟨rfl, rfl⟩

theorem kinds_eq_of_kindsDisplay_eq {expected expected' actual actual' : Option TokenKind}
    (same : kindsDisplay expected actual = kindsDisplay expected' actual') :
    expected = expected' ∧ actual = actual' := by
  have texts := congrArg String.toList same
  cases expected with
  | none =>
    cases expected' with
    | none =>
      cases actual with
      | none =>
        cases actual' with
        | none => exact ⟨rfl, rfl⟩
        | some a' => simp [kindsDisplay] at texts
      | some a =>
        cases actual' with
        | none => simp [kindsDisplay] at texts
        | some a' =>
          have names : a.name.toList = a'.name.toList := by
            simpa [kindsDisplay] using texts
          rw [TokenKind.name_injective (String.toList_inj.mp names)]
          exact ⟨rfl, rfl⟩
    | some e' => cases actual <;> cases actual' <;> simp [kindsDisplay] at texts
  | some e =>
    cases expected' with
    | none => cases actual <;> cases actual' <;> simp [kindsDisplay] at texts
    | some e' =>
      obtain ⟨rfl, found⟩ := kinds_eq_of_kindsDisplay_some_eq same
      exact ⟨rfl, found⟩

/-! ## Main result -/

/-- Errors with the same message agree in everything, whatever they are made of: no cause excludes
    any kinds. -/
theorem message_eq_iff (e e' : QueryError) : e.message = e'.message ↔ e = e' := by
  constructor
  · intro same
    obtain ⟨code, span, expected, actual⟩ := e
    obtain ⟨code', span', expected', actual'⟩ := e'
    have split : code.display.toList ++ ' ' :: '(' :: (span.display.toList ++
          ')' :: (kindsDisplay expected actual).toList) =
        code'.display.toList ++ ' ' :: '(' :: (span'.display.toList ++
          ')' :: (kindsDisplay expected' actual').toList) := by
      simpa [message] using congrArg String.toList same
    obtain ⟨rfl, places⟩ := ErrorCode.eq_of_append_eq split
    obtain ⟨rfl, kinds⟩ := Span.eq_of_append_eq places
    obtain ⟨rfl, rfl⟩ := kinds_eq_of_kindsDisplay_eq (String.toList_inj.mp kinds)
    rfl
  · rintro rfl
    rfl

end QueryError

end SelectQuery
