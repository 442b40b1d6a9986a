import SelectQuery.Proofs.Canonical
import SelectQuery.Proofs.FirstMisfit
import SelectQuery.Proofs.Layout

/-!
# What a text fails with

A text fails for its characters or for its tokens, and the error says which: one about characters
names no kinds of token and comes first, and one about tokens names the place and the kind of one of
them, which is never a kind that could have stood there, or says that the text ends in its
condition. Either way the place lies in the text (`failure_of_parseQuery`).
-/

namespace SelectQuery

open Text

/-- The kinds of token that could have stood where an error names that kind as expected. Where the
    first sign is named there could be any of them, and where no kind is named, a value. -/
def kindsExpected : Option TokenKind → List TokenKind
  | some .equal => [.equal, .greaterThan, .lessThan]
  | some kind => [kind]
  | none => [.number, .stringLiteral]

/-- The error blames one of the tokens, at its place, for not being of a kind that was expected. -/
def BlamesOne (ts : List Token) (e : QueryError) : Prop :=
  ∃ t ∈ ts, ∃ expected ∈ [some .selectKey, some .fromKey, some .identifier, some .equal, none],
    e = ⟨.unexpectedToken, t.span, expected, some t.kind⟩ ∧ t.kind ∉ kindsExpected expected

/-- The error is one that the text can fail with. -/
structure FailureOf (s : String) (e : QueryError) : Prop where
  code : e.code ≠ .noError
  within : e.span.start + e.span.length ≤ s.length
  /-- The position after the span is a word if the length of the text is one. -/
  word : s.length < Span.wordCount → e.span.end? = some (e.span.start + e.span.length)
  /-- A text that does not consist of tokens fails for that, whatever its tokens are. -/
  lexical : ∀ e', tokenize s = .error e' →
    e = e' ∧ (e.code = .unexpectedChar ∨ e.code = .unterminatedString) ∧
      e.expected = none ∧ e.actual = none
  syntactic : ∀ ts, tokenize s = .ok ts →
    e = ⟨.invalidWhereClause, ⟨s.length, 0⟩, none, none⟩ ∨ BlamesOne ts e

/-! ## Places in the text -/

/-- The place of every token lies in the text. -/
theorem span_le_of_mem_tokenize {s : String} {ts : List Token} (read : tokenize s = .ok ts)
    {t : Token} (member : t ∈ ts) : t.span.start + t.span.length ≤ s.length := by
  obtain ⟨tokens, tiled, rfl⟩ := tokenize_eq_ok_iff_tiles.mp read
  rcases List.mem_append.mp member with member | last
  · have inside := ((tiles_iff_layout.mp tiled).inside t member).2
    rwa [String.length_toList] at inside
  · rw [List.mem_singleton.mp last]
    exact Nat.le_refl _

/-- What a text fails with for its characters. -/
theorem lexical_of_tokenize {s : String} {e : QueryError} (failed : tokenize s = .error e) :
    e.span.start + e.span.length ≤ s.length ∧
      (e.code = .unexpectedChar ∨ e.code = .unterminatedString) ∧
      e.expected = none ∧ e.actual = none := by
  obtain ⟨covered, left, tokens, fault, split, -, stops, rfl⟩ :=
    tokenize_eq_error_iff_tiles.mp failed
  have whole := congrArg List.length split
  rw [List.length_append, String.length_toList] at whole
  rw [whole]
  cases stops with
  | unterminated _ => exact ⟨Nat.le_refl _, Or.inr rfl, rfl, rfl⟩
  | unexpected _ => exact ⟨by simp [ScanFault.error, QueryError.plain], Or.inl rfl, rfl, rfl⟩

/-- The first token for the end of a text stands at its end. -/
theorem sentinel_of_tokenize {s : String} {ts : List Token} (read : tokenize s = .ok ts) :
    (Ending.of ts).sentinel = ⟨s.length, 0⟩ := by
  obtain ⟨tokens, tiled, rfl⟩ := tokenize_eq_ok_iff_tiles.mp read
  have absent : tokens.find? (·.kind = .endOfInput) = none := by
    simpa using kind_ne_endOfInput_of_tiles tiled
  simp [Ending.of, List.find?_append, absent, Token.endOfInput]

/-! ## The token that does not fit -/

theorem Stage.expected_mem (stage : Stage) :
    stage.expected ∈ [some .selectKey, some .fromKey, some .identifier, some .equal, none] := by
  cases stage <;> decide

/-- Where a statement is not whole, a token that may not stand next is not of a kind that was
    expected. -/
theorem Stage.not_mem_kindsExpected {stage : Stage} {kind : TokenKind}
    (unfinished : stage.isWhole = false) (misfit : stage.next? kind = none) :
    kind ∉ kindsExpected stage.expected := by
  intro member
  cases stage with
  | clause | full => cases unfinished
  | start | columns | comma | table | column | sign | value =>
    simp only [expected, kindsExpected, List.mem_cons, List.not_mem_nil, or_false] at member
    grind [next?]

/-- What a text fails with for its tokens. -/
theorem syntactic_of_parse {s : String} {ts : List Token} {e : QueryError}
    (read : tokenize s = .ok ts) (failed : parse ts = .error e) :
    e = ⟨.invalidWhereClause, ⟨s.length, 0⟩, none, none⟩ ∨ BlamesOne ts e := by
  obtain ⟨taken, stage, split, reached, halted⟩ := Reader.fails_statement_iff.mp ⟨failed, rfl⟩
  generalize (Reader.statement (Ending.of ts) (ts.drop 0)).rest = rest at split halted
  rw [List.drop_zero] at split
  cases halted with
  | short _ =>
    left
    rw [sentinel_of_tokenize read]
    rfl
  | misfit unfinished _ stuck =>
    right
    cases rest with
    | nil =>
      -- The tokens that were taken end with the one for the end of the text, which leads nowhere.
      obtain ⟨tokens, -, rfl⟩ := tokenize_eq_ok_iff_tiles.mp read
      rw [List.append_nil] at split
      have member : Token.endOfInput s.length ∈ taken := by
        simp [← split]
      exact absurd rfl (ne_endOfInput_of_after reached _ member)
    | cons t rest =>
      have member : t ∈ ts := by
        simp [split]
      exact ⟨t, member, stage.expected, stage.expected_mem, rfl,
        stage.not_mem_kindsExpected unfinished (stuck t rfl)⟩

/-- The place of an error lies in the text. -/
theorem span_le_of_parseQuery_error {s : String} {e : QueryError}
    (failed : parseQuery s = .error e) : e.span.start + e.span.length ≤ s.length := by
  rcases parseQuery_eq_error_iff.mp failed with lexical | ⟨ts, read, failed⟩
  · exact (lexical_of_tokenize lexical).1
  · rcases syntactic_of_parse read failed with rfl | ⟨t, member, expected, -, rfl, -⟩
    · exact Nat.le_refl _
    · exact span_le_of_mem_tokenize read member

/-! ## Main result -/

/-- Every error of a text is one that it can fail with. -/
theorem failure_of_parseQuery (s : String) (e : QueryError) (failed : parseQuery s = .error e) :
    FailureOf s e := by
  have within : e.code ≠ .noError ∧ e.span.start + e.span.length ≤ s.length := by
    rcases parseQuery_eq_error_iff.mp failed with lexical | ⟨ts, read, failed⟩
    · obtain ⟨within, code | code, -, -⟩ := lexical_of_tokenize lexical <;> simp [code, within]
    · rcases syntactic_of_parse read failed with rfl | ⟨t, member, expected, -, rfl, -⟩
      · simp
      · simpa using span_le_of_mem_tokenize read member
  refine ⟨within.1, within.2, ?_, ?_, ?_⟩
  · intro fits
    exact if_pos (Nat.lt_of_le_of_lt within.2 fits)
  · intro e' lexical
    have same : e' = e := by
      rw [parseQuery, lexical] at failed
      exact Except.error.inj failed
    subst same
    exact ⟨rfl, (lexical_of_tokenize lexical).2⟩
  · intro ts read
    rcases parseQuery_eq_error_iff.mp failed with lexical | ⟨ts', read', failed⟩
    · rw [read] at lexical
      cases lexical
    · rw [read] at read'
      cases read'
      exact syntactic_of_parse read failed

/-- A value where a sign should be is blamed for itself, and a character that starts no token comes
    before a condition that breaks off. -/
theorem failure_of_parseQuery_sign :
    parseQuery "select * from t where a 1 2" =
        .error ⟨.unexpectedToken, ⟨24, 1⟩, some .equal, some .number⟩ ∧
      FailureOf "select * from t where a 1 2"
        ⟨.unexpectedToken, ⟨24, 1⟩, some .equal, some .number⟩ ∧
    parseQuery "select from t where ?" = .error ⟨.unexpectedChar, ⟨20, 1⟩, none, none⟩ ∧
      FailureOf "select from t where ?" ⟨.unexpectedChar, ⟨20, 1⟩, none, none⟩ := by
  have scanned : scan 0 "select * from t where a 1 2".toList =
      ⟨[⟨.selectKey, "select", ⟨0, 6⟩⟩, ⟨.asterisk, "*", ⟨7, 1⟩⟩, ⟨.fromKey, "from", ⟨9, 4⟩⟩,
        ⟨.identifier, "t", ⟨14, 1⟩⟩, ⟨.whereKey, "where", ⟨16, 5⟩⟩, ⟨.identifier, "a", ⟨22, 1⟩⟩,
        ⟨.number, "1", ⟨24, 1⟩⟩, ⟨.number, "2", ⟨26, 1⟩⟩], none⟩ := by
    decide +kernel
  have misfit : parseQuery "select * from t where a 1 2" =
      .error ⟨.unexpectedToken, ⟨24, 1⟩, some .equal, some .number⟩ :=
    parseQuery_of_scan scanned
  have scanned' : scan 0 "select from t where ?".toList =
      ⟨[⟨.selectKey, "select", ⟨0, 6⟩⟩, ⟨.fromKey, "from", ⟨7, 4⟩⟩, ⟨.identifier, "t", ⟨12, 1⟩⟩,
        ⟨.whereKey, "where", ⟨14, 5⟩⟩], some (.unexpectedChar '?' 20)⟩ := by
    decide +kernel
  have fault : parseQuery "select from t where ?" =
      .error ⟨.unexpectedChar, ⟨20, 1⟩, none, none⟩ := by
    simp only [parseQuery, tokenize, scanned']
    rfl
  exact ⟨misfit, failure_of_parseQuery _ _ misfit, fault, failure_of_parseQuery _ _ fault⟩

end SelectQuery
