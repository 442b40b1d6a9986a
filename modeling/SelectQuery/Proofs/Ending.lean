import SelectQuery.Proofs.FirstMisfit

/-!
# Where a list of tokens begins and ends

Reading a statement from a position on does not see the tokens before it, and of the end of the list
it sees two spans only: that of the last token, where the tokens run out, and that of the token for
the end of the text, where too few are left for a condition (`Reader.statement_alike`). A token for
the end of the text is as good as no more tokens, whatever stands behind it
(`Reader.statement_append_end`). So a list can be cut where reading begins (`parseAt_drop`), and a
token for the end may stand behind it or not (`parseAt_append_end`), with the same outcome but for
the places that name the end.
-/

namespace SelectQuery

/-! ## Outcomes -/

/-- The outcomes agree but for the places of errors, which are related as said: they are the same
    statement, or errors with the same code that name the same kinds of token. -/
inductive AgreeUpTo (places : QueryError → QueryError → Prop) :
    Except QueryError Statement → Except QueryError Statement → Prop
  | statement {st : Statement} : AgreeUpTo places (.ok st) (.ok st)
  | error {e e' : QueryError} : e.code = e'.code → e.expected = e'.expected →
      e.actual = e'.actual → places e e' → AgreeUpTo places (.error e) (.error e')

/-- The outcomes of reading a statement from the tokens, once with each ending. The endings show
    where too few tokens are left for a condition, and where all tokens are taken. -/
inductive Alike (e e' : Ending) (ts : List Token) :
    Except QueryError Statement → Except QueryError Statement → Prop
  | statement {st : Statement} : Alike e e' ts (.ok st) (.ok st)
  | short : Alike e e' ts (.error (.plain .invalidWhereClause e.sentinel))
      (.error (.plain .invalidWhereClause e'.sentinel))
  | allTaken {expected : Option TokenKind} :
      Alike e e' ts (.error (.unexpectedToken e.last expected (some .endOfInput)))
        (.error (.unexpectedToken e'.last expected (some .endOfInput)))
  | misfit {t : Token} {expected : Option TokenKind} : t ∈ ts →
      Alike e e' ts (.error (.unexpectedToken t.span expected (some t.kind)))
        (.error (.unexpectedToken t.span expected (some t.kind)))

/-- Outcomes with two endings agree but for places if these are related where they differ. -/
theorem Alike.agreeUpTo {e e' : Ending} {ts : List Token}
    {outcome outcome' : Except QueryError Statement} {places : QueryError → QueryError → Prop}
    (alike : Alike e e' ts outcome outcome')
    (short : places (.plain .invalidWhereClause e.sentinel)
      (.plain .invalidWhereClause e'.sentinel))
    (allTaken : ∀ expected, places (.unexpectedToken e.last expected (some .endOfInput))
      (.unexpectedToken e'.last expected (some .endOfInput)))
    (misfit : ∀ t ∈ ts, ∀ expected, places (.unexpectedToken t.span expected (some t.kind))
      (.unexpectedToken t.span expected (some t.kind))) :
    AgreeUpTo places outcome outcome' := by
  cases alike with
  | statement => exact .statement
  | short => exact .error rfl rfl rfl short
  | allTaken => exact .error rfl rfl rfl (allTaken _)
  | misfit member => exact .error rfl rfl rfl (misfit _ member _)

/-! ## Other endings -/

theorem Stage.Halts.alike {stage : Stage} {e : Ending} {rest ts : List Token} {err : QueryError}
    (halts : stage.Halts e rest err) (e' : Ending) (within : ∀ t ∈ rest, t ∈ ts) :
    ∃ err', stage.Halts e' rest err' ∧ Alike e e' ts (.error err) (.error err') := by
  cases halts with
  | short few => exact ⟨_, .short few, .short⟩
  | misfit unfinished room stuck =>
    refine ⟨_, .misfit unfinished room stuck, ?_⟩
    cases rest with
    | nil => exact .allTaken
    | cons t rest => exact .misfit (within t List.mem_cons_self)

/-- With another ending the same tokens are taken, and the outcome is the same but for the spans of
    the ending. -/
theorem Reader.statement_alike (e e' : Ending) (ts : List Token) :
    Alike e e' ts (statement e ts).result (statement e' ts).result ∧
      (statement e' ts).rest = (statement e ts).rest := by
  cases read : (statement e ts).result with
  | ok st =>
    have given := gives_statement_iff.mp ⟨read, rfl⟩
    obtain ⟨read', left⟩ := gives_statement_iff.mpr given
    rw [read']
    exact ⟨.statement, left⟩
  | error err =>
    obtain ⟨taken, stage, split, reached, halted⟩ := fails_statement_iff.mp ⟨read, rfl⟩
    have within : ∀ t ∈ (statement e ts).rest, t ∈ ts := by
      intro t member
      rw [split]
      exact List.mem_append_right taken member
    obtain ⟨err', halted', alike⟩ := halted.alike e' within
    obtain ⟨read', left⟩ := fails_statement_iff.mpr ⟨taken, stage, split, reached, halted'⟩
    rw [read']
    exact ⟨alike, left⟩

/-! ## A token for the end of the text -/

/-- The ending of the tokens in front of these: who has taken all of them stands at the first of
    these. -/
def Ending.before (e : Ending) (behind : List Token) : Ending :=
  ⟨(behind.head?.map (·.span)).getD e.last, e.sentinel⟩

section Ended

variable {behind : List Token}

theorem tokensBeforeEnd_append_end (ended : ∀ z ∈ behind.head?, z.kind = .endOfInput)
    (rest : List Token) : tokensBeforeEnd (rest ++ behind) = tokensBeforeEnd rest := by
  induction rest with
  | nil =>
    cases behind with
    | nil => rfl
    | cons z behind => simp [tokensBeforeEnd, ended z rfl]
  | cons t rest ih =>
    by_cases isEnd : t.kind = .endOfInput
    · simp [tokensBeforeEnd, isEnd]
    · rw [List.cons_append, tokensBeforeEnd_cons isEnd, tokensBeforeEnd_cons isEnd, ih]

theorem Stage.Stuck.append_end {stage : Stage} {rest : List Token} (stuck : stage.Stuck rest)
    (ended : ∀ z ∈ behind.head?, z.kind = .endOfInput) : stage.Stuck (rest ++ behind) := by
  intro t first
  cases rest with
  | nil =>
    refine Option.eq_none_iff_forall_ne_some.mpr fun stage' next => ?_
    exact ne_endOfInput_of_next? next (ended t first)
  | cons u rest => exact stuck t first

theorem refusal_before (e : Ending) (expected : Option TokenKind) (rest : List Token)
    (ended : ∀ z ∈ behind.head?, z.kind = .endOfInput) :
    refusal (e.before behind) expected rest = refusal e expected (rest ++ behind) := by
  cases rest with
  | cons t rest => rfl
  | nil =>
    cases behind with
    | nil => rfl
    | cons z behind =>
      show QueryError.unexpectedToken z.span expected (some .endOfInput) = _
      rw [← ended z rfl]
      rfl

theorem Stage.Halts.append_end {stage : Stage} {e : Ending} {rest : List Token} {err : QueryError}
    (halts : stage.Halts (e.before behind) rest err)
    (ended : ∀ z ∈ behind.head?, z.kind = .endOfInput) : stage.Halts e (rest ++ behind) err := by
  cases halts with
  | short few =>
    refine .short ?_
    rwa [tokensBeforeEnd_append_end ended]
  | misfit unfinished room stuck =>
    rw [refusal_before e _ rest ended]
    refine .misfit unfinished ?_ (stuck.append_end ended)
    intro begun
    rw [tokensBeforeEnd_append_end ended]
    exact room begun

/-- Before a token for the end of the text, or before no more tokens, reading goes on as if these
    were all tokens. -/
theorem Reader.statement_append_end (e : Ending) (ts : List Token)
    (ended : ∀ z ∈ behind.head?, z.kind = .endOfInput) :
    (statement e (ts ++ behind)).result = (statement (e.before behind) ts).result ∧
      (statement e (ts ++ behind)).rest = (statement (e.before behind) ts).rest ++ behind := by
  cases read : (statement (e.before behind) ts).result with
  | ok st =>
    obtain ⟨taken, split, sentence, ends⟩ := gives_statement_iff.mp ⟨read, rfl⟩
    apply gives_statement_iff.mpr
    refine ⟨taken, ?_, sentence, ?_⟩
    · rw [← List.append_assoc, ← split]
    · rw [Statement.endsBefore_iff] at ends ⊢
      exact ends.append_end ended
  | error err =>
    obtain ⟨taken, stage, split, reached, halted⟩ := fails_statement_iff.mp ⟨read, rfl⟩
    apply fails_statement_iff.mpr
    refine ⟨taken, stage, ?_, reached, halted.append_end ended⟩
    rw [← List.append_assoc, ← split]

end Ended

/-- Before a token for the end of the text, or before no more tokens, reading from a position on
    takes what it takes of the tokens in front. -/
theorem parseAt_append_of_ended {ts ts' behind : List Token} {position : Nat} {e : Ending}
    (split : ts'.drop position = ts.drop position ++ behind)
    (ended : ∀ z ∈ behind.head?, z.kind = .endOfInput) (ending : (Ending.of ts').before behind = e) :
    (parseAt ts' position).result = (Reader.statement e (ts.drop position)).result ∧
      (parseAt ts' position).position = position +
        ((ts.drop position).length - (Reader.statement e (ts.drop position)).rest.length) := by
  subst ending
  have read := Reader.statement_append_end (Ending.of ts') (ts.drop position) ended
  simp only [parseAt, split, read, List.length_append, Nat.add_sub_add_right, and_self]

/-! ## Cutting where reading begins -/

/-- The span is that of the first token for the end of a text, or of the last token without one. -/
def PlacedAtEnd (ts : List Token) (span : Span) : Prop :=
  match ts.find? (·.kind = .endOfInput) with
  | some z => span = z.span
  | none => ∃ last, ts.getLast? = some last ∧ span = last.span

/-- Reading from a position on takes as many tokens as reading the tokens from there on alone, with
    the same outcome, except that a condition that lacks tokens is an error at the end of the list,
    which may stand before the position. -/
theorem parseAt_drop (ts : List Token) (position : Nat) (within : position < ts.length) :
    (parseAt ts position).position = position + (parseAt (ts.drop position) 0).position ∧
    AgreeUpTo (fun e e' =>
        (e.code ≠ .invalidWhereClause → e.span = e'.span) ∧
        (e.code = .invalidWhereClause →
          PlacedAtEnd ts e.span ∧ PlacedAtEnd (ts.drop position) e'.span))
      (parseAt ts position).result (parseAt (ts.drop position) 0).result := by
  have nonempty : ts ≠ [] := List.ne_nil_of_length_pos (Nat.zero_lt_of_lt within)
  have nonempty' : ts.drop position ≠ [] := by
    rwa [Ne, List.drop_eq_nil_iff, Nat.not_le]
  have last : (Ending.of (ts.drop position)).last = (Ending.of ts).last := by
    simp only [Ending.of, List.getLast?_drop, if_neg (Nat.not_le.mpr within)]
  obtain ⟨alike, left⟩ :=
    Reader.statement_alike (Ending.of ts) (Ending.of (ts.drop position)) (ts.drop position)
  constructor
  · simp only [parseAt, List.drop_zero, left, Nat.zero_add]
  · apply alike.agreeUpTo
    · refine ⟨fun other => absurd rfl other, fun _ => ⟨?_, ?_⟩⟩
      · exact span_sentinel nonempty
      · exact span_sentinel nonempty'
    · intro expected
      exact ⟨fun _ => last.symm, fun other => by cases other⟩
    · intro t _ expected
      exact ⟨fun _ => rfl, fun other => by cases other⟩

/-- A condition breaks off at an end that stands before the statement, or at the last token where
    that end is cut off. -/
theorem parseAt_drop_before :
    let ts : List Token := [⟨.endOfInput, "", ⟨4, 0⟩⟩, ⟨.selectKey, "select", ⟨5, 6⟩⟩,
      ⟨.fromKey, "from", ⟨12, 4⟩⟩, ⟨.identifier, "t", ⟨17, 1⟩⟩, ⟨.whereKey, "where", ⟨19, 5⟩⟩,
      ⟨.identifier, "a", ⟨25, 1⟩⟩]
    1 < ts.length ∧
    (parseAt ts 1).result = .error ⟨.invalidWhereClause, ⟨4, 0⟩, none, none⟩ ∧
    (parseAt (ts.drop 1) 0).result = .error ⟨.invalidWhereClause, ⟨25, 1⟩, none, none⟩ ∧
    (parseAt ts 1).position = 1 + (parseAt (ts.drop 1) 0).position ∧
    AgreeUpTo (fun e e' =>
        (e.code ≠ .invalidWhereClause → e.span = e'.span) ∧
        (e.code = .invalidWhereClause → PlacedAtEnd ts e.span ∧ PlacedAtEnd (ts.drop 1) e'.span))
      (parseAt ts 1).result (parseAt (ts.drop 1) 0).result := by
  intro ts
  have within : 1 < ts.length := by decide
  exact ⟨within, rfl, rfl, parseAt_drop ts 1 within⟩

/-! ## Cutting where the text ends -/

theorem Ending.of_noEnd {ts : List Token} (noEnd : ∀ t ∈ ts, t.kind ≠ .endOfInput) :
    Ending.of ts =
      ⟨(ts.getLast?.map (·.span)).getD .zero, (ts.getLast?.map (·.span)).getD .zero⟩ := by
  have absent : ts.find? (·.kind = .endOfInput) = none := by
    simpa using noEnd
  simp only [Ending.of, absent]
  rfl

theorem Ending.sentinel_append_end {ts : List Token} {z : Token}
    (noEnd : ∀ t ∈ ts, t.kind ≠ .endOfInput) (isEnd : z.kind = .endOfInput) (junk : List Token) :
    (Ending.of (ts ++ z :: junk)).sentinel = z.span := by
  have absent : ts.find? (·.kind = .endOfInput) = none := by
    simpa using noEnd
  simp [Ending.of, List.find?_append, absent, isEnd]

/-- Before a token for the end of the text that stands behind others, reading goes on as if it had
    these others and both spans of the ending were that of the token. -/
theorem parseAt_append_end_eq {ts : List Token} {z : Token}
    (noEnd : ∀ t ∈ ts, t.kind ≠ .endOfInput) (isEnd : z.kind = .endOfInput) (position : Nat)
    (junk : List Token) (inside : position ≤ ts.length ∨ junk = []) :
    (parseAt (ts ++ z :: junk) position).result =
        (Reader.statement ⟨z.span, z.span⟩ (ts.drop position)).result ∧
      (parseAt (ts ++ z :: junk) position).position = position + ((ts.drop position).length -
        (Reader.statement ⟨z.span, z.span⟩ (ts.drop position)).rest.length) := by
  have sentinel := Ending.sentinel_append_end noEnd isEnd junk
  by_cases within : position ≤ ts.length
  · refine parseAt_append_of_ended (List.drop_append_of_le_length within) ?_ ?_
    · intro t first
      cases first
      exact isEnd
    · rw [Ending.before, sentinel]
      rfl
  · obtain rfl := inside.resolve_left within
    have nothing : (ts ++ [z]).drop position = ts.drop position ++ [] := by
      rw [List.append_nil, List.drop_eq_nil_of_le, List.drop_eq_nil_of_le]
      · omega
      · rw [List.length_append, List.length_singleton]
        omega
    refine parseAt_append_of_ended nothing ?_ ?_
    · intro t first
      cases first
    · rw [Ending.before, sentinel]
      simp [Ending.of]

/-- Reading from a position on does not see what stands behind the first token for the end of the
    text, and whether that token is there shows only in the places of errors: of a condition that
    lacks tokens, and where all tokens are taken. -/
theorem parseAt_append_end (ts : List Token) (z : Token)
    (noEnd : ∀ t ∈ ts, t.kind ≠ .endOfInput) (isEnd : z.kind = .endOfInput) :
    (∀ position, (parseAt ts position).position = (parseAt (ts ++ [z]) position).position ∧
      AgreeUpTo (fun e e' =>
          (¬(e.code = .invalidWhereClause ∨ e.actual = some .endOfInput) → e.span = e'.span) ∧
          (e.code = .invalidWhereClause ∨ e.actual = some .endOfInput →
            e.span = (ts.getLast?.map (·.span)).getD .zero ∧ e'.span = z.span))
        (parseAt ts position).result (parseAt (ts ++ [z]) position).result) ∧
    (∀ position junk, position ≤ ts.length →
      (parseAt (ts ++ z :: junk) position).result = (parseAt (ts ++ [z]) position).result ∧
        (parseAt (ts ++ z :: junk) position).position =
          (parseAt (ts ++ [z]) position).position) := by
  constructor
  · intro position
    obtain ⟨result, stop⟩ := parseAt_append_end_eq noEnd isEnd position [] (.inr rfl)
    obtain ⟨alike, left⟩ :=
      Reader.statement_alike (Ending.of ts) ⟨z.span, z.span⟩ (ts.drop position)
    rw [result, stop, left]
    refine ⟨rfl, ?_⟩
    apply alike.agreeUpTo
    · rw [Ending.of_noEnd noEnd]
      exact ⟨fun other => absurd (.inl rfl) other, fun _ => ⟨rfl, rfl⟩⟩
    · intro expected
      rw [Ending.of_noEnd noEnd]
      exact ⟨fun other => absurd (.inr rfl) other, fun _ => ⟨rfl, rfl⟩⟩
    · intro t member expected
      refine ⟨fun _ => rfl, fun atEnd => ?_⟩
      rcases atEnd with other | isEnd
      · cases other
      · exact absurd (Option.some.inj isEnd) (noEnd t (List.mem_of_mem_drop member))
  · intro position junk within
    obtain ⟨result, stop⟩ := parseAt_append_end_eq noEnd isEnd position junk (.inl within)
    obtain ⟨result', stop'⟩ := parseAt_append_end_eq noEnd isEnd position [] (.inl within)
    rw [result, result', stop, stop']
    exact ⟨rfl, rfl⟩

/-- A statement that breaks off at the end of the tokens, with a token for the end and without, and
    with tokens behind that would have gone on with it. -/
theorem parseAt_append_end_table :
    let ts : List Token := [⟨.selectKey, "select", ⟨0, 6⟩⟩, ⟨.fromKey, "from", ⟨7, 4⟩⟩]
    let z : Token := ⟨.endOfInput, "", ⟨20, 0⟩⟩
    let table : Token := ⟨.identifier, "t", ⟨21, 1⟩⟩
    (∀ t ∈ ts, t.kind ≠ .endOfInput) ∧ z.kind = .endOfInput ∧
    (parseAt ts 0).result =
        .error ⟨.unexpectedToken, ⟨7, 4⟩, some .identifier, some .endOfInput⟩ ∧
      (parseAt ts 0).position = (parseAt (ts ++ [z]) 0).position ∧
      AgreeUpTo (fun e e' =>
          (¬(e.code = .invalidWhereClause ∨ e.actual = some .endOfInput) → e.span = e'.span) ∧
          (e.code = .invalidWhereClause ∨ e.actual = some .endOfInput →
            e.span = ⟨7, 4⟩ ∧ e'.span = ⟨20, 0⟩))
        (parseAt ts 0).result (parseAt (ts ++ [z]) 0).result ∧
    (parseAt (ts ++ [z]) 0).result =
        .error ⟨.unexpectedToken, ⟨20, 0⟩, some .identifier, some .endOfInput⟩ ∧
      (parseAt (ts ++ [z, table]) 0).result = (parseAt (ts ++ [z]) 0).result ∧
      (parseAt (ts ++ [z, table]) 0).position = (parseAt (ts ++ [z]) 0).position := by
  intro ts z table
  have noEnd : ∀ t ∈ ts, t.kind ≠ .endOfInput := by
    simp [ts]
  obtain ⟨optional, final⟩ := parseAt_append_end ts z noEnd rfl
  obtain ⟨stop, agree⟩ := optional 0
  exact ⟨noEnd, rfl, rfl, stop, agree, rfl, final 0 [table] (Nat.zero_le _)⟩

end SelectQuery
