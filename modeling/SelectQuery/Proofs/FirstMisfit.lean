import SelectQuery.Proofs.Stage

/-!
# Where a list of tokens fails

A list of tokens fails at the first token that no statement has there. That token and the kind that
was expected are read off the stage that the tokens before it lead to; the one exception is a
condition for which too few tokens are left, which fails where it begins. The main result says so of
a position in a list of tokens (`parseAt_eq_error`), and that no place further left could have been
blamed: the tokens that were taken are the beginning of an accepted list, and with the token that is
blamed they are not.
-/

namespace SelectQuery

/-- How many of the tokens stand before the first that stands for the end of a text. -/
def tokensBeforeEnd (ts : List Token) : Nat :=
  (ts.takeWhile (·.kind != .endOfInput)).length

theorem tokensBeforeEnd_cons {t : Token} (noEnd : t.kind ≠ .endOfInput) (ts : List Token) :
    tokensBeforeEnd (t :: ts) = tokensBeforeEnd ts + 1 := by
  simp [tokensBeforeEnd, noEnd]

/-- The error that blames the next of the tokens, or the last one if there is none. -/
def refusal (e : Ending) (expected : Option TokenKind) : List Token → QueryError
  | [] => .unexpectedToken e.last expected (some .endOfInput)
  | t :: _ => .unexpectedToken t.span expected (some t.kind)

@[simp]
theorem code_refusal (e : Ending) (expected : Option TokenKind) (ts : List Token) :
    (refusal e expected ts).code = .unexpectedToken := by
  cases ts <;> rfl

@[simp]
theorem expected_refusal (e : Ending) (expected : Option TokenKind) (ts : List Token) :
    (refusal e expected ts).expected = expected := by
  cases ts <;> rfl

namespace Stage

/-- The kind that an error names as expected at the stage. Where a sign is missing it is the first
    of them, and where a value is missing it is none. -/
def expected : Stage → Option TokenKind
  | start => some .selectKey
  | columns | comma => some .fromKey
  | table | column => some .identifier
  | sign => some .equal
  | value | clause | full => none

/-- How many tokens there are at least from the stage to the end of a statement with a
    condition. -/
def distance : Stage → Nat
  | start => 7
  | columns | comma => 6
  | table => 5
  | clause => 4
  | column => 3
  | sign => 2
  | value => 1
  | full => 0

/-- Where the condition has begun, the tokens before the end of the text are enough to go through
    with it. -/
def HasRoom (stage : Stage) (rest : List Token) : Prop :=
  stage.distance ≤ Reader.conditionLength → stage.distance ≤ tokensBeforeEnd rest

theorem hasRoom_of_lt {stage : Stage} {rest : List Token}
    (before : Reader.conditionLength < stage.distance) : stage.HasRoom rest := by
  intro begun
  exact absurd begun (Nat.not_le.mpr before)

/-- A statement that has come to the stage fails before the rest of the tokens. -/
inductive Halts (e : Ending) (rest : List Token) : Stage → QueryError → Prop
  | short : tokensBeforeEnd rest < Reader.conditionLength →
      Halts e rest column (.plain .invalidWhereClause e.sentinel)
  | misfit {stage : Stage} : stage.isWhole = false → stage.HasRoom rest → stage.Stuck rest →
      Halts e rest stage (refusal e stage.expected rest)

/-- A statement that has come to the stage goes on over some of the tokens and fails before the
    rest. -/
def HaltsWithin (stage : Stage) (e : Ending) (ts : List Token) (err : QueryError)
    (rest : List Token) : Prop :=
  ∃ taken stage', ts = taken ++ rest ∧ stage.after taken = some stage' ∧ Halts e rest stage' err

namespace HaltsWithin

variable {stage stage' : Stage} {e : Ending} {ts rest : List Token} {err : QueryError}

theorem here (halts : Halts e rest stage err) : stage.HaltsWithin e rest err rest :=
  ⟨[], stage, rfl, rfl, halts⟩

theorem append {part : List Token} (reached : stage.after part = some stage')
    (later : stage'.HaltsWithin e ts err rest) : stage.HaltsWithin e (part ++ ts) err rest := by
  obtain ⟨taken, stage'', rfl, goesOn, halts⟩ := later
  refine ⟨part ++ taken, stage'', (List.append_assoc part taken rest).symm, ?_, halts⟩
  rw [after_append, reached, Option.bind_some, goesOn]

theorem cons {t : Token} (next : stage.next? t.kind = some stage')
    (later : stage'.HaltsWithin e ts err rest) : stage.HaltsWithin e (t :: ts) err rest := by
  have reached : stage.after [t] = some stage' := by
    rw [after_cons, next]
    rfl
  exact append reached later

end HaltsWithin

end Stage

/-! ## How readers fail -/

namespace Reader

variable {α β : Type} {e : Ending} {ts rest : List Token} {err : QueryError}

/-- The reader fails with the error and leaves the rest of the tokens. -/
def Fails (p : Reader α) (e : Ending) (ts : List Token) (err : QueryError) (rest : List Token) :
    Prop :=
  (p e ts).result = .error err ∧ (p e ts).rest = rest

theorem not_fails_pure {a : α} : ¬Fails (pure a) e ts err rest := by
  rw [Fails, pure_run]
  exact nofun

theorem not_fails_reach {m : Milestone} : ¬Fails (reach m) e ts err rest :=
  nofun

theorem not_fails_columnList : ¬Fails columnList e ts err rest :=
  nofun

theorem fails_bind_iff {p : Reader α} {f : α → Reader β} :
    Fails (p >>= f) e ts err rest ↔ Fails p e ts err rest ∨
      ∃ a between, Gives p e ts a between ∧ Fails (f a) e between err rest := by
  unfold Fails Gives
  cases read : (p e ts).result with
  | error err' =>
    rw [bind_run_of_error read]
    simp
  | ok a =>
    rw [bind_run_of_ok read]
    constructor
    · intro failed
      exact Or.inr ⟨a, (p e ts).rest, ⟨rfl, rfl⟩, failed⟩
    · intro failed
      rcases failed with ⟨⟨⟩, -⟩ | ⟨_, _, ⟨⟨⟩, rfl⟩, failed⟩
      exact failed

theorem fails_map_iff {p : Reader α} {f : α → β} :
    Fails (f <$> p) e ts err rest ↔ Fails p e ts err rest := by
  show Fails (p >>= fun a => pure (f a)) e ts err rest ↔ _
  simp [fails_bind_iff, not_fails_pure]

theorem fails_take_iff {value? : Token → Option α} {expected : Option TokenKind} :
    Fails (take value? expected) e ts err rest ↔
      (∀ t ∈ ts.head?, value? t = none) ∧ err = refusal e expected ts ∧ rest = ts := by
  cases ts with
  | nil => simp [Fails, take, refuse, refusal, eq_comm]
  | cons t later => cases found : value? t <;> simp [Fails, take, refuse, refusal, found, eq_comm]

theorem fails_token_iff {kind : TokenKind} :
    Fails (token kind) e ts err rest ↔
      (∀ t ∈ ts.head?, t.kind ≠ kind) ∧ err = refusal e (some kind) ts ∧ rest = ts := by
  simp [token, fails_take_iff, Token.textOf?]

theorem fails_tableName_iff :
    Fails tableName e ts err rest ↔
      (∀ t ∈ ts.head?, t.kind ≠ .identifier) ∧ err = refusal e (some .identifier) ts ∧
        rest = ts := by
  simp [tableName, fails_bind_iff, not_fails_pure, not_fails_reach, fails_token_iff]

theorem fails_roomForCondition_iff :
    Fails roomForCondition e ts err rest ↔ tokensBeforeEnd ts < conditionLength ∧
      err = .plain .invalidWhereClause e.sentinel ∧ rest = ts := by
  unfold roomForCondition Fails tokensBeforeEnd
  by_cases short : (ts.takeWhile (·.kind != .endOfInput)).length < conditionLength
  · simp [short, eq_comm]
  · simp [short]

/-! ### Stages at which readers fail -/

theorem next?_sign_of_comparison? {t : Token} (absent : t.comparison? = none) :
    Stage.sign.next? t.kind = none := by
  refine Option.eq_none_iff_forall_ne_some.mpr fun stage next => ?_
  obtain ⟨-, comparison, sign⟩ := exists_signOf next
  rw [comparison?_eq_some_iff.mpr sign] at absent
  cases absent

theorem next?_value_of_literal? {t : Token} (absent : t.literal? = none) :
    Stage.value.next? t.kind = none := by
  refine Option.eq_none_iff_forall_ne_some.mpr fun stage next => ?_
  obtain ⟨-, literal, value⟩ := exists_valueOf next
  rw [literal?_eq_some_iff.mpr value] at absent
  cases absent

/-- A condition fails where it begins if too few tokens are left, and else at the first token that
    it cannot go on with. -/
theorem haltsWithin_of_fails_condition (failed : Fails condition e ts err rest) :
    Stage.column.HaltsWithin e ts err rest := by
  simp only [condition, fails_bind_iff, fails_roomForCondition_iff, gives_roomForCondition_iff,
    fails_token_iff, gives_token_iff, fails_take_iff, gives_take_iff, not_fails_pure,
    not_fails_reach, comparison?_eq_some_iff, and_false, exists_false, or_false] at failed
  rcases failed with ⟨short, rfl, rfl⟩ | ⟨_, _, ⟨room, rfl⟩, failed⟩
  · exact .here (.short short)
  -- Each token that is taken leaves room for one less behind it.
  change 3 ≤ tokensBeforeEnd ts at room
  rcases failed with ⟨noColumn, rfl, rfl⟩ | ⟨_, _, ⟨column, rfl, isColumn, -⟩, failed⟩
  · have stuck : Stage.column.Stuck rest := by
      intro t first
      exact if_neg (noColumn t first)
    exact .here (.misfit rfl (fun _ => room) stuck)
  have atColumn : Stage.column.next? column.kind = some .sign := if_pos isColumn
  rw [tokensBeforeEnd_cons (Stage.ne_endOfInput_of_next? atColumn)] at room
  refine .cons atColumn ?_
  rcases failed with ⟨noSign, rfl, rfl⟩ | ⟨_, _, ⟨sign, rfl, isSign⟩, failed⟩
  · have stuck : Stage.sign.Stuck rest := by
      intro t first
      exact next?_sign_of_comparison? (noSign t first)
    exact .here (.misfit rfl (fun _ => Nat.le_of_succ_le_succ room) stuck)
  have atSign := next?_sign_of_signOf isSign
  rw [tokensBeforeEnd_cons (Stage.ne_endOfInput_of_next? atSign)] at room
  refine .cons atSign ?_
  obtain ⟨noValue, rfl, rfl⟩ := failed
  have stuck : Stage.value.Stuck rest := by
    intro t first
    exact next?_value_of_literal? (noValue t first)
  refine .here (.misfit rfl (fun _ => ?_) stuck)
  exact Nat.le_of_succ_le_succ (Nat.le_of_succ_le_succ room)

theorem haltsWithin_of_fails_whereClause (failed : Fails whereClause e ts err rest) :
    Stage.clause.HaltsWithin e ts err rest := by
  cases ts with
  | nil => cases failed.1
  | cons t later =>
    by_cases key : t.kind = .whereKey
    · have inCondition : Fails (some <$> condition) e later err rest := by
        simpa [Fails, whereClause, key] using failed
      exact .cons (if_pos key) (haltsWithin_of_fails_condition (fails_map_iff.mp inCondition))
    · have none := failed.1
      simp [whereClause, done, key] at none

/-- The columns that are split off lead to a stage at which only the key of the table may stand
    next, as far as the rest has it. -/
theorem after_splitColumns (ts : List Token) :
    ∃ part stage, ts = part ++ (splitColumns ts).2 ∧ Stage.columns.after part = some stage ∧
      (stage = .columns ∨ stage = .comma) ∧
      ∀ t ∈ (splitColumns ts).2.head?, t.kind ≠ .fromKey → stage.next? t.kind = none := by
  fun_induction splitColumns ts with
  | case1 =>
    refine ⟨[], .columns, rfl, rfl, Or.inl rfl, fun u first => ?_⟩
    cases first
  | case2 t rest none =>
    refine ⟨[], .columns, rfl, rfl, Or.inl rfl, fun u first noKey => ?_⟩
    cases first
    have noColumn : ¬t.IsColumn := fun column => by
      rw [column?_eq_some_iff.mpr ⟨column, rfl⟩] at none
      cases none
    rw [next?_columns_of_not_isColumn noColumn, if_neg noKey]
  | case3 t name found =>
    obtain ⟨column, -⟩ := column?_eq_some_iff.mp found
    refine ⟨[t], .comma, rfl, after_singleton_of_isColumn column, Or.inr rfl, fun u first => ?_⟩
    cases first
  | case4 t name found next later comma further ih =>
    obtain ⟨column, -⟩ := column?_eq_some_iff.mp found
    obtain ⟨part, stage, split, reached, either, stuck⟩ := ih
    have atComma : Stage.comma.next? .comma = some .columns := rfl
    refine ⟨t :: next :: part, stage, ?_, ?_, either, stuck⟩
    · rw [List.cons_append, List.cons_append, ← split]
    · simp [next?_columns_of_isColumn column, comma, atComma, reached]
  | case5 t name found next later noComma =>
    obtain ⟨column, -⟩ := column?_eq_some_iff.mp found
    refine ⟨[t], .comma, rfl, after_singleton_of_isColumn column, Or.inr rfl, ?_⟩
    intro u first noKey
    cases first
    rw [next?_comma_of_ne noComma, if_neg noKey]

theorem haltsWithin_of_fails_statement (failed : Fails statement e ts err rest) :
    Stage.start.HaltsWithin e ts err rest := by
  simp only [statement, fails_bind_iff, fails_token_iff, gives_token_iff, not_fails_columnList,
    gives_columnList_iff, fails_tableName_iff, gives_tableName_iff, not_fails_pure,
    false_or, and_false, exists_false, or_false] at failed
  rcases failed with ⟨noSelect, rfl, rfl⟩ | ⟨_, ts, ⟨select, rfl, isSelect, -⟩, names, between,
    split, failed⟩
  · have stuck : Stage.start.Stuck rest := by
      intro t first
      exact if_neg (noSelect t first)
    exact .here (.misfit rfl (Stage.hasRoom_of_lt (by decide)) stuck)
  obtain ⟨part, stage, cut, reached, either, stuck⟩ := after_splitColumns ts
  rw [split] at cut stuck
  rw [cut]
  refine .cons (if_pos isSelect) (.append reached ?_)
  rcases failed with ⟨noFrom, rfl, rfl⟩ | ⟨_, _, ⟨fromKey, rfl, isFrom, -⟩, failed⟩
  · have halted : stage.Stuck rest := by
      intro t first
      exact stuck t first (noFrom t first)
    rcases either with rfl | rfl
    · exact .here (.misfit rfl (Stage.hasRoom_of_lt (by decide)) halted)
    · exact .here (.misfit rfl (Stage.hasRoom_of_lt (by decide)) halted)
  have atFrom : stage.next? fromKey.kind = some .table := by
    rw [isFrom]
    rcases either with rfl | rfl
    · rfl
    · rfl
  refine .cons atFrom ?_
  rcases failed with ⟨noTable, rfl, rfl⟩ | ⟨_, _, ⟨table, rfl, isTable, -⟩, failed⟩
  · have stuck : Stage.table.Stuck rest := by
      intro t first
      exact if_neg (noTable t first)
    exact .here (.misfit rfl (Stage.hasRoom_of_lt (by decide)) stuck)
  exact .cons (if_pos isTable) (haltsWithin_of_fails_whereClause failed)

end Reader

/-! ## The place of a failure is unique -/

namespace Stage

/-- A token leads no further than one step towards the end, and never back. -/
theorem distance_of_next? {stage stage' : Stage} {kind : TokenKind}
    (next : stage.next? kind = some stage') :
    stage'.distance ≤ stage.distance ∧ stage.distance ≤ stage'.distance + 1 := by
  cases stage <;> grind [next?, distance]

theorem distance_of_after {stage stage' : Stage} {ts : List Token}
    (reached : stage.after ts = some stage') :
    stage'.distance ≤ stage.distance ∧ stage.distance ≤ stage'.distance + ts.length := by
  induction ts generalizing stage with
  | nil =>
    cases reached
    exact ⟨Nat.le_refl _, Nat.le_refl _⟩
  | cons t ts ih =>
    obtain ⟨between, next, reached⟩ := after_cons_eq_some_iff.mp reached
    have step := distance_of_next? next
    have run := ih reached
    rw [List.length_cons]
    omega

/-- Tokens that lead from stage to stage do not stand for the end of a text. -/
theorem tokensBeforeEnd_append {stage stage' : Stage} {us vs : List Token}
    (reached : stage.after us = some stage') :
    tokensBeforeEnd (us ++ vs) = us.length + tokensBeforeEnd vs := by
  induction us generalizing stage with
  | nil => simp
  | cons t us ih =>
    obtain ⟨between, next, reached⟩ := after_cons_eq_some_iff.mp reached
    rw [List.cons_append, tokensBeforeEnd_cons (ne_endOfInput_of_next? next), ih reached,
      List.length_cons, Nat.add_right_comm]

/-- Where too few tokens are left for a condition, the automaton is not stuck any further on. -/
theorem not_stuck_of_short {us vs us' vs' : List Token} {stage : Stage}
    (split : us ++ vs = us' ++ vs') (reached : start.after us = some column)
    (short : tokensBeforeEnd vs < Reader.conditionLength)
    (reached' : start.after us' = some stage) (room : stage.HasRoom vs') : ¬stage.Stuck vs' := by
  intro stuck
  -- The tokens behind the column lead on, so they count among those before the end of the text.
  obtain ⟨ws, -, rfl, goesOn⟩ := exists_after_of_stuck split reached reached' stuck
  have run := distance_of_after goesOn
  have enough := room run.1
  rw [tokensBeforeEnd_append goesOn] at short
  change _ ∧ 3 ≤ _ at run
  change _ < 3 at short
  omega

/-- From the table on no stage comes twice. -/
theorem eq_nil_of_after_self {stage : Stage} {ts : List Token}
    (begun : stage.distance ≤ table.distance) (again : stage.after ts = some stage) : ts = [] := by
  cases ts with
  | nil => rfl
  | cons t ts =>
    obtain ⟨between, next, later⟩ := after_cons_eq_some_iff.mp again
    have closer : between.distance < stage.distance := by
      cases stage <;> grind [next?, distance]
    exact absurd (distance_of_after later).1 (Nat.not_le.mpr closer)

/-- The automaton comes to the column of a condition only once. -/
theorem column_unique {us vs us' vs' : List Token} (split : us ++ vs = us' ++ vs')
    (reached : start.after us = some column) (reached' : start.after us' = some column) :
    us = us' ∧ vs = vs' := by
  have once {us ws : List Token} (reached : start.after us = some column)
      (again : start.after (us ++ ws) = some column) : ws = [] := by
    rw [after_append, reached, Option.bind_some] at again
    exact eq_nil_of_after_self (by decide) again
  rcases List.append_eq_append_iff.mp split with ⟨ws, rfl, rfl⟩ | ⟨ws, rfl, rfl⟩
  · obtain rfl := once reached reached'
    simp
  · obtain rfl := once reached' reached
    simp

/-- A statement fails at one place of a list of tokens, with one error. -/
theorem HaltsWithin.unique {e : Ending} {ts rest rest' : List Token} {err err' : QueryError}
    (halts : start.HaltsWithin e ts err rest) (halts' : start.HaltsWithin e ts err' rest') :
    err = err' ∧ rest = rest' := by
  obtain ⟨taken, stage, rfl, reached, halted⟩ := halts
  obtain ⟨taken', stage', split, reached', halted'⟩ := halts'
  cases halted with
  | short few =>
    cases halted' with
    | short _ => exact ⟨rfl, (column_unique split reached reached').2⟩
    | misfit _ room stuck => exact absurd stuck (not_stuck_of_short split reached few reached' room)
  | misfit _ room stuck =>
    cases halted' with
    | short few => exact absurd stuck (not_stuck_of_short split.symm reached' few reached room)
    | misfit _ _ stuck' =>
      obtain ⟨-, rfl, rfl⟩ := stop_unique split reached stuck reached' stuck'
      exact ⟨rfl, rfl⟩

end Stage

namespace Reader

variable {e : Ending} {ts rest : List Token} {err : QueryError}

theorem not_haltsWithin_of_gives_statement {st : Statement}
    (given : Gives statement e ts st rest) (err : QueryError) (rest' : List Token) :
    ¬Stage.start.HaltsWithin e ts err rest' := by
  rintro ⟨taken, stage, rfl, reached, halted⟩
  obtain ⟨taken', split, sentence, ends⟩ := gives_statement_iff.mp given
  have stuck := Statement.endsBefore_iff.mp ends
  cases halted with
  | short few =>
    have room : st.lastStage.HasRoom rest := by
      unfold Stage.HasRoom Statement.lastStage
      split
      · exact fun _ => Nat.zero_le _
      · exact Stage.hasRoom_of_lt (by decide)
    exact Stage.not_stuck_of_short split reached few sentence.after room stuck
  | misfit unfinished _ stuck' =>
    obtain ⟨-, -, rfl⟩ := Stage.stop_unique split reached stuck' sentence.after stuck
    rw [st.isWhole_lastStage] at unfinished
    cases unfinished

/-- A statement cannot be read exactly if the automaton halts, and it fails there. -/
theorem fails_statement_iff :
    Fails statement e ts err rest ↔ Stage.start.HaltsWithin e ts err rest := by
  constructor
  · exact haltsWithin_of_fails_statement
  · intro halts
    cases read : (statement e ts).result with
    | ok st =>
      have given : Gives statement e ts st (statement e ts).rest := ⟨read, rfl⟩
      exact absurd halts (not_haltsWithin_of_gives_statement given err rest)
    | error err' =>
      have failed : Fails statement e ts err' (statement e ts).rest := ⟨read, rfl⟩
      obtain ⟨rfl, same⟩ := halts.unique (haltsWithin_of_fails_statement failed)
      exact ⟨read, same.symm⟩

end Reader

/-! ## The token that is blamed -/

theorem ne_endOfInput_of_after {stage stage' : Stage} {taken : List Token}
    (reached : stage.after taken = some stage') : ∀ t ∈ taken, t.kind ≠ .endOfInput := by
  induction taken generalizing stage with
  | nil => exact nofun
  | cons t taken ih =>
    obtain ⟨between, next, reached⟩ := Stage.after_cons_eq_some_iff.mp reached
    exact List.forall_mem_cons.mpr ⟨Stage.ne_endOfInput_of_next? next, ih reached⟩

/-- Where a token for the end of the text stands among the tokens, every error names the span of
    a token: of the one that it blames, or of the one for the end. -/
theorem exists_blamed {ts : List Token} {position : Nat} {e : QueryError}
    (failed : (parseAt ts position).result = .error e)
    (ended : ∃ z ∈ ts.drop position, z.kind = .endOfInput) :
    ∃ t ∈ ts, e.span = t.span ∧ (e.code = .unexpectedToken ∧ e.actual = some t.kind ∨
      e.code = .invalidWhereClause ∧ e.actual = none ∧ t.kind = .endOfInput) := by
  obtain ⟨z, member, isEnd⟩ := ended
  obtain ⟨taken, stage, split, reached, halted⟩ := Reader.fails_statement_iff.mp ⟨failed, rfl⟩
  generalize (Reader.statement (Ending.of ts) (ts.drop position)).rest = rest at split halted
  cases halted with
  | short _ =>
    cases found : ts.find? (·.kind = .endOfInput) with
    | none =>
      have absent := List.find?_eq_none.mp found z (List.mem_of_mem_drop member)
      simp [isEnd] at absent
    | some first =>
      refine ⟨first, List.mem_of_find?_eq_some found, ?_, Or.inr ⟨rfl, rfl, ?_⟩⟩
      · simp [Ending.of, found, QueryError.plain]
      · simpa using List.find?_some found
  | misfit _ _ _ =>
    cases rest with
    | nil =>
      rw [split, List.append_nil] at member
      exact absurd isEnd (ne_endOfInput_of_after reached z member)
    | cons t rest =>
      have inside : t ∈ ts.drop position := split ▸ List.mem_append_right taken List.mem_cons_self
      exact ⟨t, List.mem_of_mem_drop inside, rfl, Or.inl ⟨rfl, rfl⟩⟩

/-! ## Main result -/

/-- The error blames the position: it names the token there, or behind all tokens the end of the
    text, at the place of the last token. -/
def Blames (ts : List Token) (position : Nat) (e : QueryError) : Prop :=
  match ts[position]? with
  | some t => e.span = t.span ∧ e.actual = some t.kind
  | none => e.span = (ts.getLast?.map (·.span)).getD .zero ∧ e.actual = some .endOfInput

/-- Reading a statement from the position on fails at the other, with the error. -/
structure FailsWith (ts : List Token) (position stop : Nat) (e : QueryError) : Prop where
  bounds : position ≤ stop ∧ stop ≤ max position ts.length
  code : e.code = .unexpectedToken ∨ e.code = .invalidWhereClause
  kinds : e.code ≠ .unexpectedToken → e.expected = none ∧ e.actual = none
  blames : e.code = .unexpectedToken → Blames ts stop e
  /-- The tokens that were taken can still become a statement. -/
  viable : e.code = .unexpectedToken → Viable (ts.extract position stop)
  /-- With the token that is blamed they cannot. -/
  misfit : e.code = .unexpectedToken → ∀ t, ts[stop]? = some t →
    ¬Viable (ts.extract position stop ++ [t])
  /-- With a token of the kind that was expected they can. -/
  fits : ∀ t : Token, e.expected = some t.kind → Viable (ts.extract position stop ++ [t])
  /-- Too few tokens are left for a condition. -/
  short : e.code = .invalidWhereClause ↔
    (∃ sentence key st, ts.extract position stop = sentence ++ [key] ∧ Sentence sentence st ∧
      st.condition = none ∧ key.kind = .whereKey) ∧ tokensBeforeEnd (ts.drop stop) < 3
  sentinel : e.code = .invalidWhereClause →
    match ts.find? (·.kind = .endOfInput) with
    | some z => e.span = z.span
    | none => ∃ last, ts.getLast? = some last ∧ e.span = last.span

/-- A statement that is read from a position on and fails, fails where the automaton halts. -/
theorem halts_of_parseAt {ts : List Token} {position : Nat} {e : QueryError}
    (failed : (parseAt ts position).result = .error e) :
    ∃ stage, Stage.start.after (ts.extract position (parseAt ts position).position) = some stage ∧
      stage.Halts (Ending.of ts) (ts.drop (parseAt ts position).position) e ∧
      position ≤ (parseAt ts position).position ∧
      (parseAt ts position).position ≤ max position ts.length := by
  obtain ⟨taken, stage, split, reached, halted⟩ := Reader.fails_statement_iff.mp ⟨failed, rfl⟩
  have whole := congrArg List.length split
  have stop : (parseAt ts position).position = position + taken.length :=
    position_parseAt split rfl
  rw [List.length_drop, List.length_append] at whole
  rw [stop, ← List.drop_drop, split, List.drop_left]
  refine ⟨stage, ?_, halted, by omega, by omega⟩
  rw [List.extract_eq_take_drop, split, Nat.add_sub_cancel_left, List.take_left]
  exact reached

/-- The column of a condition may stand next exactly behind a statement without one and its key. -/
theorem after_eq_column_iff {taken : List Token} :
    Stage.start.after taken = some .column ↔ ∃ sentence key st, taken = sentence ++ [key] ∧
      Sentence sentence st ∧ st.condition = none ∧ key.kind = .whereKey := by
  constructor
  · intro reached
    rcases List.eq_nil_or_concat taken with rfl | ⟨sentence, key, rfl⟩
    · cases reached
    · rw [List.concat_eq_append, Stage.after_concat, Option.bind_eq_some_iff] at reached
      obtain ⟨stage, reached, next⟩ := reached
      have atKey : stage = .clause ∧ key.kind = .whereKey := by
        cases stage <;> grind [Stage.next?]
      obtain ⟨rfl, isKey⟩ := atKey
      obtain ⟨st, isSentence, last⟩ := exists_sentence reached rfl
      refine ⟨sentence, key, st, List.concat_eq_append, isSentence, ?_, isKey⟩
      unfold Statement.lastStage at last
      split at last
      · cases last
      · simpa using ‹¬st.condition.isSome = true›
  · rintro ⟨sentence, key, st, rfl, isSentence, none, isKey⟩
    rw [Stage.after_concat, isSentence.after, Statement.lastStage, none, isKey]
    rfl

theorem blames_refusal (ts : List Token) (position : Nat) (expected : Option TokenKind) :
    Blames ts position (refusal (Ending.of ts) expected (ts.drop position)) := by
  unfold Blames
  rw [← List.head?_drop]
  cases ts.drop position with
  | nil => exact ⟨rfl, rfl⟩
  | cons t rest => exact ⟨rfl, rfl⟩

/-- The kind that is expected at a stage may stand next. -/
theorem Stage.exists_next?_expected {stage : Stage} {kind : TokenKind}
    (expected : stage.expected = some kind) : ∃ stage', stage.next? kind = some stage' := by
  cases stage <;> cases expected <;> exact ⟨_, rfl⟩

theorem span_sentinel {ts : List Token} (nonempty : ts ≠ []) :
    match ts.find? (·.kind = .endOfInput) with
    | some z => (Ending.of ts).sentinel = z.span
    | none => ∃ last, ts.getLast? = some last ∧ (Ending.of ts).sentinel = last.span := by
  have last := List.getLast?_eq_some_getLast nonempty
  cases found : ts.find? (·.kind = .endOfInput) with
  | some z => simp [Ending.of, found]
  | none => exact ⟨_, last, by simp [Ending.of, found, last]⟩

theorem FailsWith.of_short {ts : List Token} {position stop : Nat}
    (bounds : position ≤ stop ∧ stop ≤ max position ts.length)
    (reached : Stage.start.after (ts.extract position stop) = some .column)
    (few : tokensBeforeEnd (ts.drop stop) < 3) :
    FailsWith ts position stop (.plain .invalidWhereClause (Ending.of ts).sentinel) where
  bounds := bounds
  code := Or.inr rfl
  kinds _ := ⟨rfl, rfl⟩
  blames := nofun
  viable := nofun
  misfit := nofun
  fits := nofun
  short := ⟨fun _ => ⟨after_eq_column_iff.mp reached, few⟩, fun _ => rfl⟩
  sentinel _ := by
    refine span_sentinel ?_
    rintro rfl
    simp at reached

theorem FailsWith.of_misfit {ts : List Token} {position stop : Nat} {stage : Stage}
    (bounds : position ≤ stop ∧ stop ≤ max position ts.length)
    (reached : Stage.start.after (ts.extract position stop) = some stage)
    (unfinished : stage.isWhole = false) (room : stage.HasRoom (ts.drop stop))
    (stuck : stage.Stuck (ts.drop stop)) :
    FailsWith ts position stop (refusal (Ending.of ts) stage.expected (ts.drop stop)) where
  bounds := bounds
  code := Or.inl (code_refusal _ _ _)
  kinds other := absurd (code_refusal _ _ _) other
  blames _ := blames_refusal ts stop stage.expected
  viable _ := viable_of_after reached
  misfit _ t found := by
    rw [← List.head?_drop] at found
    exact not_viable_of_misfit reached unfinished (stuck t found)
  fits t expected := by
    rw [expected_refusal] at expected
    obtain ⟨stage', next⟩ := Stage.exists_next?_expected expected
    have further : Stage.start.after (ts.extract position stop ++ [t]) = some stage' := by
      rw [Stage.after_concat, reached, Option.bind_some, next]
    exact viable_of_after further
  short := by
    rw [code_refusal]
    refine ⟨nofun, fun short => ?_⟩
    have column := after_eq_column_iff.mpr short.1
    rw [reached, Option.some.injEq] at column
    subst column
    exact absurd (room (Nat.le_refl _)) (Nat.not_le.mpr short.2)
  sentinel := by
    rw [code_refusal]
    exact nofun

/-- A statement that cannot be read from a position on is refused at the leftmost place at which
    that can be told, or for want of tokens for its condition. -/
theorem parseAt_eq_error (ts : List Token) (position : Nat) (e : QueryError)
    (failed : (parseAt ts position).result = .error e) :
    FailsWith ts position (parseAt ts position).position e := by
  obtain ⟨stage, reached, halted, bounds⟩ := halts_of_parseAt failed
  cases halted with
  | short few => exact .of_short bounds reached few
  | misfit unfinished room stuck => exact .of_misfit bounds reached unfinished room stuck

/-- A second comma is refused where a column list may end, and a condition that breaks off is
    refused at its beginning, at the place of an end that stands before the statement. -/
theorem parseAt_eq_error_second_comma :
    let comma : Token := ⟨.comma, ",", ⟨9, 1⟩⟩
    let front : List Token := [⟨.selectKey, "select", ⟨0, 6⟩⟩, ⟨.identifier, "id", ⟨7, 2⟩⟩]
    let broken : List Token := [⟨.endOfInput, "", ⟨4, 0⟩⟩, ⟨.selectKey, "select", ⟨5, 6⟩⟩,
      ⟨.fromKey, "from", ⟨12, 4⟩⟩, ⟨.identifier, "t", ⟨17, 1⟩⟩, ⟨.whereKey, "where", ⟨19, 5⟩⟩,
      ⟨.identifier, "a", ⟨25, 1⟩⟩, ⟨.equal, "=", ⟨27, 1⟩⟩]
    (parseAt (front ++ [comma, comma]) 0).result =
        .error ⟨.unexpectedToken, ⟨9, 1⟩, some .fromKey, some .comma⟩ ∧
      FailsWith (front ++ [comma, comma]) 0 3
        ⟨.unexpectedToken, ⟨9, 1⟩, some .fromKey, some .comma⟩ ∧
      (parseAt broken 1).result = .error ⟨.invalidWhereClause, ⟨4, 0⟩, none, none⟩ ∧
      FailsWith broken 1 5 ⟨.invalidWhereClause, ⟨4, 0⟩, none, none⟩ := by
  refine ⟨rfl, ?_, rfl, ?_⟩
  · exact parseAt_eq_error _ 0 _ rfl
  · exact parseAt_eq_error _ 1 _ rfl

end SelectQuery
