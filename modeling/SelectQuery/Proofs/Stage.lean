import SelectQuery.Proofs.Grammar

/-!
# The stages of a statement

How far a statement has come, told by the kinds of its tokens alone. A `Stage` says what may stand
next, and each token that may stand there leads to another stage, so the stages are an automaton on
kinds of token. It knows the sentences of the grammar (`exists_sentence`), hence the lists of
tokens that are accepted (`accepted_iff`); and because every stage can be led to the end, any tokens
that lead to a stage are the beginning of an accepted list (`viable_of_after`), while a token that
may not stand next spoils every list that goes on with it (`not_viable_of_misfit`).
-/

namespace SelectQuery

/-- How far a statement has come. -/
inductive Stage where
  /-- Nothing stands there. -/
  | start
  /-- A column may stand next, behind the first key or a comma. -/
  | columns
  /-- A comma may stand next, behind a column. -/
  | comma
  | table
  /-- The statement may end here, or its condition may begin. -/
  | clause
  | column
  | sign
  | value
  /-- The statement is at its end. -/
  | full
  deriving DecidableEq, Repr

namespace Stage

/-- The stage behind a token of the kind, if such a token may stand next. -/
def next? (stage : Stage) (kind : TokenKind) : Option Stage :=
  match stage with
  | start => if kind = .selectKey then some columns else none
  | columns =>
    if kind = .identifier ∨ kind = .asterisk then some comma
    else if kind = .fromKey then some table
    else none
  | comma =>
    if kind = .comma then some columns
    else if kind = .fromKey then some table
    else none
  | table => if kind = .identifier then some clause else none
  | clause => if kind = .whereKey then some column else none
  | column => if kind = .identifier then some sign else none
  | sign =>
    if kind = .equal ∨ kind = .greaterThan ∨ kind = .lessThan then some value else none
  | value => if kind = .number ∨ kind = .stringLiteral then some full else none
  | full => none

/-- The stage behind the tokens. -/
def after (stage : Stage) (ts : List Token) : Option Stage :=
  ts.foldlM (fun stage t => stage.next? t.kind) stage

/-- Whether what stands before the stage is a statement. -/
def isWhole : Stage → Bool
  | clause | full => true
  | _ => false

@[simp]
theorem after_nil (stage : Stage) : stage.after [] = some stage :=
  rfl

@[simp]
theorem after_cons (stage : Stage) (t : Token) (ts : List Token) :
    stage.after (t :: ts) = (stage.next? t.kind).bind (·.after ts) :=
  rfl

theorem after_append (stage : Stage) (us vs : List Token) :
    stage.after (us ++ vs) = (stage.after us).bind (·.after vs) := by
  simp [after, List.foldlM_append, Option.bind_eq_bind]

theorem after_concat (stage : Stage) (ts : List Token) (t : Token) :
    stage.after (ts ++ [t]) = (stage.after ts).bind (·.next? t.kind) := by
  rw [after_append]
  cases stage.after ts with
  | none => rfl
  | some stage => cases found : stage.next? t.kind <;> simp [found]

/-- The token for the end of a text leads nowhere. -/
theorem ne_endOfInput_of_next? {stage stage' : Stage} {kind : TokenKind}
    (next : stage.next? kind = some stage') : kind ≠ .endOfInput := by
  rintro rfl
  cases stage <;> cases next

end Stage

/-! ## Sentences lead to the end -/

theorem next?_columns_of_isColumn {t : Token} (column : t.IsColumn) :
    Stage.columns.next? t.kind = some .comma :=
  if_pos column

theorem after_singleton_of_isColumn {t : Token} (column : t.IsColumn) :
    Stage.columns.after [t] = some .comma := by
  rw [Stage.after_cons, next?_columns_of_isColumn column]
  rfl

/-- What is no column can only be the key of the table. -/
theorem next?_columns_of_not_isColumn {t : Token} (noColumn : ¬t.IsColumn) :
    Stage.columns.next? t.kind = if t.kind = .fromKey then some .table else none :=
  if_neg noColumn

/-- What is no comma behind a column can only be the key of the table. -/
theorem next?_comma_of_ne {kind : TokenKind} (noComma : kind ≠ .comma) :
    Stage.comma.next? kind = if kind = .fromKey then some .table else none :=
  if_neg noComma

theorem next?_sign_of_signOf {kind : TokenKind} {comparison : Comparison}
    (sign : SignOf kind comparison) : Stage.sign.next? kind = some .value := by
  cases sign <;> rfl

theorem next?_value_of_valueOf {t : Token} {literal : Literal} (value : ValueOf t literal) :
    Stage.value.next? t.kind = some .full := by
  rcases value with kind | kind <;> rw [kind] <;> rfl

/-- Behind a list of columns either a column or a comma may stand next. -/
theorem ColumnPart.after {part : List Token} {names : List String}
    (columns : ColumnPart part names) :
    Stage.columns.after part = some .columns ∨ Stage.columns.after part = some .comma := by
  induction columns with
  | empty => exact Or.inl rfl
  | single column => exact Or.inr (after_singleton_of_isColumn column)
  | more column comma _ ih =>
    have isComma : Stage.comma.next? .comma = some .columns := rfl
    simpa [next?_columns_of_isColumn column, comma, isComma] using ih

/-- The stage behind the tokens of the statement. -/
def Statement.lastStage (st : Statement) : Stage :=
  if st.condition.isSome then .full else .clause

theorem ConditionPart.after {clause : List Token} {condition : Option Condition}
    (part : ConditionPart clause condition) :
    Stage.clause.after clause = some (if condition.isSome then .full else .clause) := by
  cases part with
  | empty => rfl
  | full isKey isColumn isSign isValue =>
    have key : Stage.clause.next? .whereKey = some .column := rfl
    have name : Stage.column.next? .identifier = some .sign := rfl
    simp [isKey, key, isColumn, name, next?_sign_of_signOf isSign, next?_value_of_valueOf isValue]

/-- The tokens of a statement lead to its last stage. -/
theorem Sentence.after {taken : List Token} {st : Statement} (sentence : Sentence taken st) :
    Stage.start.after taken = some st.lastStage := by
  cases sentence with
  | @mk select fromKey table columns clause names condition isSelect isColumns isFrom isTable
      part =>
    have behind : Stage.table.after (table :: clause) =
        some (Statement.mk names table.text condition).lastStage := by
      rw [Stage.after_cons, isTable]
      exact part.after
    have fromColumns : Stage.columns.after (columns ++ fromKey :: table :: clause) =
        Stage.table.after (table :: clause) := by
      rw [Stage.after_append]
      rcases isColumns.after with reached | reached
      · rw [reached, Option.bind_some, Stage.after_cons, isFrom]
        rfl
      · rw [reached, Option.bind_some, Stage.after_cons, isFrom]
        rfl
    rw [Stage.after_cons, isSelect, ← behind, ← fromColumns]
    rfl

/-! ## Only sentences lead to the end -/

theorem Stage.after_cons_eq_some_iff {stage stage' : Stage} {t : Token} {ts : List Token} :
    stage.after (t :: ts) = some stage' ↔
      ∃ between, stage.next? t.kind = some between ∧ between.after ts = some stage' := by
  rw [Stage.after_cons, Option.bind_eq_some_iff]

theorem exists_signOf {kind : TokenKind} {stage : Stage}
    (next : Stage.sign.next? kind = some stage) :
    stage = .value ∧ ∃ comparison, SignOf kind comparison := by
  simp only [Stage.next?, Option.ite_none_right_eq_some, Option.some.injEq] at next
  obtain ⟨isSign, rfl⟩ := next
  rcases isSign with rfl | rfl | rfl
  · exact ⟨rfl, _, .equal⟩
  · exact ⟨rfl, _, .greaterThan⟩
  · exact ⟨rfl, _, .lessThan⟩

theorem exists_valueOf {t : Token} {stage : Stage}
    (next : Stage.value.next? t.kind = some stage) :
    stage = .full ∧ ∃ literal, ValueOf t literal := by
  simp only [Stage.next?, Option.ite_none_right_eq_some, Option.some.injEq] at next
  obtain ⟨isValue, rfl⟩ := next
  rcases isValue with kind | kind
  · exact ⟨rfl, _, .number kind⟩
  · exact ⟨rfl, _, .string kind⟩

/-- What leads from the table to the end of a statement is a condition or nothing. -/
theorem exists_conditionPart {clause : List Token} {stage : Stage}
    (reached : Stage.clause.after clause = some stage) (whole : stage.isWhole = true) :
    ∃ condition, ConditionPart clause condition := by
  cases clause with
  | nil => exact ⟨none, .empty⟩
  | cons key ts =>
    obtain ⟨_, atKey, reached⟩ := Stage.after_cons_eq_some_iff.mp reached
    simp only [Stage.next?, Option.ite_none_right_eq_some, Option.some.injEq] at atKey
    obtain ⟨isKey, rfl⟩ := atKey
    cases ts with
    | nil => cases reached; cases whole
    | cons column ts =>
      obtain ⟨_, atColumn, reached⟩ := Stage.after_cons_eq_some_iff.mp reached
      simp only [Stage.next?, Option.ite_none_right_eq_some, Option.some.injEq] at atColumn
      obtain ⟨isColumn, rfl⟩ := atColumn
      cases ts with
      | nil => cases reached; cases whole
      | cons sign ts =>
        obtain ⟨_, atSign, reached⟩ := Stage.after_cons_eq_some_iff.mp reached
        obtain ⟨rfl, comparison, isSign⟩ := exists_signOf atSign
        cases ts with
        | nil => cases reached; cases whole
        | cons value ts =>
          obtain ⟨_, atValue, reached⟩ := Stage.after_cons_eq_some_iff.mp reached
          obtain ⟨rfl, literal, isValue⟩ := exists_valueOf atValue
          cases ts with
          | nil => exact ⟨_, .full isKey isColumn isSign isValue⟩
          | cons t ts => cases reached

/-- What leads from the first key to the end of a statement begins with columns and the key of the
    table. -/
theorem exists_columnPart {ts : List Token} {stage : Stage}
    (reached : Stage.columns.after ts = some stage) (whole : stage.isWhole = true) :
    ∃ part names key rest, ts = part ++ key :: rest ∧ ColumnPart part names ∧
      key.kind = .fromKey ∧ Stage.table.after rest = some stage := by
  induction ts using Reader.splitColumns.induct with
  | case1 => cases reached; cases whole
  | case2 t rest none =>
    obtain ⟨between, next, reached⟩ := Stage.after_cons_eq_some_iff.mp reached
    have noColumn : ¬t.IsColumn := by
      intro column
      rw [Reader.column?_eq_some_iff.mpr ⟨column, rfl⟩] at none
      cases none
    rw [next?_columns_of_not_isColumn noColumn, Option.ite_none_right_eq_some] at next
    obtain ⟨isKey, ⟨⟩⟩ := next
    exact ⟨[], [], t, rest, rfl, .empty, isKey, reached⟩
  | case3 t name found =>
    obtain ⟨column, -⟩ := Reader.column?_eq_some_iff.mp found
    rw [Stage.after_cons, next?_columns_of_isColumn column] at reached
    cases reached
    cases whole
  | case4 t name found next later comma ih =>
    obtain ⟨column, -⟩ := Reader.column?_eq_some_iff.mp found
    rw [Stage.after_cons, next?_columns_of_isColumn column, Option.bind_some, Stage.after_cons,
      comma] at reached
    obtain ⟨part, names, key, rest, rfl, columns, isKey, reached⟩ := ih reached
    exact ⟨t :: next :: part, _, key, rest, rfl, .more column comma columns, isKey, reached⟩
  | case5 t name found next later noComma =>
    obtain ⟨column, -⟩ := Reader.column?_eq_some_iff.mp found
    rw [Stage.after_cons, next?_columns_of_isColumn column, Option.bind_some,
      Stage.after_cons_eq_some_iff] at reached
    obtain ⟨between, atNext, reached⟩ := reached
    rw [next?_comma_of_ne noComma, Option.ite_none_right_eq_some] at atNext
    obtain ⟨isKey, ⟨⟩⟩ := atNext
    exact ⟨[t], _, next, later, rfl, .single column, isKey, reached⟩

/-- The tokens that lead to a stage at which a statement is whole are the tokens of a statement. -/
theorem exists_sentence {taken : List Token} {stage : Stage}
    (reached : Stage.start.after taken = some stage) (whole : stage.isWhole = true) :
    ∃ st, Sentence taken st ∧ st.lastStage = stage := by
  cases taken with
  | nil => cases reached; cases whole
  | cons select ts =>
    obtain ⟨_, atSelect, fromColumns⟩ := Stage.after_cons_eq_some_iff.mp reached
    simp only [Stage.next?, Option.ite_none_right_eq_some, Option.some.injEq] at atSelect
    obtain ⟨isSelect, rfl⟩ := atSelect
    obtain ⟨part, names, fromKey, rest, rfl, columns, isFrom, fromTable⟩ :=
      exists_columnPart fromColumns whole
    cases rest with
    | nil => cases fromTable; cases whole
    | cons table clause =>
      obtain ⟨_, atTable, fromClause⟩ := Stage.after_cons_eq_some_iff.mp fromTable
      simp only [Stage.next?, Option.ite_none_right_eq_some, Option.some.injEq] at atTable
      obtain ⟨isTable, rfl⟩ := atTable
      obtain ⟨condition, isCondition⟩ := exists_conditionPart fromClause whole
      have sentence : Sentence (select :: (part ++ fromKey :: table :: clause)) _ :=
        .mk isSelect columns isFrom isTable isCondition
      refine ⟨_, sentence, ?_⟩
      rw [sentence.after, Option.some.injEq] at reached
      exact reached

/-! ## Where the automaton stops -/

/-- No token at the front of the rest may stand next at the stage. -/
def Stage.Stuck (stage : Stage) (rest : List Token) : Prop :=
  ∀ t ∈ rest.head?, stage.next? t.kind = none

/-- Where the automaton is stuck lies at or behind every place that it comes to. -/
theorem Stage.exists_after_of_stuck {stage s s' : Stage} {us vs us' vs' : List Token}
    (split : us ++ vs = us' ++ vs') (reached : stage.after us = some s)
    (reached' : stage.after us' = some s') (stuck : s'.Stuck vs') :
    ∃ ws, us' = us ++ ws ∧ vs = ws ++ vs' ∧ s.after ws = some s' := by
  rcases List.append_eq_append_iff.mp split with ⟨ws, rfl, rfl⟩ | ⟨ws, rfl, rfl⟩
  · rw [after_append, reached, Option.bind_some] at reached'
    exact ⟨ws, rfl, rfl, reached'⟩
  · rw [after_append, reached', Option.bind_some] at reached
    cases ws with
    | nil =>
      cases reached
      exact ⟨[], by simp, rfl, rfl⟩
    | cons t ws =>
      rw [after_cons, stuck t rfl] at reached
      cases reached

/-- There is one place in a list of tokens where the automaton is stuck. -/
theorem Stage.stop_unique {stage s s' : Stage} {us vs us' vs' : List Token}
    (split : us ++ vs = us' ++ vs') (reached : stage.after us = some s) (stuck : s.Stuck vs)
    (reached' : stage.after us' = some s') (stuck' : s'.Stuck vs') :
    us = us' ∧ vs = vs' ∧ s = s' := by
  obtain ⟨ws, rfl, rfl, goesOn⟩ := exists_after_of_stuck split reached reached' stuck'
  cases ws with
  | nil =>
    cases goesOn
    exact ⟨(List.append_nil us).symm, rfl, rfl⟩
  | cons t ws =>
    rw [after_cons, stuck t rfl] at goesOn
    cases goesOn

/-! ## Accepted lists -/

/-- A statement stands at the front of the tokens. -/
def Accepted (ts : List Token) : Prop :=
  ∃ st, parse ts = .ok st

/-- The tokens are the beginning of an accepted list. -/
def Viable (taken : List Token) : Prop :=
  ∃ more, Accepted (taken ++ more)

theorem Statement.isWhole_lastStage (st : Statement) : st.lastStage.isWhole = true := by
  unfold Statement.lastStage
  split <;> rfl

theorem Statement.endsBefore_iff {st : Statement} {after : List Token} :
    st.EndsBefore after ↔ st.lastStage.Stuck after := by
  obtain ⟨columns, table, condition⟩ := st
  cases condition with
  | none => simp [Statement.EndsBefore, Statement.lastStage, Stage.Stuck, Stage.next?]
  | some c => simp [Statement.EndsBefore, Statement.lastStage, Stage.Stuck, Stage.next?]

/-- The accepted lists are those on which the automaton stops where a statement is whole. -/
theorem accepted_iff {ts : List Token} :
    Accepted ts ↔ ∃ taken after stage, ts = taken ++ after ∧
      Stage.start.after taken = some stage ∧ stage.isWhole = true ∧ stage.Stuck after := by
  unfold Accepted
  simp only [parse_eq_ok_iff]
  constructor
  · intro accepted
    rcases accepted with ⟨st, taken, after, split, sentence, ends⟩
    exact ⟨taken, after, _, split, sentence.after, st.isWhole_lastStage,
      Statement.endsBefore_iff.mp ends⟩
  · intro found
    rcases found with ⟨taken, after, stage, split, reached, whole, stuck⟩
    obtain ⟨st, sentence, rfl⟩ := exists_sentence reached whole
    exact ⟨st, taken, after, split, sentence, Statement.endsBefore_iff.mpr stuck⟩

/-- Tokens that lead from the stage to the end of a statement. -/
def Stage.completion (stage : Stage) : List Token :=
  let kinds : List TokenKind := match stage with
    | start => [.selectKey, .fromKey, .identifier]
    | columns | comma => [.fromKey, .identifier]
    | table => [.identifier]
    | clause | full => []
    | column => [.identifier, .equal, .number]
    | sign => [.equal, .number]
    | value => [.number]
  kinds.map fun kind => ⟨kind, "", .zero⟩

theorem Stage.exists_after_completion (stage : Stage) :
    ∃ whole, stage.after stage.completion = some whole ∧ whole.isWhole = true := by
  cases stage with
  | start | columns | comma | table | clause => exact ⟨.clause, rfl, rfl⟩
  | column | sign | value | full => exact ⟨.full, rfl, rfl⟩

/-- Tokens that lead to a stage are the beginning of an accepted list. -/
theorem viable_of_after {taken : List Token} {stage : Stage}
    (reached : Stage.start.after taken = some stage) : Viable taken := by
  obtain ⟨stage', completed, whole⟩ := stage.exists_after_completion
  have toEnd : Stage.start.after (taken ++ stage.completion) = some stage' := by
    rw [Stage.after_append, reached, Option.bind_some, completed]
  have all : taken ++ stage.completion = taken ++ stage.completion ++ [] :=
    (List.append_nil _).symm
  exact ⟨stage.completion, accepted_iff.mpr ⟨_, [], stage', all, toEnd, whole, nofun⟩⟩

/-- A token that may not stand next, where a statement is not whole, spoils every list that goes on
    with it. -/
theorem not_viable_of_misfit {taken : List Token} {t : Token} {stage : Stage}
    (reached : Stage.start.after taken = some stage) (unfinished : stage.isWhole = false)
    (misfit : stage.next? t.kind = none) : ¬Viable (taken ++ [t]) := by
  rintro ⟨more, accepted⟩
  obtain ⟨taken', after, stage', split, reached', whole, stuck'⟩ := accepted_iff.mp accepted
  have stuck : stage.Stuck ([t] ++ more) := by
    intro u first
    cases first
    exact misfit
  rw [List.append_assoc] at split
  obtain ⟨-, -, rfl⟩ := Stage.stop_unique split reached stuck reached' stuck'
  rw [unfinished] at whole
  cases whole

end SelectQuery
