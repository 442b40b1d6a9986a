import SelectQuery.Statement.Parse

/-!
# The grammar of statements

Which tokens are a statement, said as a grammar on lists of tokens. Reading a statement is correct
and complete for it (`Reader.gives_statement_iff`): it takes from the front of the tokens a list
that the grammar knows, and it takes it whenever there is one. A statement without a condition must
not be followed by the key of one; nothing else behind a statement matters, and neither does the
count of tokens that is made before a condition is read. The main result says so of a position in a
list of tokens (`parseAt_eq_ok_iff`).
-/

namespace SelectQuery

/-! ## The grammar -/

/-- A token that names a column. -/
def Token.IsColumn (t : Token) : Prop :=
  t.kind = .identifier ∨ t.kind = .asterisk

/-- No tokens, or columns with commas between them and possibly one behind the last, and the names
    of the columns in order. -/
inductive ColumnPart : List Token → List String → Prop
  | empty : ColumnPart [] []
  | single {column : Token} : column.IsColumn → ColumnPart [column] [column.text]
  | more {column comma : Token} {part : List Token} {names : List String} :
      column.IsColumn → comma.kind = .comma → ColumnPart part names →
      ColumnPart (column :: comma :: part) (column.text :: names)

/-- The kind of token that is the sign of the comparison. -/
inductive SignOf : TokenKind → Comparison → Prop
  | equal : SignOf .equal .equal
  | greaterThan : SignOf .greaterThan .greaterThan
  | lessThan : SignOf .lessThan .lessThan

/-- The token that stands for the value. -/
inductive ValueOf : Token → Literal → Prop
  | number {t : Token} : t.kind = .number → ValueOf t (.number t.text)
  | string {t : Token} : t.kind = .stringLiteral → ValueOf t (.string t.text)

/-- No tokens, or the key of a condition and the three tokens of one. -/
inductive ConditionPart : List Token → Option Condition → Prop
  | empty : ConditionPart [] none
  | full {key column sign value : Token} {comparison : Comparison} {literal : Literal} :
      key.kind = .whereKey → column.kind = .identifier → SignOf sign.kind comparison →
      ValueOf value literal →
      ConditionPart [key, column, sign, value] (some ⟨column.text, comparison, literal⟩)

/-- The tokens of a statement. -/
inductive Sentence : List Token → Statement → Prop
  | mk {select fromKey table : Token} {columns clause : List Token} {names : List String}
      {condition : Option Condition} :
      select.kind = .selectKey → ColumnPart columns names → fromKey.kind = .fromKey →
      table.kind = .identifier → ConditionPart clause condition →
      Sentence (select :: (columns ++ fromKey :: table :: clause)) ⟨names, table.text, condition⟩

/-- Where the statement has no condition, the tokens behind it do not start with the key of one. -/
def Statement.EndsBefore (st : Statement) (after : List Token) : Prop :=
  st.condition = none → ∀ t ∈ after.head?, t.kind ≠ .whereKey

/-! ## What readers give -/

namespace Reader

variable {α β : Type} {e : Ending} {ts rest : List Token}

/-- The reader reads the value from the front of the tokens and leaves the rest. -/
def Gives (p : Reader α) (e : Ending) (ts : List Token) (a : α) (rest : List Token) : Prop :=
  (p e ts).result = .ok a ∧ (p e ts).rest = rest

theorem gives_pure_iff {a b : α} : Gives (pure a) e ts b rest ↔ b = a ∧ ts = rest := by
  rw [Gives, pure_run, Except.ok.injEq, eq_comm (a := a)]

theorem gives_bind_iff {p : Reader α} {f : α → Reader β} {b : β} :
    Gives (p >>= f) e ts b rest ↔
      ∃ a between, Gives p e ts a between ∧ Gives (f a) e between b rest := by
  unfold Gives
  cases read : (p e ts).result with
  | error err =>
    rw [bind_run_of_error read]
    simp
  | ok a =>
    rw [bind_run_of_ok read]
    constructor
    · intro given
      exact ⟨a, (p e ts).rest, ⟨rfl, rfl⟩, given⟩
    · intro given
      rcases given with ⟨_, _, ⟨⟨⟩, rfl⟩, given⟩
      exact given

theorem gives_map_iff {p : Reader α} {f : α → β} {b : β} :
    Gives (f <$> p) e ts b rest ↔ ∃ a, Gives p e ts a rest ∧ b = f a := by
  show Gives (p >>= fun a => pure (f a)) e ts b rest ↔ _
  rw [gives_bind_iff]
  constructor
  · intro given
    rcases given with ⟨a, between, read, given⟩
    obtain ⟨rfl, rfl⟩ := gives_pure_iff.mp given
    exact ⟨a, read, rfl⟩
  · rintro ⟨a, read, rfl⟩
    exact ⟨a, rest, read, gives_pure_iff.mpr ⟨rfl, rfl⟩⟩

theorem gives_reach_iff {m : Milestone} {u : Unit} : Gives (reach m) e ts u rest ↔ ts = rest := by
  simp [Gives, reach]

theorem gives_take_iff {value? : Token → Option α} {expected : Option TokenKind} {a : α} :
    Gives (take value? expected) e ts a rest ↔ ∃ t, ts = t :: rest ∧ value? t = some a := by
  cases ts with
  | nil => simp [Gives, take, refuse]
  | cons t later =>
    cases found : value? t with
    | none => simp [Gives, take, refuse, found]
    | some b =>
      simp only [Gives, take, found, Except.ok.injEq, List.cons.injEq]
      constructor
      · rintro ⟨rfl, rfl⟩
        exact ⟨t, ⟨rfl, rfl⟩, found⟩
      · rintro ⟨u, ⟨rfl, rfl⟩, found'⟩
        rw [found, Option.some.injEq] at found'
        exact ⟨found', rfl⟩

theorem gives_token_iff {kind : TokenKind} {text : String} :
    Gives (token kind) e ts text rest ↔ ∃ t, ts = t :: rest ∧ t.kind = kind ∧ text = t.text := by
  rw [token, gives_take_iff]
  simp only [Token.textOf?, Option.ite_none_right_eq_some, Option.some.injEq, eq_comm (a := text)]

/-! ### Columns -/

theorem column?_eq_some_iff {t : Token} {name : String} :
    t.column? = some name ↔ t.IsColumn ∧ name = t.text := by
  rw [Token.column?, Option.ite_none_right_eq_some, Option.some.injEq, eq_comm (a := name)]
  rfl

/-- The columns that are split off the front of the tokens are a part that the grammar knows. -/
theorem columnPart_splitColumns (ts : List Token) :
    ∃ part, ts = part ++ (splitColumns ts).2 ∧ ColumnPart part (splitColumns ts).1 := by
  fun_induction splitColumns ts with
  | case1 => exact ⟨[], rfl, .empty⟩
  | case2 t rest none => exact ⟨[], rfl, .empty⟩
  | case3 t name found =>
    obtain ⟨column, rfl⟩ := column?_eq_some_iff.mp found
    exact ⟨[t], rfl, .single column⟩
  | case4 t name found next later comma further ih =>
    obtain ⟨column, rfl⟩ := column?_eq_some_iff.mp found
    obtain ⟨part, split, columns⟩ := ih
    refine ⟨t :: next :: part, ?_, .more column comma columns⟩
    rw [List.cons_append, List.cons_append, ← split]
  | case5 t name found next later noComma =>
    obtain ⟨column, rfl⟩ := column?_eq_some_iff.mp found
    exact ⟨[t], rfl, .single column⟩

/-- A part that the grammar knows is split off whole before a token that is neither a column nor a
    comma. -/
theorem splitColumns_append {part : List Token} {names : List String} {next : Token}
    (columns : ColumnPart part names) (noColumn : ¬next.IsColumn) (noComma : next.kind ≠ .comma)
    (rest : List Token) : splitColumns (part ++ next :: rest) = (names, next :: rest) := by
  induction columns with
  | empty =>
    have absent : next.column? = none := if_neg noColumn
    simp [splitColumns, absent]
  | @single column isColumn =>
    have found := column?_eq_some_iff.mpr ⟨isColumn, rfl⟩
    simp [splitColumns, found, noComma]
  | @more column comma part names isColumn isComma _ ih =>
    have found := column?_eq_some_iff.mpr ⟨isColumn, rfl⟩
    simp [splitColumns, found, isComma, ih]

theorem gives_columnList_iff {names : List String} :
    Gives columnList e ts names rest ↔ splitColumns ts = (names, rest) := by
  rw [Gives, columnList, Except.ok.injEq, Prod.ext_iff]

/-- Columns before the key of the table are what the grammar knows. -/
theorem splitColumns_eq_iff {names : List String} {key : Token} (isKey : key.kind = .fromKey) :
    splitColumns ts = (names, key :: rest) ↔
      ∃ part, ts = part ++ key :: rest ∧ ColumnPart part names := by
  constructor
  · intro split
    have part := columnPart_splitColumns ts
    rwa [split] at part
  · rintro ⟨part, rfl, columns⟩
    refine splitColumns_append columns ?_ ?_ rest
    · rintro (other | other) <;> rw [isKey] at other <;> cases other
    · rw [isKey]
      exact fun other => by cases other

/-! ### Conditions -/

theorem comparison?_eq_some_iff {t : Token} {comparison : Comparison} :
    t.comparison? = some comparison ↔ SignOf t.kind comparison := by
  constructor
  · intro found
    unfold Token.comparison? at found
    split at found <;> cases found <;> next kind => rw [kind]; constructor
  · intro sign
    unfold Token.comparison?
    generalize t.kind = kind at sign
    cases sign <;> rfl

theorem literal?_eq_some_iff {t : Token} {literal : Literal} :
    t.literal? = some literal ↔ ValueOf t literal := by
  constructor
  · intro found
    unfold Token.literal? at found
    split at found <;> cases found
    · next kind => exact .number kind
    · next kind => exact .string kind
  · rintro (kind | kind) <;> rw [Token.literal?, kind]

theorem gives_roomForCondition_iff {u : Unit} :
    Gives roomForCondition e ts u rest ↔
      conditionLength ≤ (ts.takeWhile (·.kind != .endOfInput)).length ∧ ts = rest := by
  unfold roomForCondition Gives
  by_cases short : (ts.takeWhile (·.kind != .endOfInput)).length < conditionLength
  · simp [short, Nat.not_le.mpr short]
  · simp [short, Nat.le_of_not_lt short]

/-- The three tokens of a condition do not stand for the end of a text. -/
theorem room_of_condition {column sign value : Token} {comparison : Comparison} {literal : Literal}
    (isColumn : column.kind = .identifier) (isSign : SignOf sign.kind comparison)
    (isValue : ValueOf value literal) (rest : List Token) :
    conditionLength ≤
      ((column :: sign :: value :: rest).takeWhile (·.kind != .endOfInput)).length := by
  have first : (column.kind != .endOfInput) = true := by rw [isColumn]; rfl
  have second : (sign.kind != .endOfInput) = true := by
    generalize sign.kind = kind at isSign
    cases isSign <;> rfl
  have third : (value.kind != .endOfInput) = true := by
    rcases isValue with kind | kind <;> rw [kind] <;> rfl
  simp only [List.takeWhile_cons, first, second, third, if_true, List.length_cons,
    conditionLength]
  omega

theorem gives_condition_iff {c : Condition} :
    Gives condition e ts c rest ↔ ∃ column sign value, ts = column :: sign :: value :: rest ∧
      column.kind = .identifier ∧ SignOf sign.kind c.comparison ∧ ValueOf value c.value ∧
      c.column = column.text := by
  simp only [condition, gives_bind_iff, gives_roomForCondition_iff, gives_token_iff,
    gives_take_iff, gives_reach_iff, gives_pure_iff, comparison?_eq_some_iff,
    literal?_eq_some_iff]
  constructor
  · intro given
    rcases given with ⟨_, _, ⟨-, rfl⟩, _, _, ⟨column, rfl, isColumn, rfl⟩, comparison, _,
      ⟨sign, rfl, isSign⟩, literal, _, ⟨value, rfl, isValue⟩, _, _, rfl, rfl, rfl⟩
    exact ⟨column, sign, value, rfl, isColumn, isSign, isValue, rfl⟩
  · intro found
    rcases found with ⟨column, sign, value, rfl, isColumn, isSign, isValue, named⟩
    refine ⟨(), _, ⟨room_of_condition isColumn isSign isValue rest, rfl⟩, _, _,
      ⟨column, rfl, isColumn, rfl⟩, _, _, ⟨sign, rfl, isSign⟩, _, _, ⟨value, rfl, isValue⟩, (), _,
      rfl, ?_, rfl⟩
    rw [← named]

theorem gives_whereClause_nil_iff {c : Option Condition} :
    Gives whereClause e [] c rest ↔ c = none ∧ rest = [] := by
  simp [Gives, whereClause, done, eq_comm]

theorem gives_whereClause_cons_iff {t : Token} {later : List Token} {c : Option Condition} :
    Gives whereClause e (t :: later) c rest ↔
      (t.kind = .whereKey ∧ ∃ a, Gives condition e later a rest ∧ c = some a) ∨
        (t.kind ≠ .whereKey ∧ c = none ∧ rest = t :: later) := by
  by_cases key : t.kind = .whereKey
  · rw [← gives_map_iff]
    simp [Gives, whereClause, key]
  · simp [Gives, whereClause, done, key, eq_comm]

theorem gives_whereClause_iff {c : Option Condition} :
    Gives whereClause e ts c rest ↔ ∃ clause, ts = clause ++ rest ∧ ConditionPart clause c ∧
      (c = none → ∀ t ∈ rest.head?, t.kind ≠ .whereKey) := by
  cases ts with
  | nil =>
    rw [gives_whereClause_nil_iff]
    constructor
    · rintro ⟨rfl, rfl⟩
      exact ⟨[], rfl, .empty, fun _ t member => by cases member⟩
    · intro found
      rcases found with ⟨clause, split, part, -⟩
      obtain ⟨rfl, rfl⟩ := List.append_eq_nil_iff.mp split.symm
      cases part
      exact ⟨rfl, rfl⟩
  | cons t later =>
    rw [gives_whereClause_cons_iff]
    constructor
    · rintro (⟨key, ⟨name, comparison, literal⟩, given, rfl⟩ | ⟨noKey, rfl, rfl⟩)
      · obtain ⟨column, sign, value, rfl, isColumn, isSign, isValue, rfl⟩ :=
          gives_condition_iff.mp given
        exact ⟨[t, column, sign, value], rfl, .full key isColumn isSign isValue,
          fun none => by cases none⟩
      · refine ⟨[], rfl, .empty, fun _ u member => ?_⟩
        cases member
        exact noKey
    · intro found
      rcases found with ⟨clause, split, part, stop⟩
      cases part with
      | empty =>
        rw [List.nil_append] at split
        subst split
        exact Or.inr ⟨stop rfl t rfl, rfl, rfl⟩
      | full key isColumn isSign isValue =>
        cases split
        refine Or.inl ⟨key, _, gives_condition_iff.mpr ?_, rfl⟩
        exact ⟨_, _, _, rfl, isColumn, isSign, isValue, rfl⟩

theorem gives_tableName_iff {name : String} :
    Gives tableName e ts name rest ↔
      ∃ t, ts = t :: rest ∧ t.kind = .identifier ∧ name = t.text := by
  simp only [tableName, gives_bind_iff, gives_token_iff, gives_reach_iff, gives_pure_iff]
  constructor
  · intro given
    rcases given with ⟨_, _, ⟨t, rfl, kind, rfl⟩, _, _, rfl, rfl, rfl⟩
    exact ⟨t, rfl, kind, rfl⟩
  · rintro ⟨t, rfl, kind, rfl⟩
    exact ⟨_, _, ⟨t, rfl, kind, rfl⟩, (), _, rfl, rfl, rfl⟩

/-- A statement is read from the front of the tokens exactly if a sentence of the grammar stands
    there. -/
theorem gives_statement_iff {st : Statement} :
    Gives statement e ts st rest ↔
      ∃ taken, ts = taken ++ rest ∧ Sentence taken st ∧ st.EndsBefore rest := by
  simp only [statement, gives_bind_iff, gives_token_iff, gives_columnList_iff, gives_tableName_iff,
    gives_whereClause_iff, gives_pure_iff]
  constructor
  · intro given
    rcases given with ⟨_, _, ⟨select, rfl, isSelect, rfl⟩, names, _, split, _, _,
      ⟨fromKey, rfl, isFrom, rfl⟩, _, _, ⟨table, rfl, isTable, rfl⟩, condition, _,
      ⟨clause, rfl, part, stop⟩, rfl, rfl⟩
    rcases (splitColumns_eq_iff isFrom).mp split with ⟨columns, rfl, isColumns⟩
    refine ⟨_, ?_, .mk isSelect isColumns isFrom isTable part, stop⟩
    simp only [List.cons_append, List.append_assoc]
  · intro found
    rcases found with ⟨taken, rfl, sentence, stop⟩
    cases sentence with
    | @mk select fromKey table columns clause names condition isSelect isColumns isFrom isTable
        part =>
      have split : splitColumns (columns ++ (fromKey :: table :: clause) ++ rest) =
          (names, fromKey :: table :: (clause ++ rest)) := by
        apply (splitColumns_eq_iff isFrom).mpr
        exact ⟨columns, List.append_assoc columns _ rest, isColumns⟩
      exact ⟨_, _, ⟨select, rfl, isSelect, rfl⟩, names, _, split, _, _,
        ⟨fromKey, rfl, isFrom, rfl⟩, _, _, ⟨table, rfl, isTable, rfl⟩, condition, _,
        ⟨clause, rfl, part, stop⟩, rfl, rfl⟩

end Reader

/-! ## Main result -/

/-- A statement is read from a list of tokens exactly if a sentence of the grammar stands at its
    front. -/
theorem parse_eq_ok_iff {ts : List Token} {st : Statement} :
    parse ts = .ok st ↔
      ∃ taken after, ts = taken ++ after ∧ Sentence taken st ∧ st.EndsBefore after := by
  have given : parse ts = .ok st ↔
      ∃ rest, Reader.Gives Reader.statement (Ending.of ts) ts st rest :=
    ⟨fun read => ⟨_, read, rfl⟩, fun ⟨_, read⟩ => read.1⟩
  simp only [given, Reader.gives_statement_iff]
  exact exists_comm

theorem Sentence.length_pos {taken : List Token} {st : Statement} (sentence : Sentence taken st) :
    0 < taken.length := by
  cases sentence
  exact Nat.succ_pos _

/-- Reading from a position on stops behind the tokens that it does not leave. -/
theorem position_parseAt {ts taken rest : List Token} {position : Nat}
    (split : ts.drop position = taken ++ rest)
    (left : (Reader.statement (Ending.of ts) (ts.drop position)).rest = rest) :
    (parseAt ts position).position = position + taken.length := by
  show position + ((ts.drop position).length - _) = _
  rw [left, split, List.length_append, Nat.add_sub_cancel]

/-- A sentence is read where it stands, and reading stops behind it. -/
theorem parseAt_sentence {ts before taken after : List Token} {st : Statement}
    (split : ts = before ++ (taken ++ after)) (sentence : Sentence taken st)
    (ends : st.EndsBefore after) :
    (parseAt ts before.length).result = .ok st ∧
      (parseAt ts before.length).position = before.length + taken.length := by
  have rest : ts.drop before.length = taken ++ after := by
    rw [split, List.drop_left]
  obtain ⟨read, left⟩ :=
    (Reader.gives_statement_iff (e := Ending.of ts)).mpr ⟨taken, rest, sentence, ends⟩
  exact ⟨read, position_parseAt rest left⟩

/-- A statement is read from a position on, up to another, exactly if a sentence of the grammar
    stands between them, and not before the key of a condition that the statement has not. -/
theorem parseAt_eq_ok_iff (ts : List Token) (position : Nat) (st : Statement) (position' : Nat) :
    ((parseAt ts position).result = .ok st ∧ (parseAt ts position).position = position') ↔
      ∃ before taken after, ts = before ++ (taken ++ after) ∧ before.length = position ∧
        position' = position + taken.length ∧ Sentence taken st ∧ st.EndsBefore after := by
  constructor
  · rintro ⟨read, rfl⟩
    obtain ⟨taken, split, sentence, stop⟩ := Reader.gives_statement_iff.mp ⟨read, rfl⟩
    have within : position < ts.length := by
      have length := congrArg List.length split
      have pos := sentence.length_pos
      rw [List.length_drop, List.length_append] at length
      omega
    refine ⟨ts.take position, taken, _, ?_, ?_, ?_, sentence, stop⟩
    · rw [← split, List.take_append_drop]
    · rw [List.length_take]
      omega
    · exact position_parseAt split rfl
  · rintro ⟨before, taken, after, split, rfl, rfl, sentence, stop⟩
    exact parseAt_sentence split sentence stop

end SelectQuery
