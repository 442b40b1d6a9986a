import SelectQuery.Evaluation
import SelectQuery.Proofs.FirstFault
import SelectQuery.Proofs.FirstMisfit

/-!
# What the log tells

The log of an evaluation tells what happened and nothing else: the text, the tokens that were read
from it, the parts of the statement that were recognised, and the failure if there was one. `Trail`
says in terms of the grammar how far reading a statement comes, and `Told` which records go with
which answer. Neither speaks of a scan or of a reader. Where a text has no tokens, those that were
read before the fault are the tokens of the text up to it (`Told.badToken`).
-/

namespace SelectQuery

open Text

/-! ## How far a statement comes -/

/-- The tokens are a list of columns, with the names, and the rest, and no longer list of columns
    stands at their front. -/
structure LongestColumns (ts part rest : List Token) (names : List String) : Prop where
  split : ts = part ++ rest
  columns : ColumnPart part names
  longest : ∀ part' rest' names', ts = part' ++ rest' → ColumnPart part' names' →
    part'.length ≤ part.length

/-- The parts that are recognised, in order, on the way through the tokens to the result. -/
inductive Trail : List Token → List Milestone → Except QueryError Statement → Prop
  /-- No statement starts here. -/
  | noSelect {ts : List Token} {e : QueryError} :
      (∀ t ∈ ts.head?, t.kind ≠ .selectKey) → Trail ts [] (.error e)
  /-- Behind the columns the key of the table or its name is missing. -/
  | noTable {select : Token} {ts part rest : List Token} {names : List String} {e : QueryError} :
      select.kind = .selectKey → LongestColumns ts part rest names →
      ¬[.fromKey, .identifier] <+: rest.map (·.kind) →
      Trail (select :: ts) [.columns names] (.error e)
  /-- Behind the key of a condition there is none. -/
  | noCondition {sentence rest : List Token} {key : Token} {st : Statement} {e : QueryError} :
      Sentence sentence st → st.condition = none → key.kind = .whereKey →
      (∀ clause after condition, key :: rest = clause ++ after →
        ¬ConditionPart clause (some condition)) →
      Trail (sentence ++ key :: rest) [.columns st.columns, .table st.table] (.error e)
  | statement {sentence after : List Token} {st : Statement} :
      Sentence sentence st → st.EndsBefore after →
      Trail (sentence ++ after)
        ([.columns st.columns, .table st.table] ++ (st.condition.map Milestone.condition).toList)
        (.ok st)

namespace Reader

variable {α β : Type} {e : Ending} {ts rest : List Token}

/-! ## The longest list of columns -/

theorem length_splitColumns_le (ts : List Token) : (splitColumns ts).2.length ≤ ts.length := by
  obtain ⟨part, split, -⟩ := columnPart_splitColumns ts
  have whole := congrArg List.length split
  rw [List.length_append] at whole
  exact Nat.le.intro (by rw [whole, Nat.add_comm])

/-- A list of columns at the front of the tokens is split off whole, whatever follows it. -/
theorem length_add_length_splitColumns_le {part : List Token} {names : List String}
    (columns : ColumnPart part names) (rest : List Token) :
    part.length + (splitColumns (part ++ rest)).2.length ≤ (part ++ rest).length := by
  induction columns with
  | empty => simpa using length_splitColumns_le rest
  | @single column isColumn =>
    have found := column?_eq_some_iff.mpr ⟨isColumn, rfl⟩
    cases rest with
    | nil => simp [splitColumns, found]
    | cons next later =>
      have behind := length_splitColumns_le later
      by_cases isComma : next.kind = .comma
      · simp [splitColumns, found, isComma]
        omega
      · simp [splitColumns, found, isComma]
        omega
  | @more column comma part names isColumn isComma _ ih =>
    have found := column?_eq_some_iff.mpr ⟨isColumn, rfl⟩
    simp only [List.cons_append, splitColumns, found, isComma, if_true, List.length_cons]
    omega

/-- The columns that are split off are the longest list of columns. -/
theorem longestColumns_splitColumns (ts : List Token) :
    ∃ part, LongestColumns ts part (splitColumns ts).2 (splitColumns ts).1 := by
  obtain ⟨part, split, columns⟩ := columnPart_splitColumns ts
  refine ⟨part, split, columns, fun part' rest' names' split' columns' => ?_⟩
  have bound := length_add_length_splitColumns_le columns' rest'
  have whole := congrArg List.length split
  rw [← split', whole, List.length_append] at bound
  exact Nat.le_of_add_le_add_right bound

/-! ## What readers recognise -/

/-- The reader notes what belongs to its value if it reads one, and nothing if it fails. -/
def Notes (p : Reader α) (note : α → List Milestone) : Prop :=
  ∀ e ts, (p e ts).milestones =
    match (p e ts).result with
    | .ok a => note a
    | .error _ => []

/-- The reader notes nothing. -/
def Silent (p : Reader α) : Prop :=
  Notes p fun _ => []

namespace Notes

variable {p : Reader α} {f : α → Reader β} {note : α → List Milestone} {a : α}
  {between : List Token} {err : QueryError}

theorem bind_of_gives (notes : Notes p note) (given : Gives p e ts a between) :
    ((p >>= f) e ts).milestones = note a ++ (f a e between).milestones := by
  obtain ⟨read, rfl⟩ := given
  rw [bind_run_of_ok read, notes e ts, read]

theorem bind_of_fails (notes : Notes p note) (failed : Fails p e ts err rest) :
    ((p >>= f) e ts).milestones = [] := by
  rw [bind_run_of_error failed.1, notes e ts, failed.1]

/-- A value made of what was read is noted as that was. -/
theorem map {g : α → β} {note : β → List Milestone} (notes : Notes p fun a => note (g a)) :
    Notes (g <$> p) note := by
  intro e ts
  show ((p >>= fun a => pure (g a)) e ts).milestones =
    match ((p >>= fun a => pure (g a)) e ts).result with
    | .ok a => note a
    | .error _ => []
  cases read : (p e ts).result with
  | error err => rw [bind_run_of_error read, notes e ts, read]
  | ok a => rw [bind_run_of_ok read, pure_run, List.append_nil, notes e ts, read]

end Notes

/-- What is read silently before a reader adds nothing to what that notes. -/
theorem Silent.bind {p : Reader α} {f : α → Reader β} {note : β → List Milestone}
    (silent : Silent p) (notes : ∀ a, Notes (f a) note) : Notes (p >>= f) note := by
  intro e ts
  cases read : (p e ts).result with
  | error err => rw [bind_run_of_error read, silent e ts, read]
  | ok a => rw [bind_run_of_ok read, silent e ts, read, List.nil_append, notes a]

theorem silent_take (value? : Token → Option α) (expected : Option TokenKind) :
    Silent (take value? expected) := by
  intro e ts
  cases ts with
  | nil => rfl
  | cons t rest => cases found : value? t <;> simp [take, refuse, found]

theorem silent_token (kind : TokenKind) : Silent (token kind) :=
  silent_take _ _

theorem silent_roomForCondition : Silent roomForCondition := by
  intro e ts
  unfold roomForCondition
  split <;> rfl

theorem notes_columnList : Notes columnList fun names => [.columns names] :=
  fun _ _ => rfl

theorem notes_tableName : Notes tableName fun name => [.table name] :=
  (silent_token _).bind fun _ _ _ => rfl

theorem notes_condition : Notes condition fun c => [.condition c] := by
  refine silent_roomForCondition.bind fun _ => ?_
  refine (silent_token _).bind fun column => ?_
  refine (silent_take _ _).bind fun comparison => ?_
  exact (silent_take _ _).bind fun value _ _ => rfl

theorem notes_whereClause : Notes whereClause fun c => (c.map Milestone.condition).toList := by
  intro e ts
  cases ts with
  | nil => rfl
  | cons t rest =>
    by_cases key : t.kind = .whereKey
    · have noted : Notes (some <$> condition) fun c => (c.map Milestone.condition).toList :=
        notes_condition.map
      simpa [whereClause, key] using noted e rest
    · simp [whereClause, key, done]

/-! ## The trail of a statement -/

theorem trail_of_gives {st : Statement} (given : Gives statement e ts st rest) :
    Trail ts (statement e ts).milestones (.ok st) := by
  obtain ⟨taken, rfl, sentence, ends⟩ := gives_statement_iff.mp given
  simp only [statement, gives_bind_iff, gives_pure_iff] at given
  obtain ⟨_, _, atSelect, names, _, atColumns, _, _, atFrom, table, _, atTable, condition, _,
    atClause, rfl, -⟩ := given
  have noted : (statement e (taken ++ rest)).milestones =
      [.columns names, .table table] ++ (condition.map Milestone.condition).toList := by
    rw [statement, (silent_token _).bind_of_gives atSelect,
      notes_columnList.bind_of_gives atColumns, (silent_token _).bind_of_gives atFrom,
      notes_tableName.bind_of_gives atTable, notes_whereClause.bind_of_gives atClause, pure_run]
    simp
  rw [noted]
  exact .statement sentence ends

theorem exists_whereKey_of_fails {err : QueryError} (failed : Fails whereClause e ts err rest) :
    ∃ key later, ts = key :: later ∧ key.kind = .whereKey := by
  cases ts with
  | nil => cases failed.1
  | cons key later =>
    by_cases isKey : key.kind = .whereKey
    · exact ⟨key, later, rfl, isKey⟩
    · have read := failed.1
      simp [whereClause, done, isKey] at read

/-- Kinds that stand at the front of the tokens start with that of the first token. -/
theorem not_prefix_of_head? {kind : TokenKind} {kinds : List TokenKind}
    (other : ∀ t ∈ ts.head?, t.kind ≠ kind) : ¬kind :: kinds <+: ts.map (·.kind) := by
  intro front
  cases ts with
  | nil => exact absurd (List.prefix_nil.mp front) (List.cons_ne_nil _ _)
  | cons t ts => exact other t rfl (List.cons_prefix_cons.mp front).1.symm

theorem trail_of_fails {err : QueryError} (failed : Fails statement e ts err rest) :
    Trail ts (statement e ts).milestones (.error err) := by
  simp only [statement, fails_bind_iff, not_fails_columnList, not_fails_pure, false_or, and_false,
    exists_false, or_false] at failed
  rcases failed with noSelect | ⟨_, behind, atSelect, names, left, atColumns, failed⟩
  · rw [statement, (silent_token _).bind_of_fails noSelect]
    exact .noSelect (fails_token_iff.mp noSelect).1
  rw [statement, (silent_token _).bind_of_gives atSelect,
    notes_columnList.bind_of_gives atColumns]
  obtain ⟨select, rfl, isSelect, -⟩ := gives_token_iff.mp atSelect
  obtain ⟨part, longest⟩ := longestColumns_splitColumns behind
  rw [gives_columnList_iff.mp atColumns] at longest
  rcases failed with noFrom | ⟨_, _, atFrom, failed⟩
  · rw [(silent_token _).bind_of_fails noFrom]
    exact .noTable isSelect longest (not_prefix_of_head? (fails_token_iff.mp noFrom).1)
  rw [(silent_token _).bind_of_gives atFrom]
  obtain ⟨fromKey, rfl, isFrom, -⟩ := gives_token_iff.mp atFrom
  rcases failed with noTable | ⟨_, _, atTable, noCondition⟩
  · rw [notes_tableName.bind_of_fails noTable]
    refine .noTable isSelect longest fun front => ?_
    have isTable := (List.cons_prefix_cons.mp front).2
    exact not_prefix_of_head? (fails_tableName_iff.mp noTable).1 isTable
  rw [notes_tableName.bind_of_gives atTable, notes_whereClause.bind_of_fails noCondition]
  obtain ⟨table, rfl, isTable, rfl⟩ := gives_tableName_iff.mp atTable
  obtain ⟨key, later, rfl, isKey⟩ := exists_whereKey_of_fails noCondition
  have sentence : Sentence (select :: (part ++ [fromKey, table])) ⟨names, table.text, none⟩ :=
    .mk isSelect longest.columns isFrom isTable .empty
  have none : ∀ clause after c, key :: later = clause ++ after →
      ¬ConditionPart clause (some c) := by
    intro clause after c split condition
    have given : Gives whereClause e (key :: later) (some c) after :=
      gives_whereClause_iff.mpr ⟨clause, split, condition, fun none => by cases none⟩
    cases given.1.symm.trans noCondition.1
  rw [longest.split]
  simpa using Trail.noCondition (e := err) sentence rfl isKey none

theorem trail_statement (e : Ending) (ts : List Token) :
    Trail ts (statement e ts).milestones (statement e ts).result := by
  cases read : (statement e ts).result with
  | ok st => exact trail_of_gives ⟨read, rfl⟩
  | error err => exact trail_of_fails ⟨read, rfl⟩

end Reader

/-! ## The records of an evaluation -/

/-- The records of the tokens, but for the one for the end of the text. -/
def recordsOfTokens (ts : List Token) : List LogRecord :=
  (ts.filter (·.kind != .endOfInput)).map fun t =>
    ⟨.trace, .lexer, t.kind.name ++ ": '" ++ t.text ++ "' @ " ++ toString t.span.start⟩

/-- The record of a recognised part. -/
def recordOfPart : Milestone → LogRecord
  | .columns names => ⟨.trace, .parser, "Columns: " ++ quotedList names⟩
  | .table name => ⟨.trace, .parser, "Table: " ++ name⟩
  | .condition c =>
    ⟨.trace, .parser,
      "Where: " ++ (c.column ++ " " ++ c.comparison.display ++ " " ++ c.value.display)⟩

/-- The record tells the error for which the text has no tokens. -/
inductive TellsFault (s : String) (e : QueryError) : LogRecord → Prop
  | unexpectedChar {c : Char} : e.code = .unexpectedChar → s.toList[e.span.start]? = some c →
      TellsFault s e ⟨.debug, .lexer, "Lexing failed on " ++ quotedChar c ++ ": " ++ e.message⟩
  | unterminatedString : e.code = .unterminatedString →
      TellsFault s e ⟨.debug, .lexer, "Lexing failed: " ++ e.message⟩

/-- The records that go with the answer to a text, behind the record of the text itself: how far
    reading it came, and the failure if there was one. -/
inductive Told (s : String) (showTokens : Bool) : Answer → List LogRecord → List LogRecord → Prop
  | badToken {e : QueryError} {before : List Token} {failure : LogRecord} :
      tokenize s = .error e → tokenize (String.ofList (s.toList.take e.span.start)) = .ok before →
      TellsFault s e failure →
      Told s showTokens (.failure s e) (recordsOfTokens before) [failure]
  | badStatement {e : QueryError} {ts : List Token} {milestones : List Milestone} :
      tokenize s = .ok ts → Trail ts milestones (.error e) →
      Told s showTokens (.failure s e) (recordsOfTokens ts ++ milestones.map recordOfPart)
        [⟨.debug, .parser, "Parsing failed: " ++ e.message⟩]
  | statement {st : Statement} {ts : List Token} {milestones : List Milestone} :
      tokenize s = .ok ts → Trail ts milestones (.ok st) →
      Told s showTokens (.statement st (if showTokens then some ts else none))
        (recordsOfTokens ts ++ milestones.map recordOfPart) []

theorem map_ofMilestone (milestones : List Milestone) :
    milestones.map LogRecord.ofMilestone = milestones.map recordOfPart :=
  List.map_congr_left fun m _ => by cases m <;> rfl

/-- Behind a stretch that is tiled comes the token for the end of the text, which has no record. -/
theorem recordsOfTokens_of_tiles {position n : Nat} {cs after : List Char} {tokens : List Token}
    (tiled : Tiles position cs after tokens) :
    recordsOfTokens (tokens ++ [Token.endOfInput n]) = tokens.map .ofToken := by
  have all : tokens.filter (·.kind != .endOfInput) = tokens := by
    refine List.filter_eq_self.mpr fun t member => ?_
    simpa using kind_ne_endOfInput_of_tiles tiled t member
  have none : [Token.endOfInput n].filter (·.kind != .endOfInput) = [] := rfl
  rw [recordsOfTokens, List.filter_append, all, none, List.append_nil]
  rfl

theorem tellsFault_of_stops {s : String} {covered left : List Char} {fault : ScanFault}
    (split : s.toList = covered ++ left) (stops : Stops covered.length left (some fault)) :
    TellsFault s fault.error (.ofFault fault) := by
  cases stops with
  | unterminated quoteless => exact .unterminatedString rfl
  | unexpected bad => exact .unexpectedChar rfl (by simp [split, ScanFault.error, QueryError.plain])

/-- Where a text has no tokens, its records are those of the tokens before the fault, and one of
    the fault. -/
theorem tokenRecords_of_error {s : String} {e : QueryError} (failed : tokenize s = .error e) :
    ∃ before failure, tokenize (String.ofList (s.toList.take e.span.start)) = .ok before ∧
      TellsFault s e failure ∧ tokenRecords s = recordsOfTokens before ++ [failure] := by
  obtain ⟨covered, left, tokens, fault, split, tiled, stops, rfl⟩ :=
    tokenize_eq_error_iff_tiles.mp failed
  have front : s.toList.take fault.error.span.start = covered := by
    rw [start_eq_of_stops stops, split, List.take_left]
  have scanned : scan 0 s.toList = ⟨tokens, some fault⟩ := by
    rw [← Nat.zero_add covered.length] at stops
    exact scan_eq_iff.mpr ⟨covered, left, split, tiled, stops⟩
  refine ⟨tokens ++ [Token.endOfInput covered.length], .ofFault fault, ?_,
    tellsFault_of_stops split stops, ?_⟩
  · rw [front, tokenize_eq_ok_iff_tiles, String.toList_ofList, String.length_ofList]
    exact ⟨tokens, tiled.atEnd, rfl⟩
  · rw [recordsOfTokens_of_tiles tiled, tokenRecords, scanned]
    rfl

theorem tokenRecords_of_ok {s : String} {ts : List Token} (read : tokenize s = .ok ts) :
    tokenRecords s = recordsOfTokens ts := by
  obtain ⟨tokens, tiled, rfl⟩ := tokenize_eq_ok_iff_tiles.mp read
  rw [recordsOfTokens_of_tiles tiled, tokenRecords, scan_eq_none_iff.mpr tiled]
  exact List.append_nil _

/-- The log of an evaluation tells the text, how far reading it came, and the failure if the answer
    is one. -/
theorem exists_told (s : String) (showTokens : Bool) :
    ∃ progress failure, Told s showTokens (evaluate showTokens s) progress failure ∧
      evaluationRecords s =
        ⟨.debug, .evaluation, "Evaluating: " ++ s⟩ :: (progress ++ failure) := by
  unfold evaluate evaluationRecords
  cases lexed : tokenize s with
  | error e =>
    obtain ⟨before, failure, read, tells, records⟩ := tokenRecords_of_error lexed
    refine ⟨_, _, .badToken lexed read tells, ?_⟩
    simp [records, LogRecord.ofInput]
  | ok ts =>
    have trail : Trail ts (parseAt ts 0).milestones (parseAt ts 0).result :=
      Reader.trail_statement (Ending.of ts) ts
    rw [tokenRecords_of_ok lexed]
    simp only [parse, Parse.records, map_ofMilestone]
    cases parsed : (parseAt ts 0).result with
    | error e =>
      rw [parsed] at trail
      exact ⟨_, _, .badStatement lexed trail, by simp [LogRecord.ofInput, LogRecord.ofParseError]⟩
    | ok st =>
      rw [parsed] at trail
      exact ⟨_, _, .statement lexed trail, by simp [LogRecord.ofInput]⟩

/-! ## What is shown of the log -/

theorem level_of_mem_recordsOfTokens {ts : List Token} :
    ∀ r ∈ recordsOfTokens ts, r.level = .trace := by
  intro r member
  obtain ⟨t, -, rfl⟩ := List.mem_map.mp member
  rfl

theorem level_of_mem_recordsOfParts {milestones : List Milestone} :
    ∀ r ∈ milestones.map recordOfPart, r.level = .trace := by
  intro r member
  obtain ⟨m, -, rfl⟩ := List.mem_map.mp member
  cases m <;> rfl

namespace Told

variable {s : String} {showTokens : Bool} {answer : Answer} {progress failure : List LogRecord}

/-- What was read is told at the finer level. -/
theorem level_progress (told : Told s showTokens answer progress failure) :
    ∀ r ∈ progress, r.level = .trace := by
  cases told with
  | badToken _ _ _ => exact level_of_mem_recordsOfTokens
  | badStatement _ _ =>
    exact List.forall_mem_append.mpr
      ⟨level_of_mem_recordsOfTokens, level_of_mem_recordsOfParts⟩
  | statement _ _ =>
    exact List.forall_mem_append.mpr
      ⟨level_of_mem_recordsOfTokens, level_of_mem_recordsOfParts⟩

/-- A failure is told at the coarser level. -/
theorem level_failure (told : Told s showTokens answer progress failure) :
    ∀ r ∈ failure, r.level = .debug := by
  cases told with
  | badToken _ _ tells =>
    refine List.forall_mem_singleton.mpr ?_
    cases tells <;> rfl
  | badStatement _ _ => exact List.forall_mem_singleton.mpr rfl
  | statement _ _ => exact fun _ member => by cases member

end Told

/-- At the finer level the log of an evaluation is the record of the text, the records of all that
    was read before the evaluation had its answer, and that of the failure if the answer is one. At
    the coarser level what was read is left out. -/
theorem evaluationRecords_tell (s : String) (showTokens : Bool) :
    ∃ progress failure, Told s showTokens (evaluate showTokens s) progress failure ∧
      (evaluationRecords s).filter (fun r => Verbosity.trace.shows r.level) =
        ⟨.debug, .evaluation, "Evaluating: " ++ s⟩ :: (progress ++ failure) ∧
      (evaluationRecords s).filter (fun r => Verbosity.debug.shows r.level) =
        ⟨.debug, .evaluation, "Evaluating: " ++ s⟩ :: failure := by
  obtain ⟨progress, failure, told, records⟩ := exists_told s showTokens
  refine ⟨progress, failure, told, ?_, ?_⟩
  · rw [records]
    exact List.filter_eq_self.mpr fun _ _ => rfl
  · have hidden : progress.filter (fun r => Verbosity.debug.shows r.level) = [] := by
      refine List.filter_eq_nil_iff.mpr fun r member => ?_
      simp [told.level_progress r member, Verbosity.shows]
    have shown : failure.filter (fun r => Verbosity.debug.shows r.level) = failure := by
      refine List.filter_eq_self.mpr fun r member => ?_
      simp [told.level_failure r member, Verbosity.shows]
    have first : Verbosity.debug.shows
        (LogRecord.mk .debug .evaluation ("Evaluating: " ++ s)).level = true := rfl
    rw [records, List.filter_cons, if_pos first, List.filter_append, hidden, shown,
      List.nil_append]

/-- The records of a query with a condition, of a text with a character that starts no token, and of
    a query that breaks off behind its columns. -/
theorem evaluationRecords_tell_each :
    (∃ progress failure,
      Told "select id, n from t where n > 1" false
        (.statement ⟨["id", "n"], "t", some ⟨"n", .greaterThan, .number "1"⟩⟩ none)
        progress failure ∧
      progress ++ failure =
        [⟨.trace, .lexer, "Select: 'select' @ 0"⟩, ⟨.trace, .lexer, "Identifier: 'id' @ 7"⟩,
          ⟨.trace, .lexer, "Comma: ',' @ 9"⟩, ⟨.trace, .lexer, "Identifier: 'n' @ 11"⟩,
          ⟨.trace, .lexer, "From: 'from' @ 13"⟩, ⟨.trace, .lexer, "Identifier: 't' @ 18"⟩,
          ⟨.trace, .lexer, "Where: 'where' @ 20"⟩, ⟨.trace, .lexer, "Identifier: 'n' @ 26"⟩,
          ⟨.trace, .lexer, "GreaterThan: '>' @ 28"⟩, ⟨.trace, .lexer, "Number: '1' @ 30"⟩,
          ⟨.trace, .parser, "Columns: [\"id\", \"n\"]"⟩, ⟨.trace, .parser, "Table: t"⟩,
          ⟨.trace, .parser, "Where: n > 1"⟩] ∧
      failure = []) ∧
    (∃ progress failure,
      Told "select 'a' ! from" false
        (.failure "select 'a' ! from" ⟨.unexpectedChar, ⟨11, 1⟩, none, none⟩) progress failure ∧
      progress ++ failure =
        [⟨.trace, .lexer, "Select: 'select' @ 0"⟩, ⟨.trace, .lexer, "StringLiteral: 'a' @ 7"⟩,
          ⟨.debug, .lexer, "Lexing failed on '!': Unexpected character. (pos 11, len 1)"⟩] ∧
      failure =
        [⟨.debug, .lexer, "Lexing failed on '!': Unexpected character. (pos 11, len 1)"⟩]) ∧
    ∃ progress failure,
      Told "select id t" false
        (.failure "select id t" ⟨.unexpectedToken, ⟨10, 1⟩, some .fromKey, some .identifier⟩)
        progress failure ∧
      progress ++ failure =
        [⟨.trace, .lexer, "Select: 'select' @ 0"⟩, ⟨.trace, .lexer, "Identifier: 'id' @ 7"⟩,
          ⟨.trace, .lexer, "Identifier: 't' @ 10"⟩, ⟨.trace, .parser, "Columns: [\"id\"]"⟩,
          ⟨.debug, .parser, "Parsing failed: Unexpected token. (pos 10, len 1) " ++
            "Expected From, found Identifier."⟩] ∧
      failure =
        [⟨.debug, .parser, "Parsing failed: Unexpected token. (pos 10, len 1) " ++
          "Expected From, found Identifier."⟩] := by
  have told {s : String} {answer : Answer} {records failures : List LogRecord}
      (evaluated : evaluate false s = answer)
      (trace : (evaluationRecords s).filter (fun r => Verbosity.trace.shows r.level) =
        ⟨.debug, .evaluation, "Evaluating: " ++ s⟩ :: records)
      (debug : (evaluationRecords s).filter (fun r => Verbosity.debug.shows r.level) =
        ⟨.debug, .evaluation, "Evaluating: " ++ s⟩ :: failures) :
      ∃ progress failure, Told s false answer progress failure ∧
        progress ++ failure = records ∧ failure = failures := by
    obtain ⟨progress, failure, told, all, coarse⟩ := evaluationRecords_tell s false
    rw [evaluated] at told
    exact ⟨progress, failure, told, (List.cons.inj (all.symm.trans trace)).2,
      (List.cons.inj (coarse.symm.trans debug)).2⟩
  refine ⟨told ?_ ?_ ?_, told ?_ ?_ ?_, told ?_ ?_ ?_⟩ <;> decide +kernel

end SelectQuery
