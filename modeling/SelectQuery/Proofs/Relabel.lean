import SelectQuery.Proofs.FirstMisfit

/-!
# Tokens with other texts and places

The course of reading a statement is decided by the kinds of the tokens. Where every text is
replaced by another and every span by another, the statement comes out with its texts replaced, or
the error with its span replaced, and the position is the same (`parseAt_relabel`). The stages are
kept because they know nothing but kinds, and the sentences by one case for each rule of the
grammar.
-/

namespace SelectQuery

/-! ## Relabelling -/

/-- The value with another text. -/
def Literal.relabel (text : String → String) : Literal → Literal
  | number digits => number (text digits)
  | string content => string (text content)

/-- The condition with other texts. -/
def Condition.relabel (text : String → String) (c : Condition) : Condition :=
  ⟨text c.column, c.comparison, c.value.relabel text⟩

/-- The statement with other texts. -/
def Statement.relabel (text : String → String) (st : Statement) : Statement :=
  ⟨st.columns.map text, text st.table, st.condition.map (Condition.relabel text)⟩

/-- The token with another text and another span. -/
def Token.relabel (text : String → String) (place : Span → Span) (t : Token) : Token :=
  ⟨t.kind, text t.text, place t.span⟩

/-- The error with another span. -/
def QueryError.relabel (place : Span → Span) (e : QueryError) : QueryError :=
  { e with span := place e.span }

/-- The ending with other spans. -/
def Ending.relabel (place : Span → Span) (e : Ending) : Ending :=
  ⟨place e.last, place e.sentinel⟩

theorem Statement.relabel_id (st : Statement) : st.relabel id = st := by
  obtain ⟨columns, table, condition⟩ := st
  rcases condition with _ | ⟨column, comparison, literal⟩
  · simp [Statement.relabel]
  · cases literal <;> simp [Statement.relabel, Condition.relabel, Literal.relabel]

/-! ## What relabelling keeps -/

section Keeps

variable {text : String → String} {place : Span → Span}

@[simp]
theorem Token.kind_relabel (t : Token) : (t.relabel text place).kind = t.kind :=
  rfl

theorem Token.IsColumn.relabel {t : Token} (column : t.IsColumn) :
    (t.relabel text place).IsColumn :=
  column

theorem ValueOf.relabel {t : Token} {literal : Literal} (value : ValueOf t literal) :
    ValueOf (t.relabel text place) (literal.relabel text) := by
  cases value with
  | number kind => exact .number kind
  | string kind => exact .string kind

theorem ColumnPart.relabel {part : List Token} {names : List String}
    (columns : ColumnPart part names) :
    ColumnPart (part.map (Token.relabel text place)) (names.map text) := by
  induction columns with
  | empty => exact .empty
  | single column => exact .single column.relabel
  | more column comma _ ih => exact .more column.relabel comma ih

theorem ConditionPart.relabel {clause : List Token} {condition : Option Condition}
    (part : ConditionPart clause condition) :
    ConditionPart (clause.map (Token.relabel text place))
      (condition.map (Condition.relabel text)) := by
  cases part with
  | empty => exact .empty
  | full key column sign value => exact .full key column sign value.relabel

theorem Sentence.relabel {taken : List Token} {st : Statement} (sentence : Sentence taken st) :
    Sentence (taken.map (Token.relabel text place)) (st.relabel text) := by
  cases sentence with
  | mk select columns fromKey table clause =>
    rw [List.map_cons, List.map_append, List.map_cons, List.map_cons]
    exact .mk select columns.relabel fromKey table clause.relabel

theorem after_relabel (stage : Stage) (ts : List Token) :
    stage.after (ts.map (Token.relabel text place)) = stage.after ts := by
  simp [Stage.after, List.foldlM_map]

theorem tokensBeforeEnd_relabel (ts : List Token) :
    tokensBeforeEnd (ts.map (Token.relabel text place)) = tokensBeforeEnd ts := by
  simp [tokensBeforeEnd, List.takeWhile_map, Function.comp_def]

theorem stuck_relabel {stage : Stage} {rest : List Token} (stuck : stage.Stuck rest) :
    stage.Stuck (rest.map (Token.relabel text place)) := by
  cases rest with
  | nil => exact nofun
  | cons t rest =>
    intro u first
    cases first
    exact stuck t rfl

theorem endsBefore_relabel {st : Statement} {after : List Token} (ends : st.EndsBefore after) :
    (st.relabel text).EndsBefore (after.map (Token.relabel text place)) := by
  rw [Statement.endsBefore_iff] at ends ⊢
  have same : (st.relabel text).lastStage = st.lastStage := by
    simp [Statement.lastStage, Statement.relabel]
  rw [same]
  exact stuck_relabel ends

theorem refusal_relabel (e : Ending) (expected : Option TokenKind) (ts : List Token) :
    refusal (e.relabel place) expected (ts.map (Token.relabel text place)) =
      (refusal e expected ts).relabel place := by
  cases ts <;> rfl

theorem Stage.Halts.relabel {e : Ending} {rest : List Token} {stage : Stage} {err : QueryError}
    (halts : stage.Halts e rest err) :
    Halts (e.relabel place) (rest.map (Token.relabel text place)) stage (err.relabel place) := by
  cases halts with
  | short few =>
    refine .short ?_
    rwa [tokensBeforeEnd_relabel]
  | misfit unfinished room stuck =>
    rw [← refusal_relabel]
    refine .misfit unfinished (fun begun => ?_) (stuck_relabel stuck)
    rw [tokensBeforeEnd_relabel]
    exact room begun

theorem Stage.HaltsWithin.relabel {e : Ending} {ts rest : List Token} {stage : Stage}
    {err : QueryError} (halts : stage.HaltsWithin e ts err rest) :
    stage.HaltsWithin (e.relabel place) (ts.map (Token.relabel text place)) (err.relabel place)
      (rest.map (Token.relabel text place)) := by
  obtain ⟨taken, stage', rfl, reached, halted⟩ := halts
  refine ⟨taken.map (Token.relabel text place), stage', List.map_append, ?_, halted.relabel⟩
  rw [after_relabel]
  exact reached

theorem Ending.of_relabel {ts : List Token} (nonempty : ts ≠ []) :
    Ending.of (ts.map (Token.relabel text place)) = (Ending.of ts).relabel place := by
  have last := List.getLast?_eq_some_getLast nonempty
  have find : (ts.map (Token.relabel text place)).find? (·.kind = .endOfInput) =
      (ts.find? (·.kind = .endOfInput)).map (Token.relabel text place) := by
    rw [List.find?_map]
    rfl
  cases found : ts.find? (·.kind = .endOfInput) <;>
    simp [Ending.of, Ending.relabel, find, found, last, Token.relabel]

end Keeps

/-! ## Main results -/

/-- What came of reading a statement, with other texts and spans. -/
def relabelResult (text : String → String) (place : Span → Span) :
    Except QueryError Statement → Except QueryError Statement
  | .ok st => .ok (st.relabel text)
  | .error e => .error (e.relabel place)

/-- Reading a statement takes as many tokens as before, with the same result but for texts and
    spans. -/
theorem statement_relabel (text : String → String) (place : Span → Span) (e : Ending)
    (ts : List Token) :
    (Reader.statement (e.relabel place) (ts.map (Token.relabel text place))).result =
        relabelResult text place (Reader.statement e ts).result ∧
      (Reader.statement (e.relabel place) (ts.map (Token.relabel text place))).rest =
        (Reader.statement e ts).rest.map (Token.relabel text place) := by
  cases read : (Reader.statement e ts).result with
  | ok st =>
    obtain ⟨taken, split, sentence, ends⟩ := Reader.gives_statement_iff.mp ⟨read, rfl⟩
    apply Reader.gives_statement_iff.mpr
    refine ⟨taken.map (Token.relabel text place), ?_, sentence.relabel, endsBefore_relabel ends⟩
    rw [← List.map_append, ← split]
  | error err =>
    have halts := Reader.fails_statement_iff.mp ⟨read, rfl⟩
    exact Reader.fails_statement_iff.mpr halts.relabel

/-- Reading a statement from a position on stops at the same position as before, with the same
    result but for texts and spans. -/
theorem parseAt_relabel (text : String → String) (place : Span → Span) {ts : List Token}
    (nonempty : ts ≠ []) (position : Nat) :
    (parseAt (ts.map (Token.relabel text place)) position).result =
        relabelResult text place (parseAt ts position).result ∧
      (parseAt (ts.map (Token.relabel text place)) position).position =
        (parseAt ts position).position := by
  have ending : Ending.of (ts.map (Token.relabel text place)) = _ := Ending.of_relabel nonempty
  obtain ⟨result, rest⟩ := statement_relabel text place (Ending.of ts) (ts.drop position)
  rw [← ending, List.map_drop] at result rest
  refine ⟨result, ?_⟩
  simp only [parseAt, rest, List.length_map, List.length_drop]

end SelectQuery
