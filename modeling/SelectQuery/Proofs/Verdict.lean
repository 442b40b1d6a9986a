import Mathlib.Data.List.Forall2
import SelectQuery.Proofs.FirstMisfit
import SelectQuery.Proofs.Relabel

/-!
# What the kinds of tokens decide

Reading a statement looks at the kinds of tokens only. Texts and spans are copied out of the tokens
and never steer, so what becomes of a list of tokens is decided by the kinds and the position alone:
which tokens give the texts of the statement, or which error it is and which token gives its span. A
`Verdict` says so with indices in the place of texts and spans, and one verdict serves all lists of
tokens with the same kinds (`exists_verdict`).

The proof reads a list whose tokens carry their indices as texts and spans (`marked`). Every list
with the same kinds is that list relabelled, and in what was read the labels show the indices.
-/

namespace SelectQuery

/-! ## Verdicts -/

/-- A value with the index of a token in the place of its text. -/
inductive ValueOutline where
  | number (index : Nat)
  | string (index : Nat)
  deriving DecidableEq, Repr

/-- A condition with indices of tokens in the place of its texts. -/
structure ConditionOutline where
  column : Nat
  comparison : Comparison
  value : ValueOutline
  deriving DecidableEq, Repr

/-- A statement with indices of tokens in the place of its texts. -/
structure Outline where
  columns : List Nat
  table : Nat
  condition : Option ConditionOutline
  deriving DecidableEq, Repr

/-- What comes of reading a statement, but for texts and spans. -/
inductive Verdict where
  | statement (outline : Outline)
  /-- An error at the place of the token with the index. -/
  | error (code : ErrorCode) (expected actual : Option TokenKind) (index : Nat)
  deriving DecidableEq, Repr

section Filled

variable (ts : List Token)

/-- The text is that of the token with the index. -/
def IsTextOf (index : Nat) (text : String) : Prop :=
  ∃ t, ts[index]? = some t ∧ text = t.text

/-- The span is that of the token with the index, if there are tokens. -/
def IsSpanOf (index : Nat) (span : Span) : Prop :=
  ts ≠ [] → ∃ t, ts[index]? = some t ∧ span = t.span

/-- The value is the outline with the text of the token in it. -/
inductive ValueOutline.Filled : ValueOutline → Literal → Prop
  | number {index : Nat} {text : String} : IsTextOf ts index text →
      Filled (.number index) (.number text)
  | string {index : Nat} {text : String} : IsTextOf ts index text →
      Filled (.string index) (.string text)

/-- The condition is the outline with the texts of the tokens in it. -/
structure ConditionOutline.Filled (o : ConditionOutline) (c : Condition) : Prop where
  column : IsTextOf ts o.column c.column
  comparison : c.comparison = o.comparison
  value : o.value.Filled ts c.value

/-- The statement is the outline with the texts of the tokens in it. -/
structure Outline.Filled (o : Outline) (st : Statement) : Prop where
  columns : List.Forall₂ (IsTextOf ts) o.columns st.columns
  table : IsTextOf ts o.table st.table
  condition : Option.Rel (ConditionOutline.Filled ts) o.condition st.condition

/-- The outcome is the verdict with the texts or the span of the tokens in it. -/
inductive Verdict.Filled : Verdict → Except QueryError Statement → Prop
  | statement {o : Outline} {st : Statement} : o.Filled ts st → Filled (.statement o) (.ok st)
  | error {code : ErrorCode} {expected actual : Option TokenKind} {index : Nat} {span : Span} :
      IsSpanOf ts index span →
      Filled (.error code expected actual index) (.error ⟨code, span, expected, actual⟩)

end Filled

/-! ## Tokens that carry their indices -/

/-- The text that shows an index, by its length. -/
def mark (index : Nat) : String :=
  String.ofList (List.replicate index '|')

/-- Tokens of the kinds that carry their indices as texts and spans. -/
def marked (kinds : List TokenKind) : List Token :=
  kinds.mapIdx fun index kind => ⟨kind, mark index, ⟨index, 0⟩⟩

/-- The text of the token whose index the mark shows. -/
def unmarkText (ts : List Token) (text : String) : String :=
  (ts[text.length]?.map (·.text)).getD ""

/-- The span of the token whose index the span shows. -/
def unmarkSpan (ts : List Token) (span : Span) : Span :=
  (ts[span.start]?.map (·.span)).getD .zero

theorem length_mark (index : Nat) : (mark index).length = index := by
  simp [mark]

@[simp]
theorem marked_eq_nil_iff {kinds : List TokenKind} : marked kinds = [] ↔ kinds = [] := by
  simp [marked]

/-- A list of tokens is the list of the marked tokens of its kinds with its own texts and spans. -/
theorem map_relabel_marked (ts : List Token) :
    (marked (ts.map (·.kind))).map (Token.relabel (unmarkText ts) (unmarkSpan ts)) = ts := by
  apply List.ext_getElem?
  intro i
  cases found : ts[i]? with
  | none => simp [marked, found]
  | some t => simp [marked, found, Token.relabel, unmarkText, unmarkSpan, length_mark]

theorem lt_of_mem_marked {kinds : List TokenKind} {t : Token} (member : t ∈ marked kinds) :
    t.text.length < kinds.length ∧ t.span.start < kinds.length := by
  obtain ⟨i, inside, rfl⟩ := List.mem_mapIdx.mp member
  simp [length_mark, inside]

/-! ## Where texts and spans come from -/

/-- All texts of the statement have the property. -/
structure Statement.AllTexts (p : String → Prop) (st : Statement) : Prop where
  columns : ∀ name ∈ st.columns, p name
  table : p st.table
  condition : ∀ c, st.condition = some c → p c.column ∧ p c.value.text

section AllTexts

variable {p : String → Prop}

theorem ColumnPart.allTexts {part : List Token} {names : List String}
    (columns : ColumnPart part names) (all : ∀ t ∈ part, p t.text) : ∀ name ∈ names, p name := by
  induction columns with
  | empty =>
    intro name member
    cases member
  | single _ => simpa using all
  | more _ _ _ ih =>
    obtain ⟨first, behind⟩ := List.forall_mem_cons.mp all
    obtain ⟨-, later⟩ := List.forall_mem_cons.mp behind
    exact List.forall_mem_cons.mpr ⟨first, ih later⟩

theorem ConditionPart.allTexts {clause : List Token} {condition : Option Condition}
    (part : ConditionPart clause condition) (all : ∀ t ∈ clause, p t.text) :
    ∀ c, condition = some c → p c.column ∧ p c.value.text := by
  intro c found
  cases part with
  | empty => cases found
  | @full key column sign value comparison literal _ _ _ isValue =>
    cases found
    refine ⟨all column (by simp), ?_⟩
    cases isValue with
    | number _ => exact all value (by simp)
    | string _ => exact all value (by simp)

/-- The texts of a statement are texts of its tokens. -/
theorem Sentence.allTexts {taken : List Token} {st : Statement} (sentence : Sentence taken st)
    (all : ∀ t ∈ taken, p t.text) : st.AllTexts p := by
  cases sentence with
  | @mk select fromKey table columns clause names condition _ isColumns _ _ part =>
    refine ⟨isColumns.allTexts ?_, all table (by simp), part.allTexts ?_⟩
    · intro t member
      exact all t (by simp [member])
    · intro t member
      exact all t (by simp [member])

end AllTexts

/-- The texts of a statement that is read are texts of the tokens. -/
theorem allTexts_of_parseAt {ts : List Token} {position : Nat} {st : Statement}
    {p : String → Prop} (read : (parseAt ts position).result = .ok st)
    (all : ∀ t ∈ ts, p t.text) : st.AllTexts p := by
  obtain ⟨taken, split, sentence, -⟩ := Reader.gives_statement_iff.mp ⟨read, rfl⟩
  apply sentence.allTexts
  intro t member
  have inside : t ∈ ts.drop position := split ▸ List.mem_append_left _ member
  exact all t (List.mem_of_mem_drop inside)

/-- The span of the ending is that of a token, if there are tokens. -/
theorem exists_span_sentinel {ts : List Token} (nonempty : ts ≠ []) :
    ∃ t ∈ ts, (Ending.of ts).sentinel = t.span := by
  have place := span_sentinel nonempty
  split at place
  · next z found => exact ⟨z, List.mem_of_find?_eq_some found, place⟩
  · obtain ⟨last, found, same⟩ := place
    exact ⟨last, List.mem_of_getLast? found, same⟩

/-- The span of an error is that of a token, if there are tokens. -/
theorem exists_span_of_parseAt_error {ts : List Token} {position : Nat} {e : QueryError}
    (failed : (parseAt ts position).result = .error e) (nonempty : ts ≠ []) :
    ∃ t ∈ ts, e.span = t.span := by
  obtain ⟨stage, -, halted, -⟩ := halts_of_parseAt failed
  cases halted with
  | short _ => exact exists_span_sentinel nonempty
  | misfit _ _ _ =>
    cases left : ts.drop (parseAt ts position).position with
    | nil =>
      have last := List.getLast?_eq_some_getLast nonempty
      refine ⟨ts.getLast nonempty, List.getLast_mem nonempty, ?_⟩
      simp [refusal, QueryError.unexpectedToken, Ending.of, last]
    | cons t rest =>
      have inside : t ∈ ts.drop (parseAt ts position).position := by
        simp [left]
      exact ⟨t, List.mem_of_mem_drop inside, rfl⟩

/-! ## Reading indices off -/

/-- The value with the indices that its marks show. -/
def Literal.outline : Literal → ValueOutline
  | number text => .number text.length
  | string text => .string text.length

/-- The condition with the indices that its marks show. -/
def Condition.outline (c : Condition) : ConditionOutline :=
  ⟨c.column.length, c.comparison, c.value.outline⟩

/-- The statement with the indices that its marks show. -/
def Statement.outline (st : Statement) : Outline :=
  ⟨st.columns.map String.length, st.table.length, st.condition.map Condition.outline⟩

/-- What was read from marked tokens, with the indices that its marks show. -/
def verdictOf : Except QueryError Statement → Verdict
  | .ok st => .statement st.outline
  | .error e => .error e.code e.expected e.actual e.span.start

section Unmark

variable {ts : List Token}

theorem isTextOf_unmarkText {text : String} (inside : text.length < ts.length) :
    IsTextOf ts text.length (unmarkText ts text) := by
  refine ⟨ts[text.length], List.getElem?_eq_getElem inside, ?_⟩
  simp [unmarkText, inside]

theorem isSpanOf_unmarkSpan {span : Span} (inside : ts ≠ [] → span.start < ts.length) :
    IsSpanOf ts span.start (unmarkSpan ts span) := by
  intro nonempty
  have here := inside nonempty
  refine ⟨ts[span.start], List.getElem?_eq_getElem here, ?_⟩
  simp [unmarkSpan, here]

theorem Literal.filled_outline (value : Literal) (inside : value.text.length < ts.length) :
    value.outline.Filled ts (value.relabel (unmarkText ts)) := by
  cases value with
  | number text => exact .number (isTextOf_unmarkText inside)
  | string text => exact .string (isTextOf_unmarkText inside)

/-- The outline of a statement whose marks show indices of tokens is filled by the texts of these. -/
theorem Statement.filled_outline {st : Statement}
    (inside : st.AllTexts fun text => text.length < ts.length) :
    st.outline.Filled ts (st.relabel (unmarkText ts)) := by
  obtain ⟨columns, table, condition⟩ := st
  refine ⟨?_, isTextOf_unmarkText inside.table, ?_⟩
  · simp only [outline, relabel, List.forall₂_map_left_iff, List.forall₂_map_right_iff,
      List.forall₂_same]
    intro name member
    exact isTextOf_unmarkText (inside.columns name member)
  · cases condition with
    | none => exact .none
    | some c =>
      obtain ⟨column, value⟩ := inside.condition c rfl
      exact .some ⟨isTextOf_unmarkText column, rfl, c.value.filled_outline value⟩

end Unmark

/-- What is read from any tokens is what is read from the marked tokens of their kinds, with the
    texts and spans that the marks show. -/
theorem parseAt_unmark (ts : List Token) (position : Nat) :
    (parseAt ts position).result =
        relabelResult (unmarkText ts) (unmarkSpan ts)
          (parseAt (marked (ts.map (·.kind))) position).result ∧
      (parseAt ts position).position = (parseAt (marked (ts.map (·.kind))) position).position := by
  by_cases empty : ts = []
  · subst empty
    rw [List.map_nil, marked, List.mapIdx_nil, parseAt, List.drop_nil]
    exact ⟨rfl, rfl⟩
  · have nonempty : marked (ts.map (·.kind)) ≠ [] := by
      simpa using empty
    have same := map_relabel_marked ts
    have read := parseAt_relabel (unmarkText ts) (unmarkSpan ts) nonempty position
    rwa [same] at read

/-- The verdict on marked tokens is filled by every list of tokens with their kinds. -/
theorem filled_verdictOf (ts : List Token) (position : Nat) :
    (verdictOf (parseAt (marked (ts.map (·.kind))) position).result).Filled ts
      (parseAt ts position).result := by
  rw [(parseAt_unmark ts position).1]
  cases read : (parseAt (marked (ts.map (·.kind))) position).result with
  | ok st =>
    refine .statement (Statement.filled_outline (allTexts_of_parseAt read ?_))
    intro t member
    simpa using (lt_of_mem_marked member).1
  | error e =>
    refine .error (isSpanOf_unmarkSpan ?_)
    intro nonempty
    obtain ⟨t, member, place⟩ := exists_span_of_parseAt_error read (by simpa using nonempty)
    simpa [place] using (lt_of_mem_marked member).2

/-! ## Main result -/

/-- For every list of kinds and every position there is one verdict, and one position to stop at,
    for all lists of tokens with these kinds. -/
theorem exists_verdict (kinds : List TokenKind) (position : Nat) :
    ∃ (verdict : Verdict) (stop : Nat), ∀ ts : List Token, ts.map (·.kind) = kinds →
      verdict.Filled ts (parseAt ts position).result ∧ (parseAt ts position).position = stop := by
  refine ⟨verdictOf (parseAt (marked kinds) position).result,
    (parseAt (marked kinds) position).position, ?_⟩
  intro ts same
  subst same
  exact ⟨filled_verdictOf ts position, (parseAt_unmark ts position).2⟩

/-- A query and a list of other texts in other places, once whole and once without the value of the
    condition, which is an error at the end that stands before the statement. -/
theorem exists_verdict_value :
    let kinds : List TokenKind := [.endOfInput, .selectKey, .asterisk, .comma, .fromKey,
      .identifier, .whereKey, .identifier, .lessThan, .stringLiteral]
    let ts : List Token := [⟨.endOfInput, "", ⟨0, 0⟩⟩, ⟨.selectKey, "select", ⟨0, 6⟩⟩,
      ⟨.asterisk, "*", ⟨7, 1⟩⟩, ⟨.comma, ",", ⟨8, 1⟩⟩, ⟨.fromKey, "from", ⟨10, 4⟩⟩,
      ⟨.identifier, "t", ⟨15, 1⟩⟩, ⟨.whereKey, "where", ⟨17, 5⟩⟩, ⟨.identifier, "a", ⟨23, 1⟩⟩,
      ⟨.lessThan, "<", ⟨24, 1⟩⟩, ⟨.stringLiteral, "x", ⟨25, 3⟩⟩]
    let ts' : List Token := [⟨.endOfInput, "from", ⟨9, 9⟩⟩, ⟨.selectKey, "t", ⟨1, 0⟩⟩,
      ⟨.asterisk, "where", ⟨1, 0⟩⟩, ⟨.comma, "*", ⟨0, 7⟩⟩, ⟨.fromKey, "", ⟨3, 3⟩⟩,
      ⟨.identifier, "select", ⟨3, 3⟩⟩, ⟨.whereKey, "t", ⟨0, 0⟩⟩, ⟨.identifier, "<", ⟨5, 1⟩⟩,
      ⟨.lessThan, "=", ⟨5, 1⟩⟩, ⟨.stringLiteral, "1", ⟨8, 2⟩⟩]
    (ts.map (·.kind) = kinds ∧ ts'.map (·.kind) = kinds) ∧
    (parseAt ts 1).result = .ok ⟨["*"], "t", some ⟨"a", .lessThan, .string "x"⟩⟩ ∧
    (parseAt ts' 1).result = .ok ⟨["where"], "select", some ⟨"<", .lessThan, .string "1"⟩⟩ ∧
    (∃ (verdict : Verdict) (stop : Nat),
      (verdict.Filled ts (parseAt ts 1).result ∧ (parseAt ts 1).position = stop) ∧
      verdict.Filled ts' (parseAt ts' 1).result ∧ (parseAt ts' 1).position = stop) ∧
    (parseAt ts.dropLast 1).result = .error ⟨.invalidWhereClause, ⟨0, 0⟩, none, none⟩ ∧
    (parseAt ts'.dropLast 1).result = .error ⟨.invalidWhereClause, ⟨9, 9⟩, none, none⟩ ∧
    ∃ (verdict : Verdict) (stop : Nat),
      (verdict.Filled ts.dropLast (parseAt ts.dropLast 1).result ∧
        (parseAt ts.dropLast 1).position = stop) ∧
      verdict.Filled ts'.dropLast (parseAt ts'.dropLast 1).result ∧
        (parseAt ts'.dropLast 1).position = stop := by
  intro kinds ts ts'
  obtain ⟨verdict, stop, whole⟩ := exists_verdict kinds 1
  obtain ⟨verdict', stop', broken⟩ := exists_verdict kinds.dropLast 1
  refine ⟨⟨rfl, rfl⟩, rfl, rfl, ?_, rfl, rfl, ?_⟩
  · exact ⟨verdict, stop, whole ts rfl, whole ts' rfl⟩
  · exact ⟨verdict', stop', broken ts.dropLast rfl, broken ts'.dropLast rfl⟩

end SelectQuery
