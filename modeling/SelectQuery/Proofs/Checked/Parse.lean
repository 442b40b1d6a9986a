import SelectQuery.Proofs.Checked
import SelectQuery.Statement.Parse

/-!
# Parsing by index

The reading of a statement as a machine does it: the tokens stand in a list that is only read at
indices and cut by slices, and a position moves over it by checked additions. The position may be
set behind all tokens, where nothing is found and nothing is taken. Steps of the machine follow a
`Reader` if, from every position, they end with what the reader makes of the tokens behind it, at
the position of those that it leaves (`Follows`); the steps of a statement follow the reader of
statements, so no check ever fails (`Checked.drive_eq_pure`).
-/

namespace SelectQuery

namespace Checked

/-- Steps that may fail with an error of the query, over a position among tokens. -/
abbrev Cursor (α : Type) : Type :=
  ExceptT QueryError (StateT Nat Checked) α

namespace Cursor

variable {α β : Type}

/-- What comes of the steps from the position on, and the position after them. -/
def runFrom (steps : Cursor α) (position : Nat) : Checked (Except QueryError α × Nat) :=
  steps.run.run position

/-- The next token. -/
def peek (ts : List Token) : Cursor (Option Token) := do
  return ts[← get]?

/-- Takes the next token if there is one. -/
def eat (ts : List Token) : Cursor Unit := do
  let position ← get
  if position < ts.length then set (← add position 1)

/-- Whether a token of the kind is next. -/
def isAt (ts : List Token) (kind : TokenKind) : Cursor Bool := do
  return (← peek ts).any (·.kind = kind)

/-- The place and the kind of the next token, or of the end behind the last one. -/
def current (ts : List Token) : Cursor (Span × TokenKind) := do
  match ← peek ts with
  | some t => return (t.span, t.kind)
  | none => return ((Ending.of ts).last, .endOfInput)

/-- Fails at the next token. -/
def refuse (ts : List Token) (expected : Option TokenKind) : Cursor α := do
  let (span, actual) ← current ts
  throw (.unexpectedToken span expected (some actual))

/-- Takes the next token if it is of the kind, and gives its text. -/
def expect (ts : List Token) (kind : TokenKind) : Cursor String := do
  match (← peek ts).filter (·.kind = kind) with
  | some t =>
    eat ts
    return t.text
  | none => refuse ts (some kind)

/-- Makes rounds over the tokens, as `Checked.loop` does, until one ends the loop or fails. -/
noncomputable def loop {σ : Type} (round : σ → Cursor (α ⊕ σ)) (s : σ) : Cursor α :=
  ExceptT.mk fun position => Checked.loop (fun state => do
    match ← (round state.1).runFrom state.2 with
    | (.ok (.inl a), position) => return .inl (.ok a, position)
    | (.ok (.inr s), position) => return .inr (s, position)
    | (.error e, position) => return .inl (.error e, position)) (s, position)

/-- One round of the list of columns: takes a column, if one is next, and the comma behind it. The
    list goes on if there is a comma. -/
def columnRound (ts : List Token) (columns : List String) :
    Cursor (List String ⊕ List String) := do
  match (← peek ts).filter fun t => t.kind = .identifier ∨ t.kind = .asterisk with
  | some t =>
    eat ts
    if ← isAt ts .comma then
      eat ts
      return .inr (columns ++ [t.text])
    else return .inl (columns ++ [t.text])
  | none => return .inl columns

/-- Takes columns as long as the list goes on. -/
noncomputable def columnList (ts : List Token) : Cursor (List String) :=
  loop (columnRound ts) []

/-- Fails if fewer tokens than a condition takes stand before the end of the text. -/
def roomForCondition (ts : List Token) : Cursor Unit := do
  let left ← slice ts (min (← get) ts.length) ts.length
  if (left.takeWhile (·.kind != .endOfInput)).length < Reader.conditionLength then
    throw (.plain .invalidWhereClause (Ending.of ts).sentinel)

/-- Takes the sign of a comparison. -/
def comparison (ts : List Token) : Cursor Comparison := do
  let (span, kind) ← current ts
  let comparison ← match kind with
    | .equal => pure .equal
    | .greaterThan => pure .greaterThan
    | .lessThan => pure .lessThan
    | _ => throw (.unexpectedToken span (some .equal) (some kind))
  eat ts
  return comparison

/-- Takes a value. -/
def literal (ts : List Token) : Cursor Literal := do
  let value ← match ← peek ts with
    | some t =>
      match t.kind with
      | .number => pure (.number t.text)
      | .stringLiteral => pure (.string t.text)
      | _ => refuse ts none
    | none => refuse ts none
  eat ts
  return value

/-- Takes a condition. -/
def condition (ts : List Token) : Cursor Condition := do
  roomForCondition ts
  let column ← expect ts .identifier
  let comparison ← comparison ts
  let value ← literal ts
  return ⟨column, comparison, value⟩

/-- Takes a condition with its key if the key is next. -/
def whereClause (ts : List Token) : Cursor (Option Condition) := do
  if ← isAt ts .whereKey then
    eat ts
    return some (← condition ts)
  else return none

/-- Takes a statement. -/
noncomputable def statement (ts : List Token) : Cursor Statement := do
  let _ ← expect ts .selectKey
  let columns ← columnList ts
  let _ ← expect ts .fromKey
  let table ← expect ts .identifier
  let condition ← whereClause ts
  return ⟨columns, table, condition⟩

end Cursor

/-- Makes the moves one after the other, and tells after each the position and what was read. -/
noncomputable def drive (ts : List Token) (position : Nat) :
    List Move → Checked (List (Nat × Option (Except QueryError Statement)))
  | [] => return []
  | .goTo n :: moves => return (n, none) :: (← drive ts n moves)
  | .parse :: moves => do
    let (result, position) ← (Cursor.statement ts).runFrom position
    return (position, some result) :: (← drive ts position moves)

/-! ## Steps that follow a reader -/

namespace Cursor

variable {α β : Type} {ts : List Token} {position : Nat}

theorem runFrom_pure {a : α} : (pure a : Cursor α).runFrom position = pure (.ok a, position) :=
  rfl

/-- After a success the steps go on from where it ended. -/
theorem runFrom_bind_of_ok {steps : Cursor α} {f : α → Cursor β} {a : α} {position' : Nat}
    (run : steps.runFrom position = pure (.ok a, position')) :
    (steps >>= f).runFrom position = (f a).runFrom position' := by
  show steps.runFrom position >>= (fun r => (ExceptT.bindCont f r.1).run r.2) = _
  rw [run, pure_bind]
  rfl

/-- After a failure there are no more steps. -/
theorem runFrom_bind_of_error {steps : Cursor α} {f : α → Cursor β} {e : QueryError}
    {position' : Nat} (run : steps.runFrom position = pure (.error e, position')) :
    (steps >>= f).runFrom position = pure (.error e, position') := by
  show steps.runFrom position >>= (fun r => (ExceptT.bindCont f r.1).run r.2) = _
  rw [run, pure_bind]
  rfl

theorem runFrom_loop_of_inl {σ : Type} {round : σ → Cursor (α ⊕ σ)} {s : σ} {a : α}
    {position' : Nat} (ends : (round s).runFrom position = pure (.ok (.inl a), position')) :
    (loop round s).runFrom position = pure (.ok a, position') := by
  apply Checked.loop_of_inl
  rw [ends, pure_bind]

theorem runFrom_loop_of_inr {σ : Type} {round : σ → Cursor (α ⊕ σ)} {s s' : σ}
    {position' : Nat} (goesOn : (round s).runFrom position = pure (.ok (.inr s'), position')) :
    (loop round s).runFrom position = (loop round s').runFrom position' := by
  apply Checked.loop_of_inr
  rw [goesOn, pure_bind]

theorem runFrom_bind_get (f : Nat → Cursor β) :
    (get >>= f : Cursor β).runFrom position = (f position).runFrom position :=
  rfl

theorem runFrom_bind_lift {run : Checked α} {a : α} (done : run = pure a) (f : α → Cursor β) :
    ((liftM run : Cursor α) >>= f).runFrom position = (f a).runFrom position := by
  rw [done]
  rfl

theorem runFrom_peek :
    (peek ts).runFrom position = pure (.ok (ts.drop position).head?, position) := by
  rw [List.head?_drop]
  rfl

theorem runFrom_eat {t : Token} {rest : List Token} (fits : ts.length < Span.wordCount)
    (here : ts.drop position = t :: rest) :
    (eat ts).runFrom position = pure (.ok (), position + 1) := by
  obtain ⟨inside, -⟩ := drop_eq_cons here
  rw [eat, runFrom_bind_get, if_pos inside, add_eq_pure (by omega)]
  rfl

theorem runFrom_isAt {kind : TokenKind} :
    (isAt ts kind).runFrom position =
      pure (.ok ((ts.drop position).head?.any (·.kind = kind)), position) := by
  rw [isAt, runFrom_bind_of_ok runFrom_peek]
  rfl

theorem runFrom_current_nil (here : ts.drop position = []) :
    (current ts).runFrom position = pure (.ok ((Ending.of ts).last, .endOfInput), position) := by
  rw [current, runFrom_bind_of_ok runFrom_peek, here]
  rfl

theorem runFrom_current_cons {t : Token} {rest : List Token} (here : ts.drop position = t :: rest) :
    (current ts).runFrom position = pure (.ok (t.span, t.kind), position) := by
  rw [current, runFrom_bind_of_ok runFrom_peek, here]
  rfl

/-- The run ends with what the reading says, at the position of the tokens that it leaves, which is
    not behind the last token unless the run began there. -/
def EndsWith (ts : List Token) (position : Nat) (run : Checked (Except QueryError α × Nat))
    (reading : Reading α) : Prop :=
  ∃ position', run = pure (reading.result, position') ∧ reading.rest = ts.drop position' ∧
    position ≤ position' ∧ (position' = position ∨ position' ≤ ts.length)

theorem EndsWith.stay {run : Checked (Except QueryError α × Nat)} {reading : Reading α}
    (result : run = pure (reading.result, position)) (rest : reading.rest = ts.drop position) :
    EndsWith ts position run reading :=
  ⟨position, result, rest, Nat.le_refl position, Or.inl rfl⟩

/-- What ends behind the next token has gone on from before it. -/
theorem EndsWith.of_succ {run : Checked (Except QueryError α × Nat)} {reading : Reading α}
    (inside : position < ts.length) (ends : EndsWith ts (position + 1) run reading) :
    EndsWith ts position run reading := by
  obtain ⟨position', result, rest, onward, within⟩ := ends
  exact ⟨position', result, rest, by omega, by omega⟩

/-- From every position the steps end with what the reader makes of the tokens behind it. -/
def Follows (ts : List Token) (steps : Cursor α) (p : Reader α) : Prop :=
  ∀ position, EndsWith ts position (steps.runFrom position) (p (Ending.of ts) (ts.drop position))

theorem follows_pure (a : α) : Follows ts (pure a) (pure a) := by
  intro position
  exact .stay rfl rfl

theorem Follows.bind {steps : Cursor α} {p : Reader α} {f : α → Cursor β} {g : α → Reader β}
    (first : Follows ts steps p) (later : ∀ a, Follows ts (f a) (g a)) :
    Follows ts (steps >>= f) (p >>= g) := by
  intro position
  obtain ⟨middle, run, rest, onward, within⟩ := first position
  cases read : (p (Ending.of ts) (ts.drop position)).result with
  | error e =>
    rw [read] at run
    rw [Reader.bind_run_of_error read, runFrom_bind_of_error run]
    exact ⟨middle, rfl, rest, onward, within⟩
  | ok a =>
    rw [read] at run
    rw [Reader.bind_run_of_ok read, runFrom_bind_of_ok run, rest]
    obtain ⟨last, run', rest', onward', within'⟩ := later a middle
    refine ⟨last, run', rest', Nat.le_trans onward onward', ?_⟩
    omega

/-- Nothing is done where the reader notes what it has recognised. -/
theorem Follows.reach {steps : Cursor α} {p : Reader α} (follows : Follows ts steps p)
    (m : Milestone) : Follows ts steps (Reader.reach m >>= fun _ => p) :=
  follows

/-! ## Single tokens -/

theorem follows_refuse (expected : Option TokenKind) :
    Follows ts (refuse ts expected : Cursor α) (Reader.refuse expected) := by
  intro position
  apply EndsWith.stay
  · cases here : ts.drop position with
    | nil =>
      rw [refuse, runFrom_bind_of_ok (runFrom_current_nil here)]
      rfl
    | cons t rest =>
      rw [refuse, runFrom_bind_of_ok (runFrom_current_cons here)]
      rfl
  · cases here : ts.drop position <;> rfl

theorem exists_runFrom_refuse (ts : List Token) (position : Nat) (expected : Option TokenKind) :
    ∃ e, ∀ α, (refuse ts expected : Cursor α).runFrom position = pure (.error e, position) := by
  cases here : ts.drop position with
  | nil =>
    refine ⟨.unexpectedToken (Ending.of ts).last expected (some .endOfInput), ?_⟩
    intro α
    rw [refuse, runFrom_bind_of_ok (runFrom_current_nil here)]
    rfl
  | cons t rest =>
    refine ⟨.unexpectedToken t.span expected (some t.kind), ?_⟩
    intro α
    rw [refuse, runFrom_bind_of_ok (runFrom_current_cons here)]
    rfl

/-- Nothing comes behind a refusal. -/
theorem runFrom_refuse_bind {expected : Option TokenKind} (f : α → Cursor β) :
    (refuse ts expected >>= f).runFrom position =
      (refuse ts expected : Cursor β).runFrom position := by
  obtain ⟨e, refused⟩ := exists_runFrom_refuse ts position expected
  rw [runFrom_bind_of_error (refused α), refused β]

/-- Steps follow the reader of one token if they take a token that gives a value, and are refused
    where there is none. -/
theorem follows_take {steps : Cursor α} {value? : Token → Option α} {expected : Option TokenKind}
    (taken : ∀ position t rest a, ts.drop position = t :: rest → value? t = some a →
      steps.runFrom position = pure (.ok a, position + 1))
    (refused : ∀ position, (∀ t ∈ (ts.drop position).head?, value? t = none) →
      steps.runFrom position = (refuse ts expected : Cursor α).runFrom position) :
    Follows ts steps (Reader.take value? expected) := by
  intro position
  have refusal : EndsWith ts position ((refuse ts expected : Cursor α).runFrom position)
      (Reader.refuse expected (Ending.of ts) (ts.drop position)) :=
    follows_refuse expected position
  cases here : ts.drop position with
  | nil =>
    rw [refused position (by simp [here])]
    rwa [here] at refusal
  | cons t rest =>
    cases value : value? t with
    | none =>
      rw [refused position (by simp [here, value])]
      rw [here] at refusal
      simpa only [Reader.take, value] using refusal
    | some a =>
      obtain ⟨inside, there⟩ := drop_eq_cons here
      apply EndsWith.of_succ inside
      apply EndsWith.stay
      · rw [taken position t rest a here value]
        simp only [Reader.take, value]
      · simp only [Reader.take, value, there]

theorem follows_expect (fits : ts.length < Span.wordCount) (kind : TokenKind) :
    Follows ts (expect ts kind) (Reader.token kind) := by
  apply follows_take
  · intro position t rest a here value
    have found : t.kind = kind ∧ t.text = a := by
      simpa [Token.textOf?] using value
    have next : (ts.drop position).head?.filter (·.kind = kind) = some t := by
      simp [here, found.1]
    rw [expect, runFrom_bind_of_ok runFrom_peek, next]
    dsimp only
    rw [runFrom_bind_of_ok (runFrom_eat fits here), found.2, runFrom_pure]
  · intro position noValue
    have next : (ts.drop position).head?.filter (·.kind = kind) = none := by
      simpa [Token.textOf?, Option.filter_eq_none_iff] using noValue
    rw [expect, runFrom_bind_of_ok runFrom_peek, next]

theorem follows_comparison (fits : ts.length < Span.wordCount) :
    Follows ts (comparison ts) (Reader.take Token.comparison? (some .equal)) := by
  apply follows_take
  · rintro position ⟨kind, text, span⟩ rest a here value
    rw [comparison, runFrom_bind_of_ok (runFrom_current_cons here)]
    cases kind <;> cases value
    all_goals
      dsimp only
      rw [runFrom_bind_of_ok runFrom_pure, runFrom_bind_of_ok (runFrom_eat fits here),
        runFrom_pure]
  · intro position noValue
    cases here : ts.drop position with
    | nil =>
      rw [comparison, refuse, runFrom_bind_of_ok (runFrom_current_nil here),
        runFrom_bind_of_ok (runFrom_current_nil here)]
      rfl
    | cons t rest =>
      have noSign : t.comparison? = none := noValue t (by simp [here])
      rw [comparison, refuse, runFrom_bind_of_ok (runFrom_current_cons here),
        runFrom_bind_of_ok (runFrom_current_cons here)]
      obtain ⟨kind, text, span⟩ := t
      cases kind with
      | equal | greaterThan | lessThan => cases noSign
      | _ => rfl

theorem follows_literal (fits : ts.length < Span.wordCount) :
    Follows ts (literal ts) (Reader.take Token.literal? none) := by
  apply follows_take
  · rintro position ⟨kind, text, span⟩ rest a here value
    have next := congrArg List.head? here
    rw [literal, runFrom_bind_of_ok runFrom_peek, next]
    cases kind <;> cases value
    all_goals
      dsimp only [List.head?_cons]
      rw [runFrom_bind_of_ok runFrom_pure, runFrom_bind_of_ok (runFrom_eat fits here),
        runFrom_pure]
  · intro position noValue
    cases next : (ts.drop position).head? with
    | none => rw [literal, runFrom_bind_of_ok runFrom_peek, next, runFrom_refuse_bind]
    | some t =>
      have noLiteral : t.literal? = none := noValue t next
      rw [literal, runFrom_bind_of_ok runFrom_peek, next]
      obtain ⟨kind, text, span⟩ := t
      cases kind with
      | number | stringLiteral => cases noLiteral
      | _ => exact runFrom_refuse_bind _

/-! ## Columns -/

/-- A round that finds no column ends the list. -/
theorem runFrom_columnRound_of_none {columns : List String}
    (noColumn : ∀ t ∈ (ts.drop position).head?, t.column? = none) :
    (columnRound ts columns).runFrom position = pure (.ok (.inl columns), position) := by
  have next : (ts.drop position).head?.filter
      (fun t => t.kind = .identifier ∨ t.kind = .asterisk) = none := by
    simpa [Token.column?, Option.filter_eq_none_iff] using noColumn
  rw [columnRound, runFrom_bind_of_ok runFrom_peek, next]
  rfl

/-- A round that finds a column takes it, and looks for the comma behind it. -/
theorem runFrom_columnRound_of_some {t : Token} {rest : List Token} {name : String}
    (columns : List String) (fits : ts.length < Span.wordCount)
    (here : ts.drop position = t :: rest) (column : t.column? = some name) :
    (columnRound ts columns).runFrom position =
      if rest.head?.any (·.kind = .comma) then
        pure (.ok (.inr (columns ++ [name])), position + 2)
      else pure (.ok (.inl (columns ++ [name])), position + 1) := by
  have found : (t.kind = .identifier ∨ t.kind = .asterisk) ∧ t.text = name := by
    simpa [Token.column?] using column
  obtain ⟨inside, there⟩ := drop_eq_cons here
  have next : (ts.drop position).head?.filter
      (fun t => t.kind = .identifier ∨ t.kind = .asterisk) = some t := by
    simp [here, found.1]
  rw [columnRound, runFrom_bind_of_ok runFrom_peek, next]
  dsimp only
  rw [runFrom_bind_of_ok (runFrom_eat fits here), runFrom_bind_of_ok runFrom_isAt, there, found.2]
  by_cases comma : rest.head?.any (·.kind = .comma) = true
  · cases rest with
    | nil => cases comma
    | cons next later =>
      rw [if_pos comma, if_pos comma, runFrom_bind_of_ok (runFrom_eat fits there)]
      rfl
  · rw [if_neg comma, if_neg comma]
    rfl

/-- The rounds from a position on take the columns that stand there. -/
theorem endsWith_columnList (fits : ts.length < Span.wordCount) {left : List Token}
    (columns : List String) (here : ts.drop position = left) :
    EndsWith ts position ((loop (columnRound ts) columns).runFrom position)
      ⟨[], .ok (columns ++ (Reader.splitColumns left).1), (Reader.splitColumns left).2⟩ := by
  induction left using Reader.splitColumns.induct generalizing position columns with
  | case1 =>
    have round : (columnRound ts columns).runFrom position =
        pure (.ok (.inl columns), position) :=
      runFrom_columnRound_of_none (by simp [here])
    rw [runFrom_loop_of_inl round]
    apply EndsWith.stay
    · simp [Reader.splitColumns]
    · exact here.symm
  | case2 t rest noColumn =>
    have round : (columnRound ts columns).runFrom position =
        pure (.ok (.inl columns), position) :=
      runFrom_columnRound_of_none (by simp [here, noColumn])
    rw [runFrom_loop_of_inl round]
    simp only [Reader.splitColumns, noColumn, List.append_nil]
    exact .stay rfl here.symm
  | case3 t name column =>
    obtain ⟨inside, there⟩ := drop_eq_cons here
    have round := runFrom_columnRound_of_some columns fits here column
    rw [runFrom_loop_of_inl round]
    simp only [Reader.splitColumns, column]
    exact .of_succ inside (.stay rfl there.symm)
  | case4 t name column next later comma ih =>
    obtain ⟨inside, there⟩ := drop_eq_cons here
    obtain ⟨inside', behind⟩ := drop_eq_cons there
    have round := runFrom_columnRound_of_some columns fits here column
    rw [if_pos (by simp [comma])] at round
    have ends := ih (columns ++ [name]) behind
    rw [List.append_assoc, List.singleton_append] at ends
    rw [runFrom_loop_of_inr round]
    simp only [Reader.splitColumns, column, comma, if_true]
    exact .of_succ inside (.of_succ inside' ends)
  | case5 t name column next later noComma =>
    obtain ⟨inside, there⟩ := drop_eq_cons here
    have round := runFrom_columnRound_of_some columns fits here column
    rw [if_neg (by simp [noComma])] at round
    rw [runFrom_loop_of_inl round]
    simp only [Reader.splitColumns, column, if_neg noComma]
    exact .of_succ inside (.stay rfl there.symm)

theorem follows_columnList (fits : ts.length < Span.wordCount) :
    Follows ts (columnList ts) Reader.columnList := by
  intro position
  exact endsWith_columnList fits [] rfl

/-! ## Conditions and statements -/

/-- A slice from a position, or from the end where the position is behind it, is what is left. -/
theorem slice_left (ts : List Token) (position : Nat) :
    slice ts (min position ts.length) ts.length = pure (ts.drop position) := by
  have left : ts.drop (min position ts.length) = ts.drop position ++ [] := by
    rcases Nat.le_total position ts.length with inside | behind
    · rw [Nat.min_eq_left inside, List.append_nil]
    · rw [Nat.min_eq_right behind, List.drop_length, List.drop_eq_nil_of_le behind]
      rfl
  have whole : min position ts.length + (ts.drop position).length = ts.length := by
    rw [List.length_drop]
    omega
  have cut := slice_eq_pure left (Nat.min_le_right position ts.length)
  rwa [whole] at cut

theorem follows_roomForCondition :
    Follows ts (roomForCondition ts) Reader.roomForCondition := by
  intro position
  apply EndsWith.stay
  · rw [roomForCondition, runFrom_bind_get, runFrom_bind_lift (slice_left ts position)]
    unfold Reader.roomForCondition
    split <;> rfl
  · unfold Reader.roomForCondition
    split <;> rfl

theorem follows_condition (fits : ts.length < Span.wordCount) :
    Follows ts (condition ts) Reader.condition := by
  unfold condition Reader.condition
  apply follows_roomForCondition.bind
  intro _
  apply (follows_expect fits .identifier).bind
  intro column
  apply (follows_comparison fits).bind
  intro comparison
  apply (follows_literal fits).bind
  intro value
  exact (follows_pure _).reach _

theorem follows_whereClause (fits : ts.length < Span.wordCount) :
    Follows ts (whereClause ts) Reader.whereClause := by
  intro position
  rw [whereClause, runFrom_bind_of_ok runFrom_isAt]
  cases here : ts.drop position with
  | nil => exact .stay rfl here.symm
  | cons t rest =>
    by_cases key : t.kind = .whereKey
    · obtain ⟨inside, there⟩ := drop_eq_cons here
      have follows :
          Follows ts (condition ts >>= fun c => pure (some c)) (some <$> Reader.condition) :=
        (follows_condition fits).bind fun c => follows_pure (some c)
      have ends := follows (position + 1)
      rw [there] at ends
      simp only [List.head?_cons, Option.any_some, key, decide_true, if_true, Reader.whereClause]
      rw [runFrom_bind_of_ok (runFrom_eat fits here)]
      exact ends.of_succ inside
    · simp only [List.head?_cons, Option.any_some, key, decide_false, Reader.whereClause]
      exact .stay rfl here.symm

theorem follows_statement (fits : ts.length < Span.wordCount) :
    Follows ts (statement ts) Reader.statement := by
  have follows_tableName : Follows ts (expect ts .identifier) Reader.tableName := by
    rw [← bind_pure (expect ts .identifier)]
    apply (follows_expect fits .identifier).bind
    intro name
    exact (follows_pure name).reach (.table name)
  unfold statement Reader.statement
  apply (follows_expect fits .selectKey).bind
  intro _
  apply (follows_columnList fits).bind
  intro columns
  apply (follows_expect fits .fromKey).bind
  intro _
  apply follows_tableName.bind
  intro table
  apply (follows_whereClause fits).bind
  intro condition
  exact follows_pure _

end Cursor

/-- No check fails in any moves, and they come to what they come to without checks. -/
theorem drive_eq_pure {ts : List Token} (fits : ts.length < Span.wordCount) (position : Nat)
    (moves : List Move) : drive ts position moves = pure (SelectQuery.drive ts position moves) := by
  induction moves generalizing position with
  | nil => rfl
  | cons move moves ih =>
    cases move with
    | goTo n =>
      rw [drive, ih, pure_bind]
      rfl
    | parse =>
      obtain ⟨position', run, left, onward, within⟩ := Cursor.follows_statement fits position
      have stop : (parseAt ts position).position = position' := by
        simp only [parseAt, left, List.length_drop]
        omega
      rw [drive, run, pure_bind]
      dsimp only
      rw [ih, pure_bind, ← stop]
      rfl

end Checked

end SelectQuery
