import Mathlib.Order.Bounds.Basic
import SelectQuery.Proofs.Checked.Parse
import SelectQuery.Proofs.Checked.Scan
import SelectQuery.Proofs.Spelling

/-!
# How many rounds the loops make

Each loop of the machine gets on with every round: the scan and the search in it come closer to the
end of the text, and the list of columns takes a column and a comma. `EndsAfter` counts the rounds
that a loop makes, and a number that every round brings down bounds them (`exists_endsAfter`), so
the scan makes at most one round more than the text has characters, and a list of columns at most
one more than there are pairs of tokens left (`loops_end`). That a word or a number gets on at all
rests on the alphabet: what starts a token of the kind also goes on it.
-/

namespace SelectQuery

open Text

namespace Checked

/-! ## Counting rounds -/

section EndsAfter

variable {α σ : Type} {round : σ → Checked (α ⊕ σ)}

/-- The loop makes that many rounds from the state on, and the last of them ends it with the
    value. -/
inductive EndsAfter (round : σ → Checked (α ⊕ σ)) : σ → Nat → α → Prop
  | last {s : σ} {a : α} : round s = pure (.inl a) → EndsAfter round s 1 a
  | next {s s' : σ} {rounds : Nat} {a : α} :
      round s = pure (.inr s') → EndsAfter round s' rounds a → EndsAfter round s (rounds + 1) a

theorem EndsAfter.loop_eq_pure {s : σ} {rounds : Nat} {a : α}
    (ends : EndsAfter round s rounds a) : loop round s = pure a := by
  induction ends with
  | last ended => exact loop_of_inl ended
  | next wentOn _ ih => rw [loop_of_inr wentOn, ih]

/-- A loop ends, with at most one round more than the bound says, if every round ends it or brings
    the bound down. -/
theorem exists_endsAfter (bound : σ → Nat)
    (progress : ∀ s, (∃ a, round s = pure (.inl a)) ∨
      ∃ s', round s = pure (.inr s') ∧ bound s' < bound s) (s : σ) :
    ∃ rounds a, rounds ≤ bound s + 1 ∧ EndsAfter round s rounds a := by
  induction left : bound s using Nat.strongRecOn generalizing s with
  | ind n ih =>
    rcases progress s with ⟨a, ended⟩ | ⟨s', wentOn, closer⟩
    · exact ⟨1, a, by omega, .last ended⟩
    · obtain ⟨rounds, a, few, ends⟩ := ih (bound s') (by omega) s' rfl
      exact ⟨rounds + 1, a, by omega, .next wentOn ends⟩

/-- The bound holds for the value that the loop is known to end with. -/
theorem exists_endsAfter_of_loop (bound : σ → Nat)
    (progress : ∀ s, (∃ a, round s = pure (.inl a)) ∨
      ∃ s', round s = pure (.inr s') ∧ bound s' < bound s) {s : σ} {a : α}
    (value : loop round s = pure a) : ∃ rounds ≤ bound s + 1, EndsAfter round s rounds a := by
  obtain ⟨rounds, a', few, ends⟩ := exists_endsAfter bound progress s
  have same : (pure a' : Checked α) = pure a := ends.loop_eq_pure.symm.trans value
  cases same
  exact ⟨rounds, few, ends⟩

end EndsAfter

/-! ## The scan -/

section Scan

variable {cs : List Char}

/-- One round of the scan, with the tokens that were found before it. -/
noncomputable def scanRound (cs : List Char) (s : Nat × List Token) :
    Checked (Except QueryError (List Token) ⊕ Nat × List Token) := do
  return (← round cs s.1).next cs.length s.2

theorem scanRound_eq_pure {position : Nat} {r : Round} (found : List Token)
    (made : round cs position = pure r) :
    scanRound cs (position, found) = pure (r.next cs.length found) := by
  rw [scanRound, made, pure_bind]

/-- A round that does not end the scan goes on from further right, but not from behind the end of
    the text, and with one more token at most. -/
theorem scanRound_cases (fits : cs.length < Span.wordCount) (position : Nat)
    (found : List Token) :
    (∃ result, scanRound cs (position, found) = pure (.inl result) ∧
        ∀ ts, result = .ok ts → ts.length = found.length + 1) ∨
      ∃ position' found', scanRound cs (position, found) = pure (.inr (position', found')) ∧
        position < position' ∧ position' ≤ cs.length ∧ found'.length ≤ found.length + 1 := by
  cases here : cs.drop position with
  | nil =>
    have made : round cs position = pure .finished := if_pos (List.drop_eq_nil_iff.mp here)
    refine Or.inl ⟨_, scanRound_eq_pure found made, fun ts read => ?_⟩
    cases read
    exact List.length_append
  | cons c rest =>
    obtain ⟨inside, there⟩ := drop_eq_cons here
    have left : cs.length = position + 1 + rest.length := by
      rw [← there, List.length_drop]
      omega
    cases read : Lexeme.read c rest with
    | blank =>
      refine Or.inr ⟨_, _, scanRound_eq_pure found (round_eq_pure fits here read), ?_⟩
      omega
    | token kind text extra =>
      have within := Lexeme.extra_le_of_read read
      refine Or.inr ⟨_, _, scanRound_eq_pure found (round_eq_pure fits here read), ?_⟩
      simp only [List.length_append, List.length_singleton]
      omega
    | unterminated =>
      exact Or.inl ⟨_, scanRound_eq_pure found (round_eq_pure fits here read), nofun⟩
    | unexpected =>
      exact Or.inl ⟨_, scanRound_eq_pure found (round_eq_pure fits here read), nofun⟩

theorem progress_of_scanRound (fits : cs.length < Span.wordCount) {position position' : Nat}
    {found found' : List Token}
    (wentOn : scanRound cs (position, found) = pure (.inr (position', found'))) :
    position < position' ∧ position' ≤ cs.length ∧ found'.length ≤ found.length + 1 := by
  rcases scanRound_cases fits position found with ⟨result, ended, -⟩ | ⟨_, _, wentOn', onward⟩
  · rw [ended] at wentOn
    cases wentOn
  · rw [wentOn'] at wentOn
    cases wentOn
    exact onward

theorem length_of_scanRound (fits : cs.length < Span.wordCount) {position : Nat}
    {found ts : List Token} (ended : scanRound cs (position, found) = pure (.inl (.ok ts))) :
    ts.length = found.length + 1 := by
  rcases scanRound_cases fits position found with ⟨result, ended', one⟩ | ⟨_, _, wentOn, -⟩
  · rw [ended'] at ended
    cases ended
    exact one ts rfl
  · rw [wentOn] at ended
    cases ended

/-- There is at most one token for each round. -/
theorem length_le_of_endsAfter (fits : cs.length < Span.wordCount) {s : Nat × List Token}
    {rounds : Nat} {ts : List Token} (ends : EndsAfter (scanRound cs) s rounds (.ok ts)) :
    ts.length ≤ s.2.length + rounds := by
  generalize read : Except.ok ts = result at ends
  induction ends with
  | last ended =>
    subst read
    exact Nat.le_of_eq (length_of_scanRound fits ended)
  | next wentOn _ ih =>
    have later := ih read
    have onward := progress_of_scanRound fits wentOn
    omega

/-- Each round of a scan leaves fewer characters. -/
theorem exists_endsAfter_scan {s : String} (held : s.length < Span.wordCount) :
    ∃ rounds ≤ s.length + 1,
      EndsAfter (scanRound s.toList) (0, []) rounds (SelectQuery.tokenize s) := by
  have value : loop (scanRound s.toList) (0, []) = pure (SelectQuery.tokenize s) :=
    tokenize_eq_pure held
  rw [← String.length_toList] at held ⊢
  refine exists_endsAfter_of_loop (fun state => s.toList.length - state.1) ?_ value
  rintro ⟨position, found⟩
  rcases scanRound_cases held position found with
    ⟨result, ended, -⟩ | ⟨position', found', wentOn, further, inside, -⟩
  · exact Or.inl ⟨result, ended⟩
  · exact Or.inr ⟨_, wentOn, by omega⟩

/-- The index is at the end of the text, or the condition is met there. -/
def StopsAt (cs : List Char) (ends : Char → Bool) (i : Nat) : Prop :=
  i = cs.length ∨ ∃ c ∈ cs[i]?, ends c = true

/-- A search ends at the first index, from its start on, at which it may. -/
theorem exists_isLeast_scanUntil (fits : cs.length < Span.wordCount) (ends : Char → Bool)
    {start : Nat} (inside : start ≤ cs.length) :
    ∃ stop, scanUntil cs ends start = pure stop ∧
      IsLeast {i | start ≤ i ∧ i ≤ cs.length ∧ StopsAt cs ends i} stop := by
  have opposite (c : Char) : ends c = !!ends c := (Bool.not_not _).symm
  refine ⟨_, scanUntil_eq_pure opposite fits rfl, ?_⟩
  generalize passed : (cs.drop start).takeWhile (!ends ·) = taken
  have split : taken ++ (cs.drop start).dropWhile (!ends ·) = cs.drop start := by
    rw [← passed, List.takeWhile_append_dropWhile]
  have behind (i : Nat) : cs[start + i]? = (taken ++ (cs.drop start).dropWhile (!ends ·))[i]? := by
    rw [split, List.getElem?_drop]
  have shorter : start + taken.length ≤ cs.length := by
    have lengths := congrArg List.length split
    rw [List.length_append, List.length_drop] at lengths
    omega
  refine ⟨⟨Nat.le_add_right _ _, shorter, ?_⟩, ?_⟩
  · -- What is not passed over is the end of the text or starts with a character that stops.
    cases rest : (cs.drop start).dropWhile (!ends ·) with
    | nil =>
      rw [rest, List.append_nil] at split
      have all := congrArg List.length split
      rw [List.length_drop] at all
      exact Or.inl (by omega)
    | cons c later =>
      have first := head?_dropWhile_eq_false (p := (!ends ·)) (cs.drop start) c (by rw [rest]; rfl)
      refine Or.inr ⟨c, ?_, by simpa using first⟩
      simp [behind, rest]
  · rintro i ⟨after, -, stops⟩
    by_contra before
    obtain ⟨j, rfl⟩ := Nat.exists_eq_add_of_le after
    have within : j < taken.length := by omega
    rcases stops with atEnd | ⟨c, there, stops⟩
    · omega
    · rw [behind, List.getElem?_append_left within] at there
      have goesOn := all_of_mem_takeWhile (p := (!ends ·)) (cs.drop start) c
        (passed ▸ List.mem_of_getElem? there)
      simp [stops] at goesOn

end Scan

/-! ## The list of columns -/

namespace Cursor

variable {α σ : Type} {ts : List Token} {position : Nat}

/-- One round of a loop over the tokens, from the state and the position that the one before
    leaves. -/
def roundFrom (round : σ → Cursor (α ⊕ σ)) (state : σ × Nat) :
    Checked (Except QueryError α × Nat ⊕ σ × Nat) := do
  match ← (round state.1).runFrom state.2 with
  | (.ok (.inl a), position) => return .inl (.ok a, position)
  | (.ok (.inr s), position) => return .inr (s, position)
  | (.error e, position) => return .inl (.error e, position)

theorem runFrom_loop (round : σ → Cursor (α ⊕ σ)) (s : σ) :
    (loop round s).runFrom position = Checked.loop (roundFrom round) (s, position) :=
  rfl

theorem roundFrom_columnRound_cases (fits : ts.length < Span.wordCount) (columns : List String)
    (position : Nat) :
    (∃ result, roundFrom (columnRound ts) (columns, position) = pure (.inl result)) ∨
      ∃ columns', roundFrom (columnRound ts) (columns, position) =
        pure (.inr (columns', position + 2)) ∧ position + 2 ≤ ts.length := by
  cases here : ts.drop position with
  | nil =>
    have ended : (columnRound ts columns).runFrom position =
        pure (.ok (.inl columns), position) :=
      runFrom_columnRound_of_none (by simp [here])
    exact Or.inl ⟨_, by rw [roundFrom, ended, pure_bind]⟩
  | cons t rest =>
    cases column : t.column? with
    | none =>
      have ended : (columnRound ts columns).runFrom position =
          pure (.ok (.inl columns), position) :=
        runFrom_columnRound_of_none (by simp [here, column])
      exact Or.inl ⟨_, by rw [roundFrom, ended, pure_bind]⟩
    | some name =>
      have made := runFrom_columnRound_of_some columns fits here column
      by_cases comma : rest.head?.any (·.kind = .comma) = true
      · rw [if_pos comma] at made
        refine Or.inr ⟨_, by rw [roundFrom, made, pure_bind], ?_⟩
        obtain ⟨-, there⟩ := drop_eq_cons here
        cases rest with
        | nil => cases comma
        | cons next later =>
          obtain ⟨inside, -⟩ := drop_eq_cons there
          omega
      · rw [if_neg comma] at made
        exact Or.inl ⟨_, by rw [roundFrom, made, pure_bind]⟩

theorem progress_of_columnRound (fits : ts.length < Span.wordCount)
    {columns columns' : List String} {position' : Nat}
    (wentOn : roundFrom (columnRound ts) (columns, position) = pure (.inr (columns', position'))) :
    position' = position + 2 ∧ position' ≤ ts.length := by
  rcases roundFrom_columnRound_cases fits columns position with
    ⟨result, ended⟩ | ⟨names, wentOn', inside⟩
  · rw [ended] at wentOn
    cases wentOn
  · rw [wentOn'] at wentOn
    cases wentOn
    exact ⟨rfl, inside⟩

/-- Each round of a list of columns leaves a pair of tokens less. -/
theorem exists_endsAfter_columns (fits : ts.length < Span.wordCount) (position : Nat) :
    ∃ rounds ≤ (ts.length - position) / 2 + 1, ∃ position',
      EndsAfter (roundFrom (columnRound ts)) ([], position) rounds
        (.ok (Reader.splitColumns (ts.drop position)).1, position') := by
  obtain ⟨position', value, -⟩ := follows_columnList fits position
  rw [columnList, runFrom_loop] at value
  have progress (state : List String × Nat) :
      (∃ result, roundFrom (columnRound ts) state = pure (.inl result)) ∨
        ∃ state', roundFrom (columnRound ts) state = pure (.inr state') ∧
          (ts.length - state'.2) / 2 < (ts.length - state.2) / 2 := by
    rcases roundFrom_columnRound_cases fits state.1 state.2 with ended | ⟨columns', wentOn, inside⟩
    · exact Or.inl ended
    · exact Or.inr ⟨_, wentOn, by dsimp only; omega⟩
  obtain ⟨rounds, few, ends⟩ := exists_endsAfter_of_loop
    (fun state => (ts.length - state.2) / 2) progress value
  exact ⟨rounds, few, position', ends⟩

end Cursor

/-! ## Main result -/

/-- The scan of the text gets on with every round that does not end it, and ends. -/
structure ScanEnds (s : String) : Prop where
  /-- A round that does not end the scan leaves a position further right, at most at the end. -/
  progress : ∀ position found position' found',
    scanRound s.toList (position, found) = pure (.inr (position', found')) →
      position < position' ∧ position' ≤ s.length
  /-- There is at most one round more than there are characters. -/
  rounds : ∃ rounds ≤ s.length + 1,
    EndsAfter (scanRound s.toList) (0, []) rounds (SelectQuery.tokenize s)
  tokens : ∀ ts, SelectQuery.tokenize s = .ok ts → ts.length ≤ s.length + 1
  /-- A search ends at the first index at which it may, or at the end. -/
  search : ∀ ends start, start ≤ s.length → ∃ stop, scanUntil s.toList ends start = pure stop ∧
    IsLeast {i | start ≤ i ∧ i ≤ s.length ∧ StopsAt s.toList ends i} stop

/-- The list of columns gets on by two tokens with every round that does not end it, and ends. -/
structure ColumnsEnd (ts : List Token) : Prop where
  progress : ∀ columns position columns' position',
    Cursor.roundFrom (Cursor.columnRound ts) (columns, position) =
      pure (.inr (columns', position')) → position' = position + 2
  /-- There is at most one round more than there are pairs of tokens from the position on. -/
  rounds : ∀ position, ∃ rounds ≤ (ts.length - position) / 2 + 1, ∃ position',
    EndsAfter (Cursor.roundFrom (Cursor.columnRound ts)) ([], position) rounds
      (.ok (Reader.splitColumns (ts.drop position)).1, position')

/-- The loops end, for every text and list of tokens that memory has room for and from every
    position. -/
theorem loops_end (s : String) (held : s.length < Span.wordCount) (ts : List Token)
    (heldTokens : ts.length < Span.wordCount) : ScanEnds s ∧ ColumnsEnd ts := by
  have fits : s.toList.length < Span.wordCount := by rwa [String.length_toList]
  refine ⟨⟨?_, exists_endsAfter_scan held, ?_, ?_⟩, ?_, ?_⟩
  · intro position found position' found' wentOn
    rw [← String.length_toList]
    obtain ⟨further, inside, -⟩ := progress_of_scanRound fits wentOn
    exact ⟨further, inside⟩
  · intro ts read
    obtain ⟨rounds, few, ends⟩ := exists_endsAfter_scan held
    rw [read] at ends
    exact Nat.le_trans (length_le_of_endsAfter fits ends) (by simpa using few)
  · intro ends start inside
    rw [← String.length_toList] at inside ⊢
    exact exists_isLeast_scanUntil fits ends inside
  · intro columns position columns' position' wentOn
    exact (Cursor.progress_of_columnRound heldTokens wentOn).1
  · exact Cursor.exists_endsAfter_columns heldTokens

/-- A text of four characters, the last of them a quote that nothing closes, and two columns with a
    comma behind each. -/
theorem loops_end_comma :
    let ts : List Token := [⟨.selectKey, "select", ⟨0, 6⟩⟩, ⟨.identifier, "b", ⟨7, 1⟩⟩,
      ⟨.comma, ",", ⟨8, 1⟩⟩, ⟨.asterisk, "*", ⟨9, 1⟩⟩, ⟨.comma, ",", ⟨10, 1⟩⟩]
    "b1 '".length < Span.wordCount ∧ ts.length < Span.wordCount ∧
      (∃ rounds ≤ 5, EndsAfter (scanRound "b1 '".toList) (0, []) rounds
        (.error (.plain .unterminatedString ⟨3, 1⟩))) ∧
      ∃ rounds ≤ 3, ∃ position', EndsAfter (Cursor.roundFrom (Cursor.columnRound ts)) ([], 1) rounds
        (.ok ["b", "*"], position') := by
  intro ts
  obtain ⟨scan, columns⟩ := loops_end "b1 '" (by decide) ts (by decide)
  have found : SelectQuery.scan 0 "b1 '".toList =
      ⟨[⟨.identifier, "b1", ⟨0, 2⟩⟩], some (.unterminatedString 3 1)⟩ := by
    decide +kernel
  have read : SelectQuery.tokenize "b1 '" = .error (.plain .unterminatedString ⟨3, 1⟩) := by
    rw [SelectQuery.tokenize, found]
    rfl
  have names : (Reader.splitColumns (ts.drop 1)).1 = ["b", "*"] := by
    decide +kernel
  have scanned := scan.rounds
  have listed := columns.rounds 1
  have three : (ts.length - 1) / 2 + 1 = 3 := by decide
  rw [read] at scanned
  rw [names, three] at listed
  exact ⟨by decide, by decide, scanned, listed⟩

end Checked

end SelectQuery
