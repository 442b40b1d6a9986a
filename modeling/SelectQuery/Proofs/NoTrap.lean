import SelectQuery.Diagnostic
import SelectQuery.Proofs.Checked.Parse
import SelectQuery.Proofs.Checked.Scan
import SelectQuery.Proofs.Lines

/-!
# Runs without a trap

The machine traps on no input, whatever the text, the tokens, the position among them and the span
of the error (`runs_without_trap`). Scanning and parsing have been shown before; what is left is to
show an error. There lines and columns are counted from one, so that one can be taken off them, and
nothing is ever added to a span: one that goes on behind the largest word is shown like any other.
-/

namespace SelectQuery

open Text

namespace Checked

/-- The location after a character. -/
def next (l : Location) (c : Char) : Checked Location := do
  if c = '\n' then return ⟨← add l.line 1, 1⟩
  else return ⟨l.line, ← add l.column 1⟩

/-- The location of a position. -/
def locate (source : String) (position : Nat) : Checked Location :=
  (source.toList.take position).foldlM next .first

/-- The carets at their column. The characters that are left of a line are none where the column is
    behind it, without a check. -/
def underline (line : List Char) (column length : Nat) : Checked String := do
  let available := line.length - (← sub column 1)
  let width := max (min length available) 1
  return spaces (← sub column 1) ++ String.ofList (List.replicate width '^')

/-- The error as it is shown. -/
def renderError (source : String) (e : QueryError) : Checked String := do
  let place ← locate source e.span.start
  let line := (lines source.toList)[← sub place.line 1]?.getD []
  let carets ← underline line place.column e.span.length
  return "\n".intercalate (Diagnostic.layout e.message place line carets)

/-! ## Locations -/

/-- Going over a text adds one for each character at most. -/
theorem foldlM_next_eq_pure {cs : List Char} {l : Location}
    (line : l.line + cs.length < Span.wordCount) (column : l.column + cs.length < Span.wordCount) :
    cs.foldlM next l = pure (cs.foldl Location.next l) := by
  induction cs generalizing l with
  | nil => rfl
  | cons c cs ih =>
    rw [List.length_cons] at line column
    have step : next l c = pure (l.next c) := by
      unfold next Location.next
      by_cases feed : c = '\n'
      · rw [if_pos feed, if_pos feed, add_eq_pure (by omega)]
        rfl
      · rw [if_neg feed, if_neg feed, add_eq_pure (by omega)]
        rfl
    rw [List.foldlM_cons, step, pure_bind, List.foldl_cons]
    apply ih
    · unfold Location.next
      split <;> dsimp only <;> omega
    · unfold Location.next
      split <;> dsimp only <;> omega

theorem locate_eq_pure {source : String} (fits : source.length + 1 < Span.wordCount)
    (position : Nat) : locate source position = pure (SelectQuery.locate source position) := by
  have short : (source.toList.take position).length ≤ source.length := by
    rw [← String.length_toList]
    exact (List.take_prefix position source.toList).length_le
  apply foldlM_next_eq_pure
  · show 1 + _ < _
    omega
  · show 1 + _ < _
    omega

/-- Lines and columns are counted from one. -/
theorem one_le_locate (source : String) (position : Nat) :
    1 ≤ (SelectQuery.locate source position).line ∧
      1 ≤ (SelectQuery.locate source position).column := by
  obtain ⟨before, last, cut⟩ := exists_cut (source.toList.take position)
  rw [SelectQuery.locate, Location.after_eq cut]
  simp

/-! ## Diagnostics -/

theorem underline_eq_pure {column : Nat} (counted : 1 ≤ column) (line : List Char)
    (length : Nat) :
    underline line column length = pure (Diagnostic.underline line column length) := by
  rw [underline, sub_eq_pure counted, pure_bind, pure_bind, Diagnostic.underline,
    Diagnostic.caretCount, Nat.max_comm]

theorem renderError_eq_pure {source : String} (fits : source.length + 1 < Span.wordCount)
    (e : QueryError) : renderError source e = pure (SelectQuery.renderError source e) := by
  obtain ⟨line, column⟩ := one_le_locate source e.span.start
  rw [renderError, locate_eq_pure fits, pure_bind, sub_eq_pure line, pure_bind]
  dsimp only
  rw [underline_eq_pure column, pure_bind]
  rfl

end Checked

/-! ## Main result -/

/-- No check fails in scanning a text, in any moves over tokens, in locating a position and in
    showing an error; each ends with what it gives without checks. Memory has room for less than
    half as many bytes as there are words, so the text and the tokens are as short as is asked. -/
theorem runs_without_trap (s : String) (held : s.length + 1 < Span.wordCount) (ts : List Token)
    (heldTokens : ts.length < Span.wordCount) (position : Nat) (moves : List Move) (offset : Nat)
    (e : QueryError) :
    Checked.tokenize s = pure (tokenize s) ∧
      Checked.drive ts position moves = pure (drive ts position moves) ∧
      Checked.locate s offset = pure (locate s offset) ∧
      Checked.renderError s e = pure (renderError s e) := by
  refine ⟨?_, ?_, ?_, ?_⟩
  · exact Checked.tokenize_eq_pure (by omega)
  · exact Checked.drive_eq_pure heldTokens position moves
  · exact Checked.locate_eq_pure held offset
  · exact Checked.renderError_eq_pure held e

/-- A quote that is the last character, no tokens at all and a position behind them, and a span of
    the largest words. -/
theorem runs_without_trap_limits :
    Checked.tokenize "a '" = pure (.error (.plain .unterminatedString ⟨2, 1⟩)) ∧
      Checked.drive [] 0 [.goTo 18446744073709551615, .parse] =
        pure [(18446744073709551615, none), (18446744073709551615,
          some (.error (.unexpectedToken .zero (some .selectKey) (some .endOfInput))))] ∧
      Checked.locate "a '" 18446744073709551615 = pure ⟨1, 4⟩ ∧
      Checked.renderError "a '"
          (.plain .noError ⟨18446744073709551615, 18446744073709551615⟩) =
        pure ("error: No error. (pos 18446744073709551615, len 18446744073709551615)\n" ++
          " --> line 1, column 4\n  |\n1 | a '\n  |    ^") := by
  obtain ⟨scanned, driven, located, rendered⟩ := runs_without_trap "a '" (by decide) [] (by decide)
    0 [.goTo 18446744073709551615, .parse] 18446744073709551615
    (.plain .noError ⟨18446744073709551615, 18446744073709551615⟩)
  have found : scan 0 "a '".toList =
      ⟨[⟨.identifier, "a", ⟨0, 1⟩⟩], some (.unterminatedString 2 1)⟩ := by
    decide +kernel
  have shown : renderError "a '" (.plain .noError ⟨18446744073709551615, 18446744073709551615⟩) =
      "error: No error. (pos 18446744073709551615, len 18446744073709551615)\n" ++
        " --> line 1, column 4\n  |\n1 | a '\n  |    ^" := by
    decide +kernel
  refine ⟨?_, driven.trans rfl, located.trans rfl, ?_⟩
  · rw [scanned, tokenize, found]
    rfl
  · rw [rendered, shown]

end SelectQuery
