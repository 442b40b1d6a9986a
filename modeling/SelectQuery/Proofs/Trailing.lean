import SelectQuery.Proofs.Canonical
import SelectQuery.Proofs.FirstMisfit
import SelectQuery.Proofs.Shift

/-!
# Text behind a statement

What stands behind a statement is not part of it, and does not change it, with two exceptions. The
whole text has to consist of tokens, so an error of the trailing text is an error of the whole; and
a statement without a condition that takes all tokens of its text is given one by the key that
stands next. There is no third (`parseQuery_append_blank`), in particular not the count of tokens
that is made before a condition is read.
-/

namespace SelectQuery

open Text

/-- The statement at the front of the text takes all of its tokens but the one for its end. -/
def TakesAll (s : String) : Prop :=
  ∃ ts, tokenize s = .ok ts ∧ (parseAt ts 0).position + 1 = ts.length

/-! ## Tokens behind a sentence -/

theorem Statement.distance_lastStage (st : Statement) :
    st.lastStage.distance ≤ Stage.table.distance := by
  unfold Statement.lastStage
  split <;> decide

/-- Behind a sentence of the grammar the statement is read exactly if it may end there. -/
theorem parse_append_iff {taken rest : List Token} {st : Statement} (sentence : Sentence taken st) :
    parse (taken ++ rest) = .ok st ↔ st.EndsBefore rest := by
  rw [parse_eq_ok_iff]
  constructor
  · intro read
    obtain ⟨taken', after, split, sentence', ends⟩ := read
    obtain ⟨further, rfl, rfl, goesOn⟩ := Stage.exists_after_of_stuck split sentence.after
      sentence'.after (Statement.endsBefore_iff.mp ends)
    obtain rfl := Stage.eq_nil_of_after_self st.distance_lastStage goesOn
    exact ends
  · intro ends
    exact ⟨taken, rest, rfl, sentence, ends⟩

/-- The tokens of a text that means a statement are those of the statement and others behind them,
    of which only the last stands for the end of the text. -/
theorem exists_sentence_of_parseQuery {s : String} {st : Statement} (read : parseQuery s = .ok st) :
    ∃ taken rest, Tiles 0 s.toList [] (taken ++ rest) ∧ Sentence taken st ∧
      st.EndsBefore (rest ++ [Token.endOfInput s.length]) := by
  obtain ⟨ts, tokenized, parsed⟩ := parseQuery_eq_ok_iff.mp read
  obtain ⟨tokens, tiled, rfl⟩ := tokenize_eq_ok_iff_tiles.mp tokenized
  obtain ⟨taken, after, split, sentence, ends⟩ := parse_eq_ok_iff.mp parsed
  rcases List.eq_nil_or_concat after with rfl | ⟨rest, z, rfl⟩
  · have member : Token.endOfInput s.length ∈ taken := by
      rw [← List.append_nil taken, ← split]
      exact List.mem_append_right tokens List.mem_cons_self
    exact absurd rfl (ne_endOfInput_of_after sentence.after _ member)
  · rw [List.concat_eq_append, ← List.append_assoc] at split
    obtain ⟨rfl, last⟩ := List.append_inj' split rfl
    rw [List.concat_eq_append, ← last] at ends
    exact ⟨taken, rest, tiled, sentence, ends⟩

/-- A statement takes all tokens of its text exactly if none is left behind its sentence. -/
theorem takesAll_iff {s : String} {st : Statement} {taken rest : List Token}
    (tiled : Tiles 0 s.toList [] (taken ++ rest)) (sentence : Sentence taken st)
    (ends : st.EndsBefore (rest ++ [Token.endOfInput s.length])) : TakesAll s ↔ rest = [] := by
  have tokenized := tokenize_eq_ok_iff_tiles.mpr ⟨_, tiled, rfl⟩
  have split : taken ++ rest ++ [Token.endOfInput s.length] =
      [] ++ (taken ++ (rest ++ [Token.endOfInput s.length])) := by
    rw [List.nil_append, List.append_assoc]
  have position : (parseAt _ 0).position = 0 + taken.length :=
    (parseAt_sentence split sentence ends).2
  simp only [TakesAll, tokenized, Except.ok.injEq, exists_eq_left', position]
  simp

/-- A statement may end before the tokens of another text, moved behind what is left of its own,
    unless it has no condition, nothing is left, and the other text begins with the key of one. -/
theorem endsBefore_shift_iff {st : Statement} {rest later : List Token} {n m n' distance : Nat}
    (ends : st.EndsBefore (rest ++ [Token.endOfInput n])) :
    st.EndsBefore (rest ++ (later.map (Token.shift distance) ++ [Token.endOfInput n'])) ↔
      ¬(st.condition = none ∧ rest = [] ∧
        ∃ t ∈ (later ++ [Token.endOfInput m]).head?, t.kind = .whereKey) := by
  cases rest with
  | cons t rest => simpa [Statement.EndsBefore] using ends
  | nil =>
    cases later with
    | nil => simp [Statement.EndsBefore, Token.endOfInput]
    | cons t later => simp [Statement.EndsBefore, Token.shift]

/-! ## Main result -/

/-- A text that means a statement fails before a blank and another text if that fails, and with the
    same error further on. Else it means the same statement, except if the statement has no
    condition, takes all tokens of the text, and the other text begins with the key of one. -/
theorem parseQuery_append_blank (s b : String) (w : Char) (st : Statement)
    (read : parseQuery s = .ok st) (blank : isBlank w = true) :
    (∀ e, tokenize b = .error e →
      parseQuery (s ++ String.singleton w ++ b) = .error (e.shift (s.length + 1))) ∧
    (∀ tb, tokenize b = .ok tb →
      (parseQuery (s ++ String.singleton w ++ b) = .ok st ↔
        ¬(st.condition = none ∧ TakesAll s ∧ ∃ t ∈ tb.head?, t.kind = .whereKey))) := by
  obtain ⟨taken, rest, tiled, sentence, ends⟩ := exists_sentence_of_parseQuery read
  have text : (s ++ String.singleton w ++ b).toList = s.toList ++ w :: b.toList := by
    simp
  have found : scan 0 (s.toList ++ w :: b.toList) = _ := scan_append_blank tiled blank
  rw [← text, String.length_toList] at found
  constructor
  · intro e failed
    obtain ⟨tokens, fault, scanned, rfl⟩ := tokenize_eq_error_iff_scan.mp failed
    rw [scanned] at found
    rw [← ScanFault.error_shift]
    exact parseQuery_eq_error_iff.mpr
      (Or.inl (tokenize_eq_error_iff_scan.mpr ⟨_, _, found, rfl⟩))
  · intro tb tokenized
    obtain ⟨later, tiledB, rfl⟩ := tokenize_eq_ok_iff_tiles.mp tokenized
    rw [scan_eq_none_iff.mpr tiledB] at found
    rw [parseQuery_of_scan found, takesAll_iff tiled sentence ends, List.append_assoc,
      List.append_assoc, parse_append_iff sentence]
    exact endsBefore_shift_iff ends

/-- Behind the same statement stand a bad character, a key that a semicolon keeps away from it, and
    a key that goes on it. -/
theorem parseQuery_append_blank_key :
    parseQuery "select from t" = .ok ⟨[], "t", none⟩ ∧ isBlank '\n' = true ∧
    (tokenize "a?" = .error ⟨.unexpectedChar, ⟨1, 1⟩, none, none⟩ ∧
      parseQuery ("select from t" ++ String.singleton '\n' ++ "a?") =
        .error ⟨.unexpectedChar, ⟨15, 1⟩, none, none⟩) ∧
    (tokenize "; where" = .ok [⟨.semicolon, ";", ⟨0, 1⟩⟩, ⟨.whereKey, "where", ⟨2, 5⟩⟩,
        Token.endOfInput 7] ∧
      parseQuery ("select from t" ++ String.singleton '\n' ++ "; where") = .ok ⟨[], "t", none⟩) ∧
    (tokenize "where" = .ok [⟨.whereKey, "where", ⟨0, 5⟩⟩, Token.endOfInput 5] ∧
      TakesAll "select from t" ∧
      parseQuery ("select from t" ++ String.singleton '\n' ++ "where") ≠ .ok ⟨[], "t", none⟩) := by
  have scanned : scan 0 "select from t".toList = ⟨[⟨.selectKey, "select", ⟨0, 6⟩⟩,
      ⟨.fromKey, "from", ⟨7, 4⟩⟩, ⟨.identifier, "t", ⟨12, 1⟩⟩], none⟩ := by
    decide +kernel
  have read : parseQuery "select from t" = .ok ⟨[], "t", none⟩ := parseQuery_of_scan scanned
  have all : TakesAll "select from t" := ⟨_, tokenize_of_scan scanned, rfl⟩
  have blank : isBlank '\n' = true := by decide
  have scannedBad : scan 0 "a?".toList =
      ⟨[⟨.identifier, "a", ⟨0, 1⟩⟩], some (.unexpectedChar '?' 1)⟩ := by
    decide +kernel
  have bad : tokenize "a?" = .error ⟨.unexpectedChar, ⟨1, 1⟩, none, none⟩ :=
    tokenize_eq_error_iff_scan.mpr ⟨_, _, scannedBad, rfl⟩
  have scannedAway : scan 0 "; where".toList =
      ⟨[⟨.semicolon, ";", ⟨0, 1⟩⟩, ⟨.whereKey, "where", ⟨2, 5⟩⟩], none⟩ := by
    decide +kernel
  have away : tokenize "; where" = .ok [⟨.semicolon, ";", ⟨0, 1⟩⟩, ⟨.whereKey, "where", ⟨2, 5⟩⟩,
      Token.endOfInput 7] :=
    tokenize_of_scan scannedAway
  have scannedKey : scan 0 "where".toList = ⟨[⟨.whereKey, "where", ⟨0, 5⟩⟩], none⟩ := by
    decide +kernel
  have key : tokenize "where" = .ok [⟨.whereKey, "where", ⟨0, 5⟩⟩, Token.endOfInput 5] :=
    tokenize_of_scan scannedKey
  have behindBad := (parseQuery_append_blank "select from t" "a?" '\n' _ read blank).1 _ bad
  have behindAway := (parseQuery_append_blank "select from t" "; where" '\n' _ read blank).2 _ away
  have behindKey := (parseQuery_append_blank "select from t" "where" '\n' _ read blank).2 _ key
  refine ⟨read, blank, ⟨bad, behindBad⟩, ⟨away, behindAway.mpr ?_⟩, key, all, fun same => ?_⟩
  · rintro ⟨-, -, t, first, isKey⟩
    cases first
    cases isKey
  · exact behindKey.mp same ⟨rfl, all, _, rfl, rfl⟩

end SelectQuery
