import SelectQuery.Diagnostic
import SelectQuery.Proofs.Lines

/-!
# Where a diagnostic points

A diagnostic shows the line of an error with carets under it. The line is the piece of the text that
the location is on, as far as it is shown, and the carets stand under the characters of the span,
as far as the line has them: the character above the first caret is the one that the span starts
with (`renderError_points`). Nothing is asked of the span. One that goes on over the end of its line
is underlined up to there, and one without a character on its line has a single caret.
-/

namespace SelectQuery

open Text

/-! ## What is shown -/

/-- The line is the piece of the text that has the number, counted from one, without a carriage
    return at its end if a line feed follows the piece. -/
def IsLine (cs : List Char) (number : Nat) (line : List Char) : Prop :=
  ∃ piece, (pieces cs)[number - 1]? = some piece ∧
    line = if number < (pieces cs).length then dropReturn piece else piece

/-- What stands before the bar where the text is shown: the number of the line. -/
def numberMargin (number : Nat) : List Char :=
  (toString number).toList ++ [' ']

/-- What stands before the bar on the other lines. -/
def blankMargin (number : Nat) : List Char :=
  List.replicate ((toString number).length + 1) ' '

/-- How many characters of the line the span covers from the column on. -/
def coveredLength (line : List Char) (column length : Nat) : Nat :=
  min length (line.length - (column - 1))

/-- The line with its number. -/
def textLine (number : Nat) (line : List Char) : List Char :=
  numberMargin number ++ '|' :: ' ' :: line

/-- The carets below the line. -/
def caretLine (place : Location) (width : Nat) : List Char :=
  blankMargin place.line ++ '|' :: ' ' ::
    (List.replicate (place.column - 1) ' ' ++ List.replicate width '^')

/-- The error is shown in five lines, with carets under the characters of the span that are on the
    line. -/
structure PointsAt (source : String) (e : QueryError) (place : Location) (chars : List Char) :
    Prop where
  five : pieces (renderError source e).toList =
    [("error: " ++ e.message).toList,
      (spaces (toString place.line).length ++ "--> line " ++ toString place.line ++ ", column " ++
        toString place.column).toList,
      blankMargin place.line ++ ['|'],
      textLine place.line chars,
      caretLine place (max 1 (coveredLength chars place.column e.span.length))]
  /-- The bars are in one column, and nothing before them is a bar. -/
  bars : (blankMargin place.line).length = (numberMargin place.line).length ∧
    '|' ∉ blankMargin place.line ∧ '|' ∉ numberMargin place.line
  /-- A caret stands under the character of the text that it is meant for. -/
  under : ∀ i < coveredLength chars place.column e.span.length, ∃ c,
    chars[place.column - 1 + i]? = some c ∧
    source.toList[min e.span.start source.length + i]? = some c ∧
    (textLine place.line chars)[(numberMargin place.line).length + 2 + (place.column - 1 + i)]? =
      some c ∧
    (caretLine place (max 1 (coveredLength chars place.column e.span.length)))[
      (numberMargin place.line).length + 2 + (place.column - 1 + i)]? = some '^'
  /-- At the end of the text there is one caret, right behind the line. -/
  atEnd : min e.span.start source.length = source.length →
    coveredLength chars place.column e.span.length = 0 ∧ place.column - 1 = chars.length

/-! ## The text of a diagnostic has no other line feeds and bars -/

theorem not_mem_toDigits {c : Char} (other : c.isDigit = false) (n : Nat) :
    c ∉ Nat.toDigits 10 n := by
  intro member
  have digit := Nat.isDigit_of_mem_toDigits (by decide) (by decide) member
  rw [other] at digit
  cases digit

theorem feed_not_mem_kindsDisplay (expected actual : Option TokenKind) :
    '\n' ∉ (QueryError.kindsDisplay expected actual).toList := by
  have names (kind : TokenKind) : '\n' ∉ kind.name.toList := by
    cases kind <;> decide
  cases expected <;> cases actual <;> simp [QueryError.kindsDisplay, names]

/-- A message is one line. -/
theorem QueryError.feed_not_mem_message (e : QueryError) : '\n' ∉ e.message.toList := by
  have cause : '\n' ∉ e.code.display.toList := by
    cases e.code <;> decide
  have number := not_mem_toDigits (c := '\n') rfl
  simp [QueryError.message, Span.display, cause, number, feed_not_mem_kindsDisplay]

theorem length_numberMargin (number : Nat) :
    (numberMargin number).length = (toString number).length + 1 := by
  rw [numberMargin, List.length_append, String.length_toList, List.length_singleton]

theorem length_blankMargin (number : Nat) :
    (blankMargin number).length = (numberMargin number).length := by
  rw [blankMargin, List.length_replicate, length_numberMargin]

theorem bar_not_mem_margins (number : Nat) :
    '|' ∉ blankMargin number ∧ '|' ∉ numberMargin number := by
  have digits := not_mem_toDigits (c := '|') rfl number
  simp [blankMargin, numberMargin, digits]

/-! ## The five lines -/

theorem toList_underline (line : List Char) (column length : Nat) :
    (Diagnostic.underline line column length).toList =
      List.replicate (column - 1) ' ' ++
        List.replicate (max 1 (coveredLength line column length)) '^' := by
  simp [Diagnostic.underline, Diagnostic.caretCount, coveredLength, spaces]

/-- The lines of a diagnostic are its pieces, for none of them has a line feed in it. -/
theorem pieces_renderError {source : String} {e : QueryError} {place : Location}
    {line : List Char} (located : locate source e.span.start = place)
    (shown : lineText source.toList place.line = line) (single : '\n' ∉ line) :
    pieces (renderError source e).toList =
      [("error: " ++ e.message).toList,
        (spaces (toString place.line).length ++ "--> line " ++ toString place.line ++ ", column " ++
          toString place.column).toList,
        blankMargin place.line ++ ['|'],
        textLine place.line line,
        caretLine place (max 1 (coveredLength line place.column e.span.length))] := by
  have number := not_mem_toDigits (c := '\n') rfl
  rw [renderError, pieces_intercalate]
  · simp [Diagnostic.lines, Diagnostic.layout, located, shown, blankMargin, textLine, numberMargin,
      caretLine, toList_underline, List.replicate_succ', spaces]
  · simp [Diagnostic.lines, Diagnostic.layout]
  · simp [Diagnostic.lines, Diagnostic.layout, located, shown, single, number,
      e.feed_not_mem_message, toList_underline, spaces]

/-! ## Main result -/

/-- The character of a line behind the margin and the bar. -/
theorem getElem?_textLine (number : Nat) (chars : List Char) (i : Nat) :
    (textLine number chars)[(numberMargin number).length + 2 + i]? = chars[i]? := by
  rw [textLine, List.getElem?_append_right (by omega)]
  have behind : (numberMargin number).length + 2 + i - (numberMargin number).length = i + 2 := by
    omega
  rw [behind, List.getElem?_cons_succ, List.getElem?_cons_succ]

theorem getElem?_caretLine {place : Location} {width i : Nat} (within : i < width) :
    (caretLine place width)[(numberMargin place.line).length + 2 + (place.column - 1 + i)]? =
      some '^' := by
  rw [caretLine, ← length_blankMargin, List.getElem?_append_right (by omega)]
  have behind : (blankMargin place.line).length + 2 + (place.column - 1 + i) -
      (blankMargin place.line).length = place.column - 1 + i + 2 := by
    omega
  rw [behind, List.getElem?_cons_succ, List.getElem?_cons_succ,
    List.getElem?_append_right (by simp)]
  simp [within]

/-- The line that a location is on holds the characters of the text from the position on. -/
theorem exists_getElem?_of_covered {cs last first chars : List Char} {position i : Nat}
    (onLine : chars <+: last ++ first) (goesOn : first <+: cs.drop position)
    (covered : i < chars.length - last.length) :
    ∃ c, chars[last.length + i]? = some c ∧ cs[min position cs.length + i]? = some c := by
  have reach := onLine.length_le
  rw [List.length_append] at reach
  have inLine : last.length + i < chars.length := by omega
  have inFirst : i < first.length := by omega
  have onLine' : chars[last.length + i] = first[i] := by
    rw [onLine.getElem inLine, List.getElem_append_right (by omega)]
    simp
  have inRest : i < (cs.drop position).length := Nat.lt_of_lt_of_le inFirst goesOn.length_le
  have inText : position < cs.length := by
    rw [List.length_drop] at inRest
    omega
  refine ⟨chars[last.length + i], List.getElem?_eq_getElem inLine, ?_⟩
  rw [Nat.min_eq_left (Nat.le_of_lt inText), ← List.getElem?_drop, onLine',
    goesOn.getElem inFirst, List.getElem?_eq_getElem inRest]

/-- An error is shown with carets under its place, whatever its span is. -/
theorem renderError_points (source : String) (e : QueryError) :
    ∃ line, IsLine source.toList (locate source e.span.start).line line ∧
      PointsAt source e (locate source e.span.start) line := by
  obtain ⟨before, last, first, after, split, located, goesOn, ended⟩ :=
    exists_pieces_of_locate source e.span.start
  have shown := lineText_of_pieces split
  generalize chosen : (if after = [] then last ++ first else dropReturn (last ++ first)) = line
    at shown
  have onLine : line <+: last ++ first := by
    rw [← chosen]
    split
    · exact List.prefix_refl _
    · exact prefix_dropReturn _
  have single : '\n' ∉ line := by
    intro member
    exact not_mem_of_mem_pieces source.toList (last ++ first) (by simp [split])
      (onLine.subset member)
  rw [located]
  refine ⟨line, ⟨last ++ first, ?_, ?_⟩, pieces_renderError located shown single, ?_, ?_, ?_⟩
  · simp [split]
  · cases after with
    | nil => simpa [split] using chosen.symm
    | cons next after => simpa [split] using chosen.symm
  · exact ⟨length_blankMargin _, bar_not_mem_margins _⟩
  · intro i covered
    have within : i < line.length - last.length := by
      simp only [coveredLength] at covered
      omega
    obtain ⟨c, inLine, inSource⟩ := exists_getElem?_of_covered onLine goesOn within
    rw [String.length_toList] at inSource
    refine ⟨c, inLine, inSource, ?_, ?_⟩
    · rw [getElem?_textLine]
      exact inLine
    · exact getElem?_caretLine (Nat.lt_of_lt_of_le covered (Nat.le_max_right _ _))
  · intro atEnd
    obtain ⟨rfl, rfl⟩ := ended (by omega)
    simp only [if_true, List.append_nil] at chosen
    simp [coveredLength, chosen]

/-- A span that begins in front of a carriage return and goes on over lines: its one caret is behind
    the characters that are shown. -/
example : Diagnostic.lines "a\r\nb" ⟨.unexpectedChar, ⟨1, 9⟩, none, none⟩ =
    ["error: Unexpected character. (pos 1, len 9)", " --> line 1, column 2", "  |", "1 | a",
      "  |  ^"] := by
  decide +kernel

end SelectQuery
