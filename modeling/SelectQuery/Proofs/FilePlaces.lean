import SelectQuery.Command
import SelectQuery.Proofs.Failure
import SelectQuery.Proofs.Pointing
import SelectQuery.Proofs.Trimming

/-!
# Diagnostics for files

The content of a file is evaluated without the blanks at its end, and the diagnostic shows what is
left of it. That fits the file as it is: an error lies in what is left, a place there has the same
line and column in the file, and the line that is shown is that of the file, except that blanks at
its end are missing where it is the last (`fileOutcome_points`). For blanks behind a text add to its
last line, and begin lines of their own, but leave the lines before as they are
(`exists_lineText_append`).
-/

namespace SelectQuery

open Text

/-- The diagnostic for an error in the source points into the content of the file that the source
    was read from. -/
structure PointsInto (content source : String) (e : QueryError) : Prop where
  /-- The source is the content without the blanks at its end. -/
  trimmed : ∃ tail, content = source ++ tail ∧ (∀ c ∈ tail.toList, isBlank c = true) ∧
    ∀ c ∈ source.toList.getLast?, isBlank c = false
  within : e.span.start ≤ source.length
  located : locate source e.span.start = locate content e.span.start
  /-- The line that is shown is that of the content but for blanks at the end of the last line. -/
  line : ∃ shown rest,
    (pieces (renderError source e).toList)[3]? =
      some (textLine (locate source e.span.start).line shown) ∧
    shown = lineText source.toList (locate source e.span.start).line ∧
    lineText content.toList (locate content e.span.start).line = shown ++ rest ∧
    (∀ c ∈ rest, isBlank c = true) ∧
    ((locate source e.span.start).line < (lines source.toList).length → rest = [])

/-! ## The last line -/

namespace Text

variable {cs last tail : List Char} {before : List (List Char)}

theorem Cut.eq_last (cut : Cut cs [] last) : cs = last := by
  generalize none : [] = before at cut
  induction cut with
  | done => rfl
  | feed _ _ => cases none
  | inLast _ _ ih => rw [ih none]
  | inFirst _ _ _ => cases none

/-- The last piece of a text stands at its end. -/
theorem Cut.suffix (cut : Cut cs before last) : last <:+ cs := by
  induction cut with
  | done => exact List.suffix_refl []
  | feed _ ih => exact ih.trans (List.suffix_cons _ _)
  | inLast _ cut _ => exact cut.eq_last ▸ List.suffix_refl _
  | inFirst _ _ ih => exact ih.trans (List.suffix_cons _ _)

theorem Cut.length_lines_le (cut : Cut cs before last) :
    (lines cs).length ≤ before.length + 1 := by
  rw [lines_eq cut, List.length_append, List.length_map]
  by_cases empty : last = []
  · simp [empty]
  · simp [empty]

theorem feed_not_mem_of_mem_lines (cs : List Char) : ∀ line ∈ lines cs, '\n' ∉ line := by
  obtain ⟨before, last, cut⟩ := exists_cut cs
  rw [lines_eq cut]
  simp only [List.forall_mem_append, List.forall_mem_map]
  constructor
  · intro piece member inLine
    exact cut.not_mem_before piece member ((prefix_dropReturn piece).subset inLine)
  · intro line member
    by_cases empty : last = []
    · simp [empty] at member
    · simp only [empty, if_false, List.mem_singleton] at member
      rw [member]
      exact cut.not_mem

/-- No line that is shown has a line feed in it. -/
theorem feed_not_mem_lineText (cs : List Char) (number : Nat) : '\n' ∉ lineText cs number := by
  unfold lineText
  cases found : (lines cs)[number - 1]? with
  | none => simp
  | some line => exact feed_not_mem_of_mem_lines cs line (List.mem_of_getElem? found)

/-- What is left of a text without the blanks at its end does not end with a blank. -/
theorem isBlank_getLast?_dropEndBlanks (cs : List Char) :
    ∀ c ∈ (dropEndBlanks cs).getLast?, isBlank c = false := by
  rw [dropEndBlanks, List.getLast?_reverse]
  exact head?_dropWhile_eq_false cs.reverse

/-- A line that does not end with a blank loses none of its own characters with the carriage return
    behind it. -/
theorem exists_dropReturn_append {line : List Char}
    (solid : ∀ c ∈ line.getLast?, isBlank c = false) (more : List Char) :
    ∃ rest, dropReturn (line ++ more) = line ++ rest ∧ rest <+: more := by
  by_cases nothing : more = []
  · subst nothing
    refine ⟨[], ?_, List.prefix_refl []⟩
    rw [List.append_nil, dropReturn, if_neg]
    intro ends
    exact absurd (solid '\r' ends) (by decide)
  · unfold dropReturn
    split
    · exact ⟨more.dropLast, List.dropLast_append_of_ne_nil nothing, List.dropLast_prefix more⟩
    · exact ⟨more, rfl, List.prefix_refl more⟩

/-- Blanks behind a text that does not end with a blank add blanks to its last line, and nothing to
    the others. -/
theorem exists_lineText_append {piece : List Char} {after : List (List Char)}
    (blank : ∀ c ∈ tail, isBlank c = true) (solid : ∀ c ∈ cs.getLast?, isBlank c = false)
    (split : pieces cs = before ++ piece :: after) :
    ∃ rest, lineText (cs ++ tail) (before.length + 1) =
        lineText cs (before.length + 1) ++ rest ∧
      (∀ c ∈ rest, isBlank c = true) ∧ (after ≠ [] → rest = []) := by
  obtain ⟨first, later, back⟩ := List.exists_cons_of_ne_nil (pieces_ne_nil tail)
  rw [lineText_of_pieces split]
  rcases List.eq_nil_or_concat after with rfl | ⟨between, last, rfl⟩
  · have cut : Cut cs before piece := cut_of_pieces split
    rw [lineText_of_pieces (cut.pieces_append back), if_pos rfl]
    have solidPiece : ∀ c ∈ piece.getLast?, isBlank c = false := by
      intro c ends
      obtain ⟨front, whole⟩ := cut.suffix
      apply solid c
      rw [← whole, List.getLast?_append, Option.mem_def.mp ends]
      rfl
    have blankPart {rest : List Char} (part : rest <+: first) : ∀ c ∈ rest, isBlank c = true := by
      intro c member
      exact blank c ((prefix_of_pieces back).subset (part.subset member))
    by_cases ended : later = []
    · rw [if_pos ended]
      exact ⟨first, rfl, blankPart (List.prefix_refl first), absurd rfl⟩
    · rw [if_neg ended]
      obtain ⟨rest, same, part⟩ := exists_dropReturn_append solidPiece first
      exact ⟨rest, same, blankPart part, absurd rfl⟩
  · have cut : Cut cs (before ++ piece :: between) last := cut_of_pieces (by simpa using split)
    have whole : pieces (cs ++ tail) = before ++ piece :: (between ++ (last ++ first) :: later) := by
      simpa using cut.pieces_append back
    rw [lineText_of_pieces whole]
    exact ⟨[], by simp, by simp, fun _ => rfl⟩

end Text

/-! ## Main result -/

/-- An evaluation fails with the text and the error of the query that the text is. -/
theorem evaluate_eq_failure_iff {showTokens : Bool} {s source : String} {e : QueryError} :
    evaluate showTokens s = .failure source e ↔ source = s ∧ parseQuery s = .error e := by
  rw [parseQuery_eq_error_iff]
  unfold evaluate
  cases tokenize s with
  | error e' => simp [eq_comm]
  | ok ts =>
    dsimp only
    cases parsed : parse ts with
    | error e' => simp [parsed, eq_comm]
    | ok st => simp [parsed]

/-- An error of what is left of a content points into the content. -/
theorem pointsInto_of_parseQuery {content : String} {e : QueryError}
    (failed : parseQuery (trimEnd content) = .error e) :
    PointsInto content (trimEnd content) e := by
  obtain ⟨tail, split, blank⟩ := exists_dropEndBlanks content.toList
  have left : (trimEnd content).toList = dropEndBlanks content.toList := String.toList_ofList
  have solid := isBlank_getLast?_dropEndBlanks content.toList
  have within := Nat.le_of_add_right_le (span_le_of_parseQuery_error failed)
  rw [← left] at split solid
  generalize trimEnd content = source at split solid within
  have located : locate source e.span.start = locate content e.span.start := by
    rw [locate, locate, split, List.take_append_of_le_length]
    rwa [String.length_toList]
  refine ⟨⟨String.ofList tail, ?_, ?_, solid⟩, within, located, ?_⟩
  · apply String.toList_injective
    rw [String.toList_append, String.toList_ofList, ← split]
  · rwa [String.toList_ofList]
  · obtain ⟨before, last, first, after, cut, place, -, -⟩ :=
      exists_pieces_of_locate source e.span.start
    obtain ⟨rest, same, blankRest, whole⟩ := exists_lineText_append blank solid cut
    rw [← located, place]
    refine ⟨lineText source.toList (before.length + 1), rest, ?_, rfl, ?_, blankRest, ?_⟩
    · rw [pieces_renderError place rfl (feed_not_mem_lineText _ _)]
      rfl
    · rw [split]
      exact same
    · intro notLast
      apply whole
      rintro rfl
      exact absurd (cut_of_pieces cut).length_lines_le (Nat.not_le_of_lt notLast)

/-- Where the content of a file cannot be read as a query, the run puts out nothing and complains
    with the error in what is left of the content, and points into the content. -/
theorem fileOutcome_points (draw : Table → String) (r : Request) (path : String)
    (bytes : List UInt8) (content source : String) (e : QueryError)
    (readable : decode? bytes = some content)
    (failed : evaluate r.showTokens (trimEnd content) = .failure source e) :
    (Command.fileOutcome draw r path (.ok bytes)).output = "" ∧
      (Command.fileOutcome draw r path (.ok bytes)).exit =
        ⟨1, some (.diagnostic (renderError source e))⟩ ∧
      PointsInto content source e := by
  obtain ⟨rfl, error⟩ := evaluate_eq_failure_iff.mp failed
  have answered : Command.fileOutcome draw r path (.ok bytes) =
      Command.queryOutcome draw r (trimEnd content) := by
    simp only [Command.fileOutcome, bind, Except.bind, readable]
  have outcome : Command.fileOutcome draw r path (.ok bytes) =
      ⟨"", r.verbosity.shown (evaluationRecords (trimEnd content)),
        ⟨1, some (.diagnostic (renderError (trimEnd content) e))⟩⟩ := by
    rw [answered, Command.queryOutcome, failed]
    rfl
  rw [outcome]
  exact ⟨rfl, rfl, pointsInto_of_parseQuery error⟩

/-- A query that breaks off is shown without the blanks behind it, on the second line of the file,
    where a tab stands behind what is shown. -/
theorem fileOutcome_points_tab :
    let request : Request := ⟨.file "q", false, .silent⟩
    let bytes : List UInt8 := [115, 101, 108, 101, 99, 116, 13, 10, 97, 44, 9, 13, 10]
    let e : QueryError := ⟨.unexpectedToken, ⟨10, 0⟩, some .fromKey, some .endOfInput⟩
    decode? bytes = some "select\r\na,\t\r\n" ∧
    evaluate request.showTokens (trimEnd "select\r\na,\t\r\n") = .failure "select\r\na," e ∧
    lineText "select\r\na,\t\r\n".toList 2 = ['a', ',', '\t'] ∧
    (Command.fileOutcome drawTable request "q" (.ok bytes)).output = "" ∧
    (Command.fileOutcome drawTable request "q" (.ok bytes)).exit =
      ⟨1, some (.diagnostic
        ("error: Unexpected token. (pos 10, len 0) Expected From, found EndOfInput.\n" ++
          " --> line 2, column 3\n  |\n2 | a,\n  |   ^"))⟩ ∧
    PointsInto "select\r\na,\t\r\n" "select\r\na," e := by
  intro request bytes e
  have readable : decode? bytes = some "select\r\na,\t\r\n" := by decide +kernel
  have failed : evaluate request.showTokens (trimEnd "select\r\na,\t\r\n") =
      .failure "select\r\na," e := by
    decide +kernel
  have line : lineText "select\r\na,\t\r\n".toList 2 = ['a', ',', '\t'] := by decide +kernel
  obtain ⟨nothing, exit, points⟩ :=
    fileOutcome_points drawTable request "q" bytes _ _ e readable failed
  refine ⟨readable, failed, line, nothing, ?_, points⟩
  rw [exit]
  decide +kernel

end SelectQuery
