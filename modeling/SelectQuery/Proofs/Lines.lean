import SelectQuery.Location
import SelectQuery.Text.Lines

/-!
# Lines, pieces and locations

There are three notions of the lines of a text. `pieces` cuts it at its line feeds, `lines` gives
the lines that are shown, and `locate` counts line feeds on the way to a position. They agree: the
lines are the pieces, without a carriage return where a line feed follows and without the last one
if it is empty (`lines_eq`), and a position is on the piece of its line number, behind as many
characters as its column says (`exists_pieces_of_locate`). Each is shown by induction on how the
text is cut (`Cut`).
-/

namespace SelectQuery

namespace Text

/-! ## How a text is cut -/

/-- The text consists of the pieces `before`, each with a line feed behind it, and the piece `last`
    at its end. -/
inductive Cut : List Char → List (List Char) → List Char → Prop
  | done : Cut [] [] []
  | feed {cs last : List Char} {before : List (List Char)} :
      Cut cs before last → Cut ('\n' :: cs) ([] :: before) last
  | inLast {c : Char} {cs last : List Char} :
      c ≠ '\n' → Cut cs [] last → Cut (c :: cs) [] (c :: last)
  | inFirst {c : Char} {cs piece last : List Char} {before : List (List Char)} :
      c ≠ '\n' → Cut cs (piece :: before) last → Cut (c :: cs) ((c :: piece) :: before) last

variable {cs last : List Char} {before : List (List Char)}

theorem Cut.pieces (cut : Cut cs before last) : pieces cs = before ++ [last] := by
  induction cut with
  | done => rfl
  | feed _ ih => simp [Text.pieces, ih]
  | inLast noFeed _ ih => simp [Text.pieces, noFeed, ih]
  | inFirst noFeed _ ih => simp [Text.pieces, noFeed, ih]

theorem exists_cut (cs : List Char) : ∃ before last, Cut cs before last := by
  induction cs with
  | nil => exact ⟨[], [], .done⟩
  | cons c cs ih =>
    obtain ⟨before, last, cut⟩ := ih
    by_cases feed : c = '\n'
    · subst feed
      exact ⟨[] :: before, last, .feed cut⟩
    · cases before with
      | nil => exact ⟨[], c :: last, .inLast feed cut⟩
      | cons piece before => exact ⟨(c :: piece) :: before, last, .inFirst feed cut⟩

theorem cut_of_pieces (split : Text.pieces cs = before ++ [last]) : Cut cs before last := by
  obtain ⟨before', last', cut⟩ := exists_cut cs
  rw [cut.pieces] at split
  obtain ⟨rfl, same⟩ := List.append_inj' split rfl
  cases same
  exact cut

theorem Cut.not_mem (cut : Cut cs before last) : '\n' ∉ last := by
  induction cut with
  | done => simp
  | feed _ ih => exact ih
  | inLast noFeed _ ih => simp [Ne.symm noFeed, ih]
  | inFirst _ _ ih => exact ih

theorem Cut.not_mem_before (cut : Cut cs before last) : ∀ piece ∈ before, '\n' ∉ piece := by
  induction cut with
  | done => simp
  | feed _ ih => simpa using ih
  | inLast _ _ ih => exact ih
  | inFirst noFeed _ ih => simpa [Ne.symm noFeed] using ih

theorem not_mem_of_mem_pieces (cs : List Char) : ∀ piece ∈ pieces cs, '\n' ∉ piece := by
  obtain ⟨before, last, cut⟩ := exists_cut cs
  rw [cut.pieces]
  simp only [List.forall_mem_append, List.forall_mem_singleton]
  exact ⟨cut.not_mem_before, cut.not_mem⟩

/-- Where two texts meet, the last piece of the one and the first of the other are one piece. -/
theorem Cut.pieces_append {b first : List Char} {after : List (List Char)}
    (cut : Cut cs before last) (back : Text.pieces b = first :: after) :
    Text.pieces (cs ++ b) = before ++ (last ++ first) :: after := by
  induction cut with
  | done => simpa using back
  | feed _ ih => simp [Text.pieces, ih]
  | inLast noFeed _ ih => simp [Text.pieces, noFeed, ih]
  | inFirst noFeed _ ih => simp [Text.pieces, noFeed, ih]

/-- The first piece of a text stands at its front. -/
theorem prefix_of_pieces {cs first : List Char} {after : List (List Char)}
    (split : pieces cs = first :: after) : first <+: cs := by
  induction cs generalizing first after with
  | nil =>
    simp only [pieces, List.cons.injEq] at split
    simp [← split.1]
  | cons c cs ih =>
    obtain ⟨piece, later, tail⟩ := List.exists_cons_of_ne_nil (pieces_ne_nil cs)
    by_cases feed : c = '\n'
    · simp only [pieces, feed, if_true, List.cons.injEq] at split
      simp [← split.1]
    · simp only [pieces, feed, if_false, tail, List.modifyHead_cons, List.cons.injEq] at split
      rw [← split.1]
      exact (List.prefix_cons_inj c).mpr (ih tail)

theorem pieces_eq_splitOn (cs : List Char) : pieces cs = cs.splitOn '\n' := by
  induction cs with
  | nil => rfl
  | cons c cs ih => simp [pieces, List.splitOn_cons_eq_if_modifyHead, ih]

/-- Texts without line feeds that are joined by line feeds are the pieces of the whole. -/
theorem pieces_intercalate {parts : List String} (nonempty : parts ≠ [])
    (single : ∀ part ∈ parts, '\n' ∉ part.toList) :
    pieces ("\n".intercalate parts).toList = parts.map String.toList := by
  have joined : ("\n".intercalate parts).toList = ['\n'].intercalate (parts.map String.toList) :=
    String.toList_intercalate
  rw [pieces_eq_splitOn, joined]
  apply List.splitOn_intercalate
  · simpa using single
  · simpa using nonempty

/-! ## The lines that are shown -/

theorem Cut.splitBehindFeeds (cut : Cut cs before last) :
    splitBehindFeeds cs = before.map (· ++ ['\n']) ++ if last = [] then [] else [last] := by
  induction cut with
  | done => rfl
  | feed _ ih => simp [Text.splitBehindFeeds, ih]
  | @inLast c cs last noFeed _ ih =>
    by_cases empty : last = [] <;> simp [Text.splitBehindFeeds, noFeed, ih, empty]
  | inFirst noFeed _ ih => simp [Text.splitBehindFeeds, noFeed, ih]

theorem dropEnding_append (piece : List Char) :
    dropEnding (piece ++ ['\n']) = dropReturn piece := by
  simp [dropEnding]

theorem dropEnding_of_not_mem {line : List Char} (single : '\n' ∉ line) :
    dropEnding line = line := by
  apply if_neg
  intro last
  exact single (List.mem_of_getLast? last)

/-- The lines of a text are its pieces, those before a line feed without a carriage return at their
    end and the last only if it is not empty. -/
theorem lines_eq (cut : Cut cs before last) :
    lines cs = before.map dropReturn ++ if last = [] then [] else [last] := by
  have feeds : (before.map (· ++ ['\n'])).map dropEnding = before.map dropReturn := by
    simp [dropEnding_append]
  rw [lines, cut.splitBehindFeeds, List.map_append, feeds]
  by_cases empty : last = []
  · simp [empty]
  · simp [empty, dropEnding_of_not_mem cut.not_mem]

/-- The line of a number is the piece of that number, without a carriage return at its end if a line
    feed follows the piece. -/
theorem lineText_of_pieces {piece : List Char} {after : List (List Char)}
    (split : pieces cs = before ++ piece :: after) :
    lineText cs (before.length + 1) = if after = [] then piece else dropReturn piece := by
  rcases List.eq_nil_or_concat after with rfl | ⟨between, last, rfl⟩
  · rw [lineText, lines_eq (cut_of_pieces split)]
    by_cases empty : piece = [] <;> simp [empty]
  · have cut : Cut cs (before ++ piece :: between) last := cut_of_pieces (by simpa using split)
    rw [lineText, lines_eq cut]
    simp

theorem prefix_dropReturn (piece : List Char) : dropReturn piece <+: piece := by
  unfold dropReturn
  split
  · exact List.dropLast_prefix piece
  · exact List.prefix_refl piece

end Text

open Text

/-! ## Locations -/

/-- Going on over a text leads to its last piece: as many lines further as pieces stand before it,
    and behind its characters, which are counted from the first column on a new line. -/
theorem Location.foldl_next {cs last : List Char} {before : List (List Char)}
    (cut : Cut cs before last) (l : Location) :
    cs.foldl next l =
      ⟨l.line + before.length, (if before = [] then l.column else 1) + last.length⟩ := by
  induction cut generalizing l with
  | done => rfl
  | feed _ ih => simp [next, ih, Nat.add_comm, Nat.add_left_comm]
  | inLast noFeed _ ih => simp [next, noFeed, ih, Nat.add_comm, Nat.add_left_comm]
  | inFirst noFeed _ ih => simp [next, noFeed, ih]

theorem Location.after_eq {cs last : List Char} {before : List (List Char)}
    (cut : Cut cs before last) : Location.after cs = ⟨before.length + 1, last.length + 1⟩ := by
  simp [Location.after, foldl_next cut, first, Nat.add_comm]

/-- The text before a position is cut into pieces, of which the last goes on behind the position,
    and the location counts them and the characters of the last. -/
theorem exists_cut_of_locate (source : String) (position : Nat) :
    ∃ before last first after, Cut (source.toList.take position) before last ∧
      pieces (source.toList.drop position) = first :: after ∧
      pieces source.toList = before ++ (last ++ first) :: after ∧
      locate source position = ⟨before.length + 1, last.length + 1⟩ := by
  obtain ⟨before, last, cut⟩ := exists_cut (source.toList.take position)
  obtain ⟨first, after, back⟩ :=
    List.exists_cons_of_ne_nil (pieces_ne_nil (source.toList.drop position))
  refine ⟨before, last, first, after, cut, back, ?_, Location.after_eq cut⟩
  rw [← cut.pieces_append back, List.take_append_drop]

/-- A position is on the piece of its line number, behind as many characters as its column says:
    `last` stands before it on that piece, and `first` behind it, where the text goes on. -/
theorem exists_pieces_of_locate (source : String) (position : Nat) :
    ∃ before last first after, pieces source.toList = before ++ (last ++ first) :: after ∧
      locate source position = ⟨before.length + 1, last.length + 1⟩ ∧
      first <+: source.toList.drop position ∧
      (source.length ≤ position → first = [] ∧ after = []) := by
  obtain ⟨before, last, first, after, -, back, split, located⟩ :=
    exists_cut_of_locate source position
  refine ⟨before, last, first, after, split, located, prefix_of_pieces back, ?_⟩
  intro behind
  have nothing : source.toList.drop position = [] := by
    apply List.drop_eq_nil_of_le
    rwa [String.length_toList]
  simpa [nothing, pieces, eq_comm] using back

end SelectQuery
