import SelectQuery.Proofs.Lines

/-!
# Positions and locations

Line and column of a position say as much as the position: from a location on a line of the text the
position is found again, as many characters behind the beginning as the lines before it have with
their line feeds, and as many more as the column says (`Location.position`). So the positions of a
text and the locations on its lines are the same places, and in the same order
(`locate_iso_position`). A position behind the text is located at its end.
-/

namespace SelectQuery

open Text

/-- How many characters the pieces have together, with a line feed behind each. -/
def lengthWithFeeds : List (List Char) → Nat
  | [] => 0
  | piece :: later => piece.length + 1 + lengthWithFeeds later

namespace Location

/-- The location is on a line of the text, not further than right behind its last character. -/
def On (l : Location) (cs : List Char) : Prop :=
  1 ≤ l.line ∧ 1 ≤ l.column ∧
    ∃ piece, (pieces cs)[l.line - 1]? = some piece ∧ l.column ≤ piece.length + 1

/-- The position of a location on a line of the text. -/
def position (l : Location) (cs : List Char) : Nat :=
  lengthWithFeeds ((pieces cs).take (l.line - 1)) + (l.column - 1)

/-- The location is on an earlier line, or further to the left on the same. -/
def Before (l l' : Location) : Prop :=
  l.line < l'.line ∨ l.line = l'.line ∧ l.column < l'.column

theorem before_trichotomy (l l' : Location) : l.Before l' ∨ l = l' ∨ l'.Before l := by
  obtain ⟨line, column⟩ := l
  obtain ⟨line', column'⟩ := l'
  simp only [Before, Location.mk.injEq]
  omega

end Location

/-! ## Lengths of pieces -/

@[simp]
theorem lengthWithFeeds_append (parts parts' : List (List Char)) :
    lengthWithFeeds (parts ++ parts') = lengthWithFeeds parts + lengthWithFeeds parts' := by
  induction parts with
  | nil => simp [lengthWithFeeds]
  | cons piece parts ih => simp [lengthWithFeeds, ih, Nat.add_assoc]

theorem lengthWithFeeds_take_le (parts : List (List Char)) {i j : Nat} (le : i ≤ j) :
    lengthWithFeeds (parts.take i) ≤ lengthWithFeeds (parts.take j) := by
  have front : parts.take i <+: parts.take j := List.take_prefix_take_left le
  obtain ⟨between, split⟩ := front
  rw [← split, lengthWithFeeds_append]
  exact Nat.le_add_right _ _

/-- A text is as long as its pieces with the line feeds between them. -/
theorem Text.Cut.length_eq {cs last : List Char} {before : List (List Char)}
    (cut : Cut cs before last) : cs.length = lengthWithFeeds before + last.length := by
  induction cut with
  | done => rfl
  | feed _ ih =>
    simp only [lengthWithFeeds, List.length_cons, List.length_nil, ih]
    omega
  | inLast _ _ ih =>
    simp only [lengthWithFeeds, List.length_cons] at ih ⊢
    omega
  | inFirst _ _ ih =>
    simp only [lengthWithFeeds, List.length_cons] at ih ⊢
    omega

theorem lengthWithFeeds_pieces (cs : List Char) : lengthWithFeeds (pieces cs) = cs.length + 1 := by
  obtain ⟨before, last, cut⟩ := exists_cut cs
  rw [cut.pieces, cut.length_eq, lengthWithFeeds_append]
  rfl

/-! ## Positions of locations -/

namespace Location

variable {cs : List Char} {l l' : Location}

/-- A location stands before the line feed of its line. -/
theorem On.position_lt (on : l.On cs) :
    l.position cs < lengthWithFeeds ((pieces cs).take l.line) := by
  obtain ⟨line, column, piece, found, within⟩ := on
  have upTo : (pieces cs).take l.line = (pieces cs).take (l.line - 1) ++ [piece] := by
    have next := List.take_add_one (l := pieces cs) (i := l.line - 1)
    rwa [Nat.sub_add_cancel line, found] at next
  rw [upTo, lengthWithFeeds_append, position]
  simp only [lengthWithFeeds]
  omega

/-- A location on a line of the text is in the text, or at its end. -/
theorem On.position_le (on : l.On cs) : l.position cs ≤ cs.length := by
  have inLine := on.position_lt
  have lines := lengthWithFeeds_take_le (pieces cs) (Nat.le_max_left l.line (pieces cs).length)
  rw [List.take_of_length_le (Nat.le_max_right _ _), lengthWithFeeds_pieces] at lines
  omega

theorem On.position_lt_of_before (on : l.On cs) (before : l.Before l') :
    l.position cs < l'.position cs := by
  rcases before with above | ⟨same, left⟩
  · have lines := lengthWithFeeds_take_le (pieces cs) (Nat.le_sub_one_of_lt above)
    have inLine := on.position_lt
    show l.position cs < lengthWithFeeds ((pieces cs).take (l'.line - 1)) + (l'.column - 1)
    omega
  · have column := on.2.1
    rw [position, position, same]
    omega

/-- Only one location on a line of the text has the position. -/
theorem On.eq_of_position_eq (on : l.On cs) (on' : l'.On cs)
    (same : l.position cs = l'.position cs) : l = l' := by
  rcases before_trichotomy l l' with before | equal | behind
  · exact absurd same (Nat.ne_of_lt (on.position_lt_of_before before))
  · exact equal
  · exact absurd same.symm (Nat.ne_of_lt (on'.position_lt_of_before behind))

end Location

/-! ## Locations of positions -/

/-- A position of the text is located on a line of the text, and found again from there. -/
theorem on_locate (source : String) {i : Nat} (within : i ≤ source.length) :
    (locate source i).On source.toList ∧ (locate source i).position source.toList = i := by
  obtain ⟨before, last, first, after, cut, -, split, located⟩ := exists_cut_of_locate source i
  rw [located]
  constructor
  · refine ⟨Nat.succ_pos _, Nat.succ_pos _, last ++ first, ?_, ?_⟩
    · simp [split]
    · simp
  · have length := cut.length_eq
    rw [List.length_take, String.length_toList, Nat.min_eq_left within] at length
    simp [Location.position, split, length]

theorem locate_of_length_le (source : String) {i : Nat} (behind : source.length ≤ i) :
    locate source i = locate source source.length := by
  have all {j : Nat} (behind : source.length ≤ j) : source.toList.take j = source.toList := by
    apply List.take_of_length_le
    rwa [String.length_toList]
  rw [locate, locate, all behind, all (Nat.le_refl _)]

/-- The positions of a text correspond to the locations on its lines, one to one and in order. -/
theorem locate_iso_position (source : String) :
    (∀ i, i ≤ source.length →
      (locate source i).On source.toList ∧ (locate source i).position source.toList = i) ∧
    (∀ l : Location, l.On source.toList →
      l.position source.toList ≤ source.length ∧
        locate source (l.position source.toList) = l) ∧
    (∀ i j, i < j → j ≤ source.length → (locate source i).Before (locate source j)) ∧
    ∀ i, source.length < i → locate source i = locate source source.length := by
  refine ⟨fun i within => on_locate source within, ?_, ?_, ?_⟩
  · intro l on
    have within := on.position_le
    rw [String.length_toList] at within
    obtain ⟨onLine, again⟩ := on_locate source within
    exact ⟨within, onLine.eq_of_position_eq on again⟩
  · intro i j before within
    obtain ⟨on, again⟩ := on_locate source (Nat.le_trans (Nat.le_of_lt before) within)
    obtain ⟨on', again'⟩ := on_locate source within
    rcases Location.before_trichotomy (locate source i) (locate source j) with
      before | equal | behind
    · exact before
    · rw [equal, again'] at again
      omega
    · have lt := on'.position_lt_of_before behind
      omega
  · intro i behind
    exact locate_of_length_le source (Nat.le_of_lt behind)

/-- The line feed behind a carriage return is the last place of its line, and the next is the only
    place of an empty line. -/
theorem locate_iso_position_feeds :
    let source := "a\r\n\nb"
    (3 ≤ source.length ∧ locate source 3 = ⟨2, 1⟩ ∧
      (locate source 3).On source.toList ∧ (locate source 3).position source.toList = 3) ∧
    ((⟨1, 3⟩ : Location).On source.toList ∧ (⟨1, 3⟩ : Location).position source.toList = 2 ∧
      (⟨1, 3⟩ : Location).position source.toList ≤ source.length ∧
      locate source ((⟨1, 3⟩ : Location).position source.toList) = ⟨1, 3⟩) ∧
    (2 < 3 ∧ (locate source 2).Before (locate source 3)) ∧
    (source.length < 9 ∧ locate source 9 = locate source source.length) := by
  intro source
  have within : 3 ≤ source.length := by decide
  have located : locate source 3 = ⟨2, 1⟩ := by decide +kernel
  have position : (⟨1, 3⟩ : Location).position source.toList = 2 := by decide +kernel
  have on : (⟨1, 3⟩ : Location).On source.toList :=
    ⟨by decide, by decide, ['a', '\r'], by decide +kernel, by decide⟩
  obtain ⟨places, lines, ordered, behind⟩ := locate_iso_position source
  refine ⟨⟨within, located, places 3 within⟩, ⟨on, position, lines _ on⟩, ⟨by decide, ?_⟩,
    by decide, ?_⟩
  · exact ordered 2 3 (by decide) within
  · exact behind 9 (by decide)

end SelectQuery
