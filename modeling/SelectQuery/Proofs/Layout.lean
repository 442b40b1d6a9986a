import SelectQuery.Proofs.Tiling

/-!
# The layout of a text

A layout gives each token its place in a text, and says of the places alone, in whatever order
they were found, that they are the tokens of the text: the spans lie one behind the other, what they
leave open is blank, and each token is spelled by the characters of its span and could not have been
longer. The main result is that the tokens of a text are its layout and that it has no other
(`tokenize_eq_ok_iff`).
-/

namespace SelectQuery

open Text

/-- Whether the character at the index is one of the span's. -/
def Span.Covers (span : Span) (i : Nat) : Prop :=
  span.start ≤ i ∧ i < span.start + span.length

/-- The tokens are the layout of the text `cs` from the position on: their spans are not empty, lie
    one behind the other and inside the text, every character outside them is blank, and each token
    is spelled by the characters of its span with the rest of the text behind them. -/
structure Layout (cs : List Char) (position : Nat) (tokens : List Token) : Prop where
  nonempty : ∀ t ∈ tokens, 0 < t.span.length
  ordered : tokens.Pairwise fun t u => t.span.start + t.span.length ≤ u.span.start
  inside : ∀ t ∈ tokens, position ≤ t.span.start ∧ t.span.start + t.span.length ≤ cs.length
  blank : ∀ i c, position ≤ i → cs[i]? = some c → (∀ t ∈ tokens, ¬t.span.Covers i) →
    isBlank c = true
  spelled : ∀ t ∈ tokens, Spells t.kind t.text ((cs.drop t.span.start).take t.span.length)
    (cs.drop (t.span.start + t.span.length))

/-- The tokens are the layout of the whole text, and the token for its end stands last and nowhere
    else. -/
def MaximalMunch (s : String) (ts : List Token) : Prop :=
  ∃ tokens, ts = tokens ++ [Token.endOfInput s.length] ∧ (∀ t ∈ tokens, t.kind ≠ .endOfInput) ∧
    Layout s.toList 0 tokens

/-! ## From a tiling to a layout -/

namespace Layout

variable {cs : List Char} {position : Nat} {c : Char} {t : Token} {tokens : List Token}

theorem done (ended : cs.drop position = []) : Layout cs position [] where
  nonempty _ member := by cases member
  ordered := .nil
  inside _ member := by cases member
  blank i c after found _ := by
    have length := List.drop_eq_nil_iff.mp ended
    have within := (List.getElem?_eq_some_iff.mp found).1
    omega
  spelled _ member := by cases member

/-- A blank in front of a layout belongs to no token. -/
theorem skip (here : cs[position]? = some c) (blank : isBlank c = true)
    (later : Layout cs (position + 1) tokens) : Layout cs position tokens where
  nonempty := later.nonempty
  ordered := later.ordered
  inside t member := ⟨Nat.le_of_succ_le (later.inside t member).1, (later.inside t member).2⟩
  blank i d after found uncovered := by
    rcases Nat.eq_or_lt_of_le after with rfl | after
    · rw [here] at found
      cases found
      exact blank
    · exact later.blank i d after found uncovered
  spelled := later.spelled

/-- A token in front of a layout is the first of its tokens. -/
theorem cons (start : t.span.start = position) (nonempty : 0 < t.span.length)
    (fits : position + t.span.length ≤ cs.length)
    (spelled : Spells t.kind t.text ((cs.drop position).take t.span.length)
      (cs.drop (position + t.span.length)))
    (later : Layout cs (position + t.span.length) tokens) : Layout cs position (t :: tokens) where
  nonempty := List.forall_mem_cons.mpr ⟨nonempty, later.nonempty⟩
  ordered := by
    refine List.pairwise_cons.mpr ⟨fun u member => ?_, later.ordered⟩
    rw [start]
    exact (later.inside u member).1
  inside := by
    refine List.forall_mem_cons.mpr ⟨⟨Nat.le_of_eq start.symm, start ▸ fits⟩, fun u member => ?_⟩
    have inside := later.inside u member
    exact ⟨Nat.le_of_add_right_le inside.1, inside.2⟩
  blank i c after found uncovered := by
    obtain ⟨notFirst, notLater⟩ := List.forall_mem_cons.mp uncovered
    refine later.blank i c (Nat.le_of_not_lt fun before => notFirst ⟨?_, ?_⟩) found notLater
    · rwa [start]
    · rwa [start]
  spelled := List.forall_mem_cons.mpr ⟨by rwa [start], later.spelled⟩

end Layout

/-- The tokens of a tiling are a layout. -/
theorem layout_of_tiles {position : Nat} {rest after : List Char} {tokens : List Token}
    (tiled : Tiles position rest after tokens) (last : after = []) :
    ∀ cs : List Char, cs.drop position = rest → Layout cs position tokens := by
  induction tiled with
  | done => exact fun cs split => .done split
  | @blank position c rest after tokens blank _ ih =>
    intro cs split
    have here : cs[position]? = some c := by
      rw [← List.head?_drop, split, List.head?_cons]
    refine .skip here blank (ih last cs ?_)
    rw [← List.drop_drop, split, List.drop_one, List.tail_cons]
  | @token position kind text c more rest after tokens spelled _ ih =>
    intro cs split
    subst last
    rw [List.append_nil] at spelled
    have behind : cs.drop (position + (more.length + 1)) = rest := by
      rw [← List.drop_drop, split, List.drop_succ_cons, List.drop_left]
    have slice : (cs.drop position).take (more.length + 1) = c :: more := by
      rw [split, List.take_succ_cons, List.take_left]
    have fits : position + (more.length + 1) ≤ cs.length := by
      have length := congrArg List.length split
      rw [List.length_drop, List.length_cons, List.length_append] at length
      omega
    refine .cons rfl (Nat.succ_pos _) fits ?_ (ih rfl cs behind)
    rw [behind, slice]
    exact spelled

/-! ## From a layout to a tiling -/

namespace Layout

variable {cs : List Char} {position : Nat} {t : Token} {tokens : List Token}

/-- A layout with nothing left of the text has no tokens. -/
theorem eq_nil (laid : Layout cs position tokens) (ended : cs.length ≤ position) : tokens = [] := by
  cases tokens with
  | nil => rfl
  | cons t tokens =>
    have inside := laid.inside t List.mem_cons_self
    have nonempty := laid.nonempty t List.mem_cons_self
    omega

/-- A token that covers the first character of a layout starts there and is the first token. -/
theorem head_of_covers (laid : Layout cs position tokens) {t : Token} (member : t ∈ tokens)
    (covers : t.span.Covers position) :
    t.span.start = position ∧ ∃ later, tokens = t :: later := by
  have start : t.span.start = position := Nat.le_antisymm covers.1 (laid.inside t member).1
  refine ⟨start, ?_⟩
  cases tokens with
  | nil => cases member
  | cons u later =>
    rcases List.mem_cons.mp member with rfl | member
    · exact ⟨later, rfl⟩
    · have before := (List.pairwise_cons.mp laid.ordered).1 t member
      have inside := (laid.inside u List.mem_cons_self).1
      have nonempty := laid.nonempty u List.mem_cons_self
      omega

/-- Behind the first token of a layout stands the layout of the rest. -/
theorem tail (laid : Layout cs position (t :: tokens)) :
    Layout cs (t.span.start + t.span.length) tokens where
  nonempty := (List.forall_mem_cons.mp laid.nonempty).2
  ordered := (List.pairwise_cons.mp laid.ordered).2
  inside u member := ⟨(List.pairwise_cons.mp laid.ordered).1 u member,
    (laid.inside u (List.mem_cons_of_mem t member)).2⟩
  blank i c after found uncovered := by
    have inside := (laid.inside t List.mem_cons_self).1
    refine laid.blank i c (by omega) found (List.forall_mem_cons.mpr ⟨?_, uncovered⟩)
    rintro ⟨-, before⟩
    omega
  spelled := (List.forall_mem_cons.mp laid.spelled).2

/-- Behind a character that no token covers stands the layout of the rest. -/
theorem skipped (laid : Layout cs position tokens)
    (uncovered : ∀ t ∈ tokens, ¬t.span.Covers position) : Layout cs (position + 1) tokens where
  nonempty := laid.nonempty
  ordered := laid.ordered
  inside t member := by
    have inside := laid.inside t member
    have nonempty := laid.nonempty t member
    refine ⟨Nat.lt_of_le_of_ne inside.1 fun start => uncovered t member ⟨?_, ?_⟩, inside.2⟩
    · exact Nat.le_of_eq start.symm
    · omega
  blank i c after found := laid.blank i c (Nat.le_of_succ_le after) found
  spelled := laid.spelled

end Layout

/-- The first token of a layout, put in front of a tiling of the rest. -/
theorem tiles_cons {cs : List Char} {position : Nat} {t : Token} {tokens : List Token}
    (laid : Layout cs position (t :: tokens)) (start : t.span.start = position)
    (later : Tiles (position + t.span.length) (cs.drop (position + t.span.length)) [] tokens) :
    Tiles position (cs.drop position) [] (t :: tokens) := by
  obtain ⟨kind, text, ⟨at_, length⟩⟩ := t
  dsimp only at start later
  subst start
  have nonempty : 0 < length := laid.nonempty _ List.mem_cons_self
  have fits : at_ + length ≤ cs.length := (laid.inside _ List.mem_cons_self).2
  have spelled := laid.spelled _ List.mem_cons_self
  have split : (cs.drop at_).take length ++ cs.drop (at_ + length) = cs.drop at_ := by
    rw [← List.drop_drop, List.take_append_drop]
  have size : ((cs.drop at_).take length).length = length := by
    rw [List.length_take, List.length_drop]
    omega
  dsimp only at spelled
  cases slice : (cs.drop at_).take length with
  | nil =>
    rw [slice, List.length_nil] at size
    omega
  | cons c more =>
    rw [slice] at spelled split size
    rw [List.length_cons] at size
    subst size
    rw [← List.append_nil (cs.drop (at_ + (more.length + 1)))] at spelled
    rw [← split]
    exact .token spelled later

/-- A layout of a text tiles it. -/
theorem tiles_of_layout {cs : List Char} {tokens : List Token} {position : Nat}
    (laid : Layout cs position tokens) : Tiles position (cs.drop position) [] tokens := by
  -- By induction on the characters that are left: the next one is the first of a token or a blank.
  generalize left : cs.length - position = n
  induction n using Nat.strongRecOn generalizing position tokens with
  | ind n ih =>
    by_cases ended : cs.length ≤ position
    · rw [laid.eq_nil ended, List.drop_eq_nil_of_le ended]
      exact .done
    · have within : position < cs.length := Nat.lt_of_not_le ended
      by_cases covered : ∃ t ∈ tokens, t.span.Covers position
      · obtain ⟨t, member, covers⟩ := covered
        have nonempty := laid.nonempty t member
        obtain ⟨start, later, rfl⟩ := laid.head_of_covers member covers
        refine tiles_cons laid start (ih (cs.length - (position + t.span.length)) ?_ ?_ rfl)
        · omega
        · exact start ▸ laid.tail
      · have uncovered : ∀ t ∈ tokens, ¬t.span.Covers position :=
          fun t member covers => covered ⟨t, member, covers⟩
        rw [List.drop_eq_getElem_cons within]
        refine .blank ?_ (ih (cs.length - (position + 1)) ?_ (laid.skipped uncovered) rfl)
        · exact laid.blank position _ (Nat.le_refl _) (List.getElem?_eq_getElem within) uncovered
        · omega

/-! ## Main result -/

theorem tiles_iff_layout {cs : List Char} {tokens : List Token} :
    Tiles 0 cs [] tokens ↔ Layout cs 0 tokens :=
  ⟨fun tiled => layout_of_tiles tiled rfl cs List.drop_zero, tiles_of_layout⟩

/-- The tokens of a text are its layout, and a text has no other. -/
theorem tokenize_eq_ok_iff (s : String) (ts : List Token) :
    tokenize s = .ok ts ↔ MaximalMunch s ts := by
  rw [tokenize_eq_ok_iff_tiles]
  constructor
  · rintro ⟨tokens, tiled, rfl⟩
    exact ⟨tokens, rfl, kind_ne_endOfInput_of_tiles tiled, tiles_iff_layout.mp tiled⟩
  · rintro ⟨tokens, rfl, -, laid⟩
    exact ⟨tokens, tiles_iff_layout.mpr laid, rfl⟩

end SelectQuery
