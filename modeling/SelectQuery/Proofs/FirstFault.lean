import SelectQuery.Proofs.Tiling

/-!
# Where a text fails

A text fails at the first place that starts no token. `FailsAt` says which place that is by the text
before it, which has to consist of tokens, and by the character there and what follows it; it does
not speak of a scan. Whether a character is bad depends on where it stands: one that starts no token
is welcome in a string that is closed, and one that cannot start a word may go on it.
-/

namespace SelectQuery

open Text

/-- A word among the tokens ends before the position. -/
def EndsWord (position : Nat) (ts : List Token) : Prop :=
  ∃ t ∈ ts, t.kind.isWord = true ∧ t.span.start + t.span.length = position

/-- The text fails at the position with the error: what stands before it consists of tokens, the
    character there goes on no word, and either it opens a string that nothing closes or no token
    starts with it. -/
def FailsAt (s : String) (position : Nat) (e : QueryError) : Prop :=
  ∃ before c after ts, s.toList = before ++ c :: after ∧ before.length = position ∧
    tokenize (String.ofList before) = .ok ts ∧
    ¬(isWordChar c = true ∧ EndsWord position ts) ∧
    ((c = '\x27' ∧ '\x27' ∉ after ∧
        e = ⟨.unterminatedString, ⟨position, s.length - position⟩, none, none⟩) ∨
      (StartsNoToken c ∧ e = ⟨.unexpectedChar, ⟨position, 1⟩, none, none⟩))

/-! ## The fault of a scan -/

theorem endsWord_append_endOfInput {position n : Nat} {tokens : List Token} :
    EndsWord position (tokens ++ [Token.endOfInput n]) ↔ EndsWord position tokens := by
  constructor
  · intro ends
    rcases ends with ⟨t, member, word, reaches⟩
    rcases List.mem_append.mp member with member | last
    · exact ⟨t, member, word, reaches⟩
    · rw [List.mem_singleton.mp last] at word
      cases word
  · rintro ⟨t, member, word, reaches⟩
    exact ⟨t, List.mem_append_left _ member, word, reaches⟩

/-- Behind a stretch that is tiled no word goes on. -/
theorem not_endsWord_of_tiles {covered after : List Char} {c : Char} {tokens : List Token}
    (tiled : Tiles 0 covered (c :: after) tokens) :
    ¬(isWordChar c = true ∧ EndsWord covered.length tokens) := by
  rintro ⟨goesOn, t, member, word, reaches⟩
  rw [← Nat.zero_add covered.length] at reaches
  have stop := tiled.stop t member reaches c rfl
  rw [goesOn_of_isWord word, goesOn] at stop
  cases stop

/-- The text fails where its scan stops. -/
theorem exists_failsAt_of_error {s : String} {e : QueryError} (failed : tokenize s = .error e) :
    ∃ position, FailsAt s position e := by
  obtain ⟨covered, left, tokens, fault, split, tiled, stops, rfl⟩ :=
    tokenize_eq_error_iff_tiles.mp failed
  have before : tokenize (String.ofList covered) =
      .ok (tokens ++ [Token.endOfInput (String.ofList covered).length]) := by
    rw [tokenize_eq_ok_iff_tiles]
    refine ⟨tokens, ?_, rfl⟩
    rw [String.toList_ofList]
    exact tiled.atEnd
  cases stops with
  | @unterminated rest quoteless =>
    refine ⟨covered.length, covered, _, rest, _, split, rfl, before, ?_,
      Or.inl ⟨rfl, quoteless, ?_⟩⟩
    · rw [endsWord_append_endOfInput]
      exact not_endsWord_of_tiles tiled
    · have length : s.length - covered.length = rest.length + 1 := by
        rw [← String.length_toList, split, List.length_append, List.length_cons]
        omega
      rw [length]
      rfl
  | @unexpected c rest bad =>
    refine ⟨covered.length, covered, c, rest, _, split, rfl, before, ?_, Or.inr ⟨bad, rfl⟩⟩
    rw [endsWord_append_endOfInput]
    exact not_endsWord_of_tiles tiled

/-- A scan stops where the text fails. -/
theorem error_of_failsAt {s : String} {position : Nat} {e : QueryError}
    (fails : FailsAt s position e) : tokenize s = .error e := by
  obtain ⟨covered, c, after, ts, split, rfl, before, noWord, fault⟩ := fails
  obtain ⟨tokens, tiled, rfl⟩ := tokenize_eq_ok_iff_tiles.mp before
  rw [String.toList_ofList] at tiled
  rw [endsWord_append_endOfInput] at noWord
  rw [tokenize_eq_error_iff_tiles]
  rcases fault with ⟨rfl, quoteless, rfl⟩ | ⟨bad, rfl⟩
  · refine ⟨covered, _, tokens, _, split, tiled.beforeQuote, .unterminated quoteless, ?_⟩
    have length : s.length - covered.length = after.length + 1 := by
      rw [← String.length_toList, split, List.length_append, List.length_cons]
      omega
    rw [length]
    rfl
  · have stretch : Tiles 0 covered (c :: after) tokens := by
      refine tiled.before fun t member reaches d first => ?_
      cases first
      rw [Nat.zero_add] at reaches
      refine goesOn_eq_false bad.2.2.1 fun word => ?_
      rw [Bool.eq_false_iff]
      exact fun goesOn => noWord ⟨goesOn, t, member, word, reaches⟩
    exact ⟨covered, _, tokens, _, split, stretch, .unexpected bad, rfl⟩

theorem start_eq_of_failsAt {s : String} {position : Nat} {e : QueryError}
    (fails : FailsAt s position e) : e.span.start = position := by
  obtain ⟨_, _, _, _, _, _, _, _, fault⟩ := fails
  rcases fault with ⟨-, -, rfl⟩ | ⟨-, rfl⟩ <;> rfl

theorem start_eq_of_stops {position : Nat} {left : List Char} {fault : ScanFault}
    (stops : Stops position left (some fault)) : fault.error.span.start = position := by
  cases stops <;> rfl

/-- No error lies in a stretch that is tiled. -/
theorem length_le_start_of_tiles {s : String} {covered left : List Char} {tokens : List Token}
    {e : QueryError} (split : s.toList = covered ++ left) (tiled : Tiles 0 covered left tokens)
    (failed : tokenize s = .error e) : covered.length ≤ e.span.start := by
  obtain ⟨covered', left', tokens', fault, split', tiled', stops, rfl⟩ :=
    tokenize_eq_error_iff_tiles.mp failed
  rw [← Nat.zero_add covered'.length] at stops
  have found := scan_eq_iff.mpr ⟨covered', left', split', tiled', stops⟩
  rw [split, scan_append tiled, Scan.mk.injEq, Nat.zero_add] at found
  obtain ⟨further, left'', -, -, later⟩ := exists_tiles covered.length left
  rw [found.2] at later
  rw [start_eq_of_stops later]
  exact Nat.le_add_right _ _

/-! ## Places that never fail -/

/-- No error lies in a string that is closed. -/
theorem length_le_start_of_closed {s : String} {before body after : List Char} {ts : List Token}
    {e : QueryError} (read : tokenize (String.ofList before) = .ok ts) (quoteless : '\x27' ∉ body)
    (split : s.toList = before ++ '\x27' :: (body ++ '\x27' :: after))
    (failed : tokenize s = .error e) : before.length + (body.length + 2) ≤ e.span.start := by
  obtain ⟨tokens, tiled, rfl⟩ := tokenize_eq_ok_iff_tiles.mp read
  rw [String.toList_ofList] at tiled
  have bound := length_le_start_of_tiles (by simpa using split) (tiled.string quoteless) failed
  simpa [Nat.add_assoc] using bound

/-- No error lies in the characters that go on a word. -/
theorem length_le_start_of_word {s : String} {before more after : List Char} {ts : List Token}
    {e : QueryError} (read : tokenize (String.ofList before) = .ok ts)
    (word : EndsWord before.length ts) (members : ∀ c ∈ more, isWordChar c = true)
    (split : s.toList = before ++ (more ++ after)) (failed : tokenize s = .error e) :
    before.length + more.length ≤ e.span.start := by
  obtain ⟨tokens, tiled, rfl⟩ := tokenize_eq_ok_iff_tiles.mp read
  rw [String.toList_ofList] at tiled
  rw [endsWord_append_endOfInput] at word
  obtain ⟨t, member, isWord, reaches⟩ := word
  rw [← Nat.zero_add before.length] at reaches
  -- The word takes all that goes on it, of which `more` is a part.
  have taken : ∀ c ∈ more ++ after.takeWhile isWordChar, t.kind.goesOn c = true := by
    intro c inside
    rw [goesOn_of_isWord isWord]
    exact List.forall_mem_append.mpr ⟨members, all_of_mem_takeWhile after⟩ c inside
  have stop : ∀ c ∈ (after.dropWhile isWordChar).head?, t.kind.goesOn c = false := by
    intro c first
    rw [goesOn_of_isWord isWord]
    exact head?_dropWhile_eq_false after c first
  obtain ⟨_, _, -, -, stretch⟩ := tiled.extend member reaches taken stop
  have whole : s.toList =
      before ++ (more ++ after.takeWhile isWordChar) ++ after.dropWhile isWordChar := by
    rw [split, List.append_assoc, List.append_assoc, List.takeWhile_append_dropWhile]
  have bound := length_le_start_of_tiles whole stretch failed
  simp only [List.length_append] at bound
  omega

/-- A text fails exactly at the places where `FailsAt` says so, of which there is at most one. None
    of them lies in a closed string, or in the characters that go on a word. -/
theorem tokenize_eq_error_iff (s : String) :
    (∀ e, tokenize s = .error e ↔ ∃ position, FailsAt s position e) ∧
    (∀ position position' e e', FailsAt s position e → FailsAt s position' e' →
      position = position') ∧
    (∀ before body after ts e, s.toList = before ++ '\x27' :: (body ++ '\x27' :: after) →
      tokenize (String.ofList before) = .ok ts → '\x27' ∉ body → tokenize s = .error e →
      before.length + (body.length + 2) ≤ e.span.start) ∧
    (∀ before more after ts e, s.toList = before ++ (more ++ after) →
      tokenize (String.ofList before) = .ok ts → EndsWord before.length ts →
      (∀ c ∈ more, isWordChar c = true) → tokenize s = .error e →
      before.length + more.length ≤ e.span.start) := by
  refine ⟨fun e => ⟨exists_failsAt_of_error, fun ⟨_, fails⟩ => error_of_failsAt fails⟩, ?_, ?_, ?_⟩
  · intro position position' e e' fails fails'
    have same := (error_of_failsAt fails).symm.trans (error_of_failsAt fails')
    cases same
    exact (start_eq_of_failsAt fails).symm.trans (start_eq_of_failsAt fails')
  · intro before body after ts e split read quoteless failed
    exact length_le_start_of_closed read quoteless split failed
  · intro before more after ts e split read word members failed
    exact length_le_start_of_word read word members split failed

/-- An underscore in a word and a question mark in a string do no harm; the character behind them is
    where the text fails. -/
theorem tokenize_error_behind_string :
    tokenize "a_'?'#" = .error ⟨.unexpectedChar, ⟨5, 1⟩, none, none⟩ ∧
    (∃ position, FailsAt "a_'?'#" position ⟨.unexpectedChar, ⟨5, 1⟩, none, none⟩) ∧
    (∀ position e, FailsAt "a_'?'#" position e → position = 5) ∧
    ['a', '_'].length + (['?'].length + 2) ≤ 5 ∧ ['a'].length + ['_'].length ≤ 5 := by
  have failed : tokenize "a_'?'#" = .error ⟨.unexpectedChar, ⟨5, 1⟩, none, none⟩ := by
    have scanned : scan 0 "a_'?'#".toList = ⟨[⟨.identifier, "a_", ⟨0, 2⟩⟩,
        ⟨.stringLiteral, "?", ⟨2, 3⟩⟩], some (.unexpectedChar '#' 5)⟩ := by
      decide +kernel
    simp only [tokenize, scanned]
    rfl
  have letter : tokenize (String.ofList ['a']) =
      .ok [⟨.identifier, "a", ⟨0, 1⟩⟩, Token.endOfInput 1] := by
    have scanned : scan 0 (String.ofList ['a']).toList = ⟨[⟨.identifier, "a", ⟨0, 1⟩⟩], none⟩ := by
      decide +kernel
    simp only [tokenize, scanned]
    rfl
  have word : tokenize (String.ofList ['a', '_']) =
      .ok [⟨.identifier, "a_", ⟨0, 2⟩⟩, Token.endOfInput 2] := by
    have scanned : scan 0 (String.ofList ['a', '_']).toList =
        ⟨[⟨.identifier, "a_", ⟨0, 2⟩⟩], none⟩ := by
      decide +kernel
    simp only [tokenize, scanned]
    rfl
  obtain ⟨fails, unique, closed, inside⟩ := tokenize_eq_error_iff "a_'?'#"
  obtain ⟨position, here⟩ := (fails _).mp failed
  have five : position = 5 := (start_eq_of_failsAt here).symm
  refine ⟨failed, ⟨position, here⟩, fun other e there => ?_, ?_, ?_⟩
  · exact (unique _ _ _ _ there here).trans five
  · exact closed ['a', '_'] ['?'] ['#'] _ _ rfl word (by decide) failed
  · have member : ∀ c ∈ ['_'], isWordChar c = true :=
      List.forall_mem_singleton.mpr (by decide +kernel)
    exact inside ['a'] ['_'] "'?'#".toList _ _ rfl letter ⟨_, List.mem_cons_self, rfl, rfl⟩ member
      failed

end SelectQuery
