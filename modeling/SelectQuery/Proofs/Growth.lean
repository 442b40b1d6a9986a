import SelectQuery.Proofs.FirstFault

/-!
# Texts that go on

What becomes of the tokens of a text when more text follows it. The two texts are scanned alike as
far as the first goes, and the tokens that were found there stay, except that a word or a number at
the very end of the text takes what goes on it (`Tiles.grow`). A character that starts no token is
an error whatever follows, while a string that is open to the end of the text is closed by the first
quote behind it. The main result says so of texts cut into tokens (`tokenize_append`).
-/

namespace SelectQuery

open Text

/-- What becomes of the tokens of a text of `n` characters when more text follows: all stay, or the
    last, a word or a number at the very end of the text, grows. -/
inductive Grown (n : Nat) : List Token → List Token → Prop
  | same {tokens : List Token} : Grown n tokens tokens
  | last {init : List Token} {t u : Token} : t.kind = .number ∨ t.kind.isWord = true →
      t.span.start + t.span.length = n → t.GrowsInto u → Grown n (init ++ [t]) (init ++ [u])

/-- The tokens of a text of `n` characters, the one for its end apart, stand in the list at the same
    indices, but for a last word or number at the very end of the text, which may have grown. -/
def BeginsWith (ts : List Token) (n : Nat) (tokens : List Token) : Prop :=
  ∀ i t, tokens[i]? = some t → t.kind ≠ .endOfInput → ∃ u, ts[i]? = some u ∧
    (u = t ∨ i + 2 = tokens.length ∧ (t.kind = .number ∨ t.kind.isWord = true) ∧
      t.span.start + t.span.length = n ∧ t.GrowsInto u)

/-! ## Growing -/

/-- The tokens of a text stay, or the last of them grows, and they cover all of the text and what
    goes on its last token. -/
theorem Tiles.grow {cs : List Char} {tokens : List Token} (tiled : Tiles 0 cs [] tokens)
    (b : List Char) : ∃ more rest tokens', b = more ++ rest ∧
      Tiles 0 (cs ++ more) rest tokens' ∧ Grown cs.length tokens tokens' := by
  by_cases growing : ∃ t ∈ tokens, t.span.start + t.span.length = 0 + cs.length ∧
      ∃ c ∈ b.head?, t.kind.goesOn c = true
  · obtain ⟨t, member, reaches, c, -, goesOn⟩ := growing
    obtain ⟨init, u, rfl, grows, stretch⟩ := tiled.extend member reaches
      (all_of_mem_takeWhile b) (head?_dropWhile_eq_false b)
    rw [Nat.zero_add] at reaches
    exact ⟨_, _, _, List.takeWhile_append_dropWhile.symm, stretch,
      .last (number_or_isWord_of_goesOn goesOn) reaches grows⟩
  · refine ⟨[], b, tokens, rfl, ?_, .same⟩
    rw [List.append_nil]
    refine tiled.before fun t member reaches c first => ?_
    rw [Bool.eq_false_iff]
    exact fun goesOn => growing ⟨t, member, reaches, c, first, goesOn⟩

private theorem getElem?_concat {α : Type} {l : List α} {a b : α} {i : Nat}
    (found : (l ++ [a])[i]? = some b) : l[i]? = some b ∨ i = l.length ∧ b = a := by
  rcases Nat.lt_or_ge i l.length with before | behind
  · rw [List.getElem?_append_left before] at found
    exact Or.inl found
  · rw [List.getElem?_append_right behind, List.getElem?_singleton, Option.ite_none_right_eq_some,
      Option.some.injEq] at found
    exact Or.inr ⟨by omega, found.2.symm⟩

theorem Grown.beginsWith {n : Nat} {tokens tokens' : List Token} (grown : Grown n tokens tokens')
    (later : List Token) : BeginsWith (tokens' ++ later) n (tokens ++ [Token.endOfInput n]) := by
  intro i t found noEnd
  have stays {first : List Token} (here : first[i]? = some t) (behind : List Token) :
      (first ++ behind)[i]? = some t := by
    rw [List.getElem?_append_left (List.getElem?_eq_some_iff.mp here).1, here]
  rcases getElem?_concat found with inside | ⟨-, rfl⟩
  · cases grown with
    | same => exact ⟨t, stays inside later, Or.inl rfl⟩
    | @last init t' u kind reaches grows =>
      rcases getElem?_concat inside with before | ⟨rfl, rfl⟩
      · refine ⟨t, ?_, Or.inl rfl⟩
        rw [List.append_assoc]
        exact stays before _
      · exact ⟨u, by simp, Or.inr ⟨by simp, kind, reaches, grows⟩⟩
  · exact absurd rfl noEnd

/-- The tokens of a stretch are the first tokens of a text that begins with it. -/
theorem prefix_of_tiles {s : String} {covered left : List Char} {tokens ts : List Token}
    (split : s.toList = covered ++ left) (tiled : Tiles 0 covered left tokens)
    (read : tokenize s = .ok ts) : tokens <+: ts := by
  obtain ⟨all, tiledAll, rfl⟩ := tokenize_eq_ok_iff_tiles.mp read
  have scanned := scan_append tiled
  rw [← split, scan_eq_none_iff.mpr tiledAll, Scan.mk.injEq] at scanned
  rw [scanned.1, List.append_assoc]
  exact List.prefix_append _ _

/-- A text that consists of tokens has no error that a longer text has, and keeps its tokens in a
    longer text. -/
theorem tokenize_append_of_ok {a b : String} {ta : List Token} (read : tokenize a = .ok ta) :
    (∀ e, tokenize (a ++ b) = .error e → a.length ≤ e.span.start) ∧
      ∀ tb, tokenize (a ++ b) = .ok tb → BeginsWith tb a.length ta := by
  obtain ⟨tokens, tiled, rfl⟩ := tokenize_eq_ok_iff_tiles.mp read
  obtain ⟨more, rest, tokens', splitB, stretch, grown⟩ := tiled.grow b.toList
  rw [String.length_toList] at grown
  have whole : (a ++ b).toList = a.toList ++ more ++ rest := by
    rw [String.toList_append, splitB, List.append_assoc]
  constructor
  · intro e failed
    have bound := length_le_start_of_tiles whole stretch failed
    rw [List.length_append, String.length_toList] at bound
    omega
  · intro tb readB
    obtain ⟨later, rfl⟩ := prefix_of_tiles whole stretch readB
    exact grown.beginsWith later

/-! ## Errors -/

theorem tokenize_append_of_unexpected {a b : String} {e : QueryError}
    (failed : tokenize a = .error e) (code : e.code = .unexpectedChar) :
    tokenize (a ++ b) = .error e := by
  obtain ⟨covered, left, tokens, fault, split, tiled, stops, rfl⟩ :=
    tokenize_eq_error_iff_tiles.mp failed
  cases stops with
  | unterminated _ => cases code
  | @unexpected c rest bad =>
    have whole : (a ++ b).toList = covered ++ c :: (rest ++ b.toList) := by
      rw [String.toList_append, split, List.append_assoc, List.cons_append]
    exact tokenize_eq_error_iff_tiles.mpr
      ⟨covered, _, tokens, _, whole, tiled.beforeHead, .unexpected bad, rfl⟩

/-- Where a text has an open string, the string begins behind a stretch of tokens. -/
theorem exists_open_of_error {a : String} {e : QueryError} (failed : tokenize a = .error e)
    (code : e.code = .unterminatedString) : ∃ covered rest tokens,
      a.toList = covered ++ '\x27' :: rest ∧ Tiles 0 covered ('\x27' :: rest) tokens ∧
        '\x27' ∉ rest ∧ e.span.start = covered.length := by
  obtain ⟨covered, left, tokens, fault, split, tiled, stops, rfl⟩ :=
    tokenize_eq_error_iff_tiles.mp failed
  cases stops with
  | unexpected _ => cases code
  | unterminated quoteless => exact ⟨covered, _, tokens, split, tiled, quoteless, rfl⟩

/-- A string that is open to the end of a text is open to the end of a longer one if nothing
    closes it. -/
theorem tokenize_append_of_open {a b : String} {e : QueryError} (failed : tokenize a = .error e)
    (code : e.code = .unterminatedString) (quoteless : '\x27' ∉ b.toList) :
    tokenize (a ++ b) = .error
      ⟨.unterminatedString, ⟨e.span.start, a.length + b.length - e.span.start⟩, none, none⟩ := by
  obtain ⟨covered, rest, tokens, split, tiled, quotelessRest, start⟩ :=
    exists_open_of_error failed code
  have noQuote : '\x27' ∉ rest ++ b.toList := by
    rw [List.mem_append, not_or]
    exact ⟨quotelessRest, quoteless⟩
  have whole : (a ++ b).toList = covered ++ '\x27' :: (rest ++ b.toList) := by
    rw [String.toList_append, split, List.append_assoc, List.cons_append]
  have length : a.length + b.length - covered.length = (rest ++ b.toList).length + 1 := by
    rw [← String.length_toList, split, List.length_append, List.length_cons, List.length_append,
      String.length_toList]
    omega
  rw [start, length]
  exact tokenize_eq_error_iff_tiles.mpr
    ⟨covered, _, tokens, _, whole, tiled.beforeHead, .unterminated noQuote, rfl⟩

/-- A string that is open to the end of a text is closed by the first quote behind it. -/
theorem tokenize_append_of_quote {a b : String} {e : QueryError} (failed : tokenize a = .error e)
    (code : e.code = .unterminatedString) (quote : '\x27' ∈ b.toList) :
    (∃ ts, tokenize (a ++ b) = .ok ts ∧
        ∃ t ∈ ts, t.kind = .stringLiteral ∧ t.span.start = e.span.start) ∨
      ∃ e', tokenize (a ++ b) = .error e' ∧ e.span.start < e'.span.start := by
  obtain ⟨covered, rest, tokens, split, tiled, quotelessRest, start⟩ :=
    exists_open_of_error failed code
  obtain ⟨body, after, splitB, quoteless⟩ := List.eq_append_cons_of_mem quote
  have noQuote : '\x27' ∉ rest ++ body := by
    rw [List.mem_append, not_or]
    exact ⟨quotelessRest, quoteless⟩
  have whole : (a ++ b).toList = covered ++ '\x27' :: (rest ++ body ++ ['\x27']) ++ after := by
    simp [split, splitB]
  rw [start]
  cases read : tokenize (a ++ b) with
  | ok ts =>
    obtain ⟨later, rfl⟩ := prefix_of_tiles whole (tiled.string noQuote) read
    left
    exact ⟨_, rfl, _, List.mem_append_left later (List.mem_append_right tokens List.mem_cons_self),
      rfl, Nat.zero_add covered.length⟩
  | error e' =>
    have bound := length_le_start_of_tiles whole (tiled.string noQuote) read
    rw [List.length_append, List.length_cons] at bound
    exact Or.inr ⟨e', rfl, by omega⟩

/-! ## Main result -/

/-- A character that starts no token is the error of every text that goes on. An open string stays
    open as long as no quote follows, and else it is a token, or the error stands behind its
    beginning. A text without an error keeps its tokens, but for a last word or number that may
    grow, and no error stands in it. -/
theorem tokenize_append (a b : String) :
    (∀ e, tokenize a = .error e → e.code = .unexpectedChar → tokenize (a ++ b) = .error e) ∧
    (∀ e, tokenize a = .error e → e.code = .unterminatedString →
      ('\x27' ∉ b.toList → tokenize (a ++ b) = .error
        ⟨.unterminatedString, ⟨e.span.start, a.length + b.length - e.span.start⟩, none, none⟩) ∧
      ('\x27' ∈ b.toList →
        (∃ ts, tokenize (a ++ b) = .ok ts ∧
          ∃ t ∈ ts, t.kind = .stringLiteral ∧ t.span.start = e.span.start) ∨
        ∃ e', tokenize (a ++ b) = .error e' ∧ e.span.start < e'.span.start)) ∧
    (∀ ta, tokenize a = .ok ta →
      (∀ e, tokenize (a ++ b) = .error e → a.length ≤ e.span.start) ∧
      ∀ tb, tokenize (a ++ b) = .ok tb → BeginsWith tb a.length ta) := by
  refine ⟨fun e failed code => ?_, fun e failed code => ⟨?_, ?_⟩, fun ta read => ?_⟩
  · exact tokenize_append_of_unexpected failed code
  · exact tokenize_append_of_open failed code
  · exact tokenize_append_of_quote failed code
  · exact tokenize_append_of_ok read

/-- A text that goes on behind a bad character, in an open string, behind its end, and in a word
    that becomes a key. -/
theorem tokenize_append_key :
    (tokenize "a#" = .error ⟨.unexpectedChar, ⟨1, 1⟩, none, none⟩ ∧
      tokenize ("a#" ++ "'") = .error ⟨.unexpectedChar, ⟨1, 1⟩, none, none⟩) ∧
    (tokenize "x'y" = .error ⟨.unterminatedString, ⟨1, 2⟩, none, none⟩ ∧
      tokenize ("x'y" ++ " #") = .error ⟨.unterminatedString, ⟨1, 4⟩, none, none⟩ ∧
      ((∃ ts, tokenize ("x'y" ++ "' #") = .ok ts ∧
          ∃ t ∈ ts, t.kind = .stringLiteral ∧ t.span.start = 1) ∨
        ∃ e, tokenize ("x'y" ++ "' #") = .error e ∧ 1 < e.span.start)) ∧
    (tokenize "1 fro" = .ok [⟨.number, "1", ⟨0, 1⟩⟩, ⟨.identifier, "fro", ⟨2, 3⟩⟩,
        Token.endOfInput 5] ∧
      tokenize ("1 fro" ++ "M") = .ok [⟨.number, "1", ⟨0, 1⟩⟩, ⟨.fromKey, "from", ⟨2, 4⟩⟩,
        Token.endOfInput 6] ∧
      BeginsWith [⟨.number, "1", ⟨0, 1⟩⟩, ⟨.fromKey, "from", ⟨2, 4⟩⟩, Token.endOfInput 6] 5
        [⟨.number, "1", ⟨0, 1⟩⟩, ⟨.identifier, "fro", ⟨2, 3⟩⟩, Token.endOfInput 5]) ∧
    tokenize ("1 fro" ++ "M#") = .error ⟨.unexpectedChar, ⟨6, 1⟩, none, none⟩ ∧ 5 ≤ 6 := by
  have scannedBad : scan 0 "a#".toList =
      ⟨[⟨.identifier, "a", ⟨0, 1⟩⟩], some (.unexpectedChar '#' 1)⟩ := by
    decide +kernel
  have bad : tokenize "a#" = .error ⟨.unexpectedChar, ⟨1, 1⟩, none, none⟩ :=
    tokenize_eq_error_iff_scan.mpr ⟨_, _, scannedBad, rfl⟩
  have scannedOpen : scan 0 "x'y".toList =
      ⟨[⟨.identifier, "x", ⟨0, 1⟩⟩], some (.unterminatedString 1 2)⟩ := by
    decide +kernel
  have opened : tokenize "x'y" = .error ⟨.unterminatedString, ⟨1, 2⟩, none, none⟩ :=
    tokenize_eq_error_iff_scan.mpr ⟨_, _, scannedOpen, rfl⟩
  have scannedWord : scan 0 "1 fro".toList =
      ⟨[⟨.number, "1", ⟨0, 1⟩⟩, ⟨.identifier, "fro", ⟨2, 3⟩⟩], none⟩ := by
    decide +kernel
  have word : tokenize "1 fro" = .ok [⟨.number, "1", ⟨0, 1⟩⟩, ⟨.identifier, "fro", ⟨2, 3⟩⟩,
      Token.endOfInput 5] :=
    tokenize_of_scan scannedWord
  have scannedKey : scan 0 ("1 fro" ++ "M").toList =
      ⟨[⟨.number, "1", ⟨0, 1⟩⟩, ⟨.fromKey, "from", ⟨2, 4⟩⟩], none⟩ := by
    decide +kernel
  have key : tokenize ("1 fro" ++ "M") = .ok [⟨.number, "1", ⟨0, 1⟩⟩, ⟨.fromKey, "from", ⟨2, 4⟩⟩,
      Token.endOfInput 6] :=
    tokenize_of_scan scannedKey
  have scannedFault : scan 0 ("1 fro" ++ "M#").toList =
      ⟨[⟨.number, "1", ⟨0, 1⟩⟩, ⟨.fromKey, "from", ⟨2, 4⟩⟩], some (.unexpectedChar '#' 6)⟩ := by
    decide +kernel
  have fault : tokenize ("1 fro" ++ "M#") = .error ⟨.unexpectedChar, ⟨6, 1⟩, none, none⟩ :=
    tokenize_eq_error_iff_scan.mpr ⟨_, _, scannedFault, rfl⟩
  have behindBad := (tokenize_append "a#" "'").1 _ bad rfl
  have stillOpen := ((tokenize_append "x'y" " #").2.1 _ opened rfl).1 (by decide)
  have closed := ((tokenize_append "x'y" "' #").2.1 _ opened rfl).2 (by decide)
  have kept := ((tokenize_append "1 fro" "M").2.2 _ word).2 _ key
  have behind := ((tokenize_append "1 fro" "M#").2.2 _ word).1 _ fault
  exact ⟨⟨bad, behindBad⟩, ⟨opened, stillOpen, closed⟩, ⟨word, key, kept⟩, fault, behind⟩

end SelectQuery
