import SelectQuery.Proofs.Spelling

/-!
# Texts cut into tokens

`Tiles` relates a stretch of a text to its tokens, with blanks between them: it is what a scan has
behind it when it has read that stretch, whatever becomes of the rest. A scan always gets through
some stretch and then stops, at the end of the text or at a character that starts no token
(`exists_tiles`); and a stretch that is tiled is read as its tokens and no others (`scan_append`).
Stretches that follow each other make one stretch, and what follows a stretch matters to its last
token only.
-/

namespace SelectQuery

open Text

/-- The characters `cs`, the first at the position and with `after` following the last, are the
    tokens, with blanks before, between and behind them. -/
inductive Tiles : Nat → List Char → List Char → List Token → Prop
  | done {position : Nat} {after : List Char} : Tiles position [] after []
  | blank {position : Nat} {c : Char} {cs after : List Char} {tokens : List Token} :
      isBlank c = true → Tiles (position + 1) cs after tokens →
      Tiles position (c :: cs) after tokens
  | token {position : Nat} {kind : TokenKind} {text : String} {c : Char} {more cs after : List Char}
      {tokens : List Token} :
      Spells kind text (c :: more) (cs ++ after) →
      Tiles (position + (more.length + 1)) cs after tokens →
      Tiles position (c :: (more ++ cs)) after
        (⟨kind, text, ⟨position, more.length + 1⟩⟩ :: tokens)

/-- A scan that has come to the position, with these characters still to read, reads no more, for
    that reason. -/
inductive Stops : Nat → List Char → Option ScanFault → Prop
  | atEnd {position : Nat} : Stops position [] none
  | unterminated {position : Nat} {rest : List Char} : '\x27' ∉ rest →
      Stops position ('\x27' :: rest) (some (.unterminatedString position (rest.length + 1)))
  | unexpected {position : Nat} {c : Char} {rest : List Char} : StartsNoToken c →
      Stops position (c :: rest) (some (.unexpectedChar c position))

/-! ## One step of a scan -/

theorem scan_cons_of_isBlank {position : Nat} {c : Char} {rest : List Char}
    (blank : isBlank c = true) : scan position (c :: rest) = scan (position + 1) rest := by
  rw [scan, Lexeme.read_eq_of_isBlank blank]

theorem scan_cons_of_spells {position : Nat} {kind : TokenKind} {text : String} {c : Char}
    {more after : List Char} (spelled : Spells kind text (c :: more) after) :
    scan position (c :: (more ++ after)) =
      ⟨⟨kind, text, ⟨position, more.length + 1⟩⟩ ::
          (scan (position + (more.length + 1)) after).tokens,
        (scan (position + (more.length + 1)) after).fault⟩ := by
  rw [scan, Lexeme.read_eq_of_describes (.token rfl spelled)]
  simp only [List.drop_left]

theorem scan_eq_of_stops {position : Nat} {left : List Char} {fault : Option ScanFault}
    (stops : Stops position left fault) : scan position left = ⟨[], fault⟩ := by
  cases stops with
  | atEnd => rw [scan]
  | unterminated quoteless =>
    rw [scan, Lexeme.read_eq_of_describes (.unterminated rfl quoteless)]
  | unexpected bad => rw [scan, Lexeme.read_eq_of_describes (.unexpected bad)]

/-! ## The whole run of a scan -/

/-- What is tiled is read as its tokens, and the scan goes on behind it. -/
theorem scan_append {position : Nat} {cs after : List Char} {tokens : List Token}
    (tiled : Tiles position cs after tokens) :
    scan position (cs ++ after) =
      ⟨tokens ++ (scan (position + cs.length) after).tokens,
        (scan (position + cs.length) after).fault⟩ := by
  induction tiled with
  | done => simp only [List.nil_append, List.length_nil, Nat.add_zero]
  | blank blank _ ih =>
    rw [List.cons_append, scan_cons_of_isBlank blank, ih, List.length_cons, Nat.add_right_comm,
      Nat.add_assoc]
  | @token position kind text c more cs after tokens spelled _ ih =>
    rw [List.cons_append, List.append_assoc, scan_cons_of_spells spelled, ih]
    have place : position + (more.length + 1) + cs.length =
        position + (c :: (more ++ cs)).length := by
      simp only [List.length_cons, List.length_append]
      omega
    rw [place, List.cons_append]

/-- A scan gets through a stretch that is tiled by the tokens it finds, and then stops. -/
theorem exists_tiles (position : Nat) (cs : List Char) :
    ∃ covered left, cs = covered ++ left ∧ Tiles position covered left (scan position cs).tokens ∧
      Stops (position + covered.length) left (scan position cs).fault := by
  fun_induction scan position cs with
  | case1 position => exact ⟨[], [], rfl, .done, .atEnd⟩
  | case2 position c rest found ih =>
    obtain ⟨covered, left, rfl, tiled, stops⟩ := ih
    have blank : isBlank c = true := by
      cases Lexeme.read_eq_iff.mp found with
      | blank blank => exact blank
    refine ⟨c :: covered, left, rfl, .blank blank tiled, ?_⟩
    rwa [List.length_cons, ← Nat.add_assoc, Nat.add_right_comm]
  | case3 position c rest found =>
    cases Lexeme.read_eq_iff.mp found with
    | unexpected bad => exact ⟨[], c :: rest, rfl, .done, .unexpected bad⟩
  | case4 position c rest found =>
    cases Lexeme.read_eq_iff.mp found with
    | unterminated quote quoteless =>
      subst quote
      exact ⟨[], '\x27' :: rest, rfl, .done, .unterminated quoteless⟩
  | case5 position c rest kind text extra found later ih =>
    obtain ⟨covered, left, split, tiled, stops⟩ := ih
    cases Lexeme.read_eq_iff.mp found with
    | @token _ _ more after split' spelled =>
      subst split'
      rw [List.drop_left] at split
      subst split
      refine ⟨c :: (more ++ covered), left, ?_, .token spelled tiled, ?_⟩
      · rw [List.cons_append, List.append_assoc]
      · rwa [List.length_cons, List.length_append, Nat.add_right_comm more.length,
          ← Nat.add_assoc position]

theorem scan_eq_iff {position : Nat} {cs : List Char} {tokens : List Token}
    {fault : Option ScanFault} :
    scan position cs = ⟨tokens, fault⟩ ↔ ∃ covered left, cs = covered ++ left ∧
      Tiles position covered left tokens ∧ Stops (position + covered.length) left fault := by
  constructor
  · intro read
    have run := exists_tiles position cs
    rwa [read] at run
  · rintro ⟨covered, left, rfl, tiled, stops⟩
    rw [scan_append tiled, scan_eq_of_stops stops, List.append_nil]

/-- A text has no fault if all of it is tiled. -/
theorem scan_eq_none_iff {position : Nat} {cs : List Char} {tokens : List Token} :
    scan position cs = ⟨tokens, none⟩ ↔ Tiles position cs [] tokens := by
  rw [scan_eq_iff]
  constructor
  · rintro ⟨covered, left, rfl, tiled, stops⟩
    cases stops
    rwa [List.append_nil]
  · intro tiled
    exact ⟨cs, [], (List.append_nil cs).symm, tiled, .atEnd⟩

/-- A text whose scan meets no fault is cut into what the scan finds. -/
theorem tokenize_of_scan {s : String} {tokens : List Token}
    (scanned : scan 0 s.toList = ⟨tokens, none⟩) :
    tokenize s = .ok (tokens ++ [Token.endOfInput s.length]) := by
  simp only [tokenize, scanned]

theorem tokenize_eq_ok_iff_tiles {s : String} {ts : List Token} :
    tokenize s = .ok ts ↔
      ∃ tokens, Tiles 0 s.toList [] tokens ∧ ts = tokens ++ [Token.endOfInput s.length] := by
  constructor
  · unfold tokenize
    intro read
    cases found : scan 0 s.toList with
    | mk tokens fault =>
      rw [found] at read
      cases fault with
      | none =>
        cases read
        exact ⟨tokens, scan_eq_none_iff.mp found, rfl⟩
      | some fault => cases read
  · rintro ⟨tokens, tiled, rfl⟩
    exact tokenize_of_scan (scan_eq_none_iff.mpr tiled)

theorem tokenize_eq_error_iff_scan {s : String} {e : QueryError} :
    tokenize s = .error e ↔
      ∃ tokens fault, scan 0 s.toList = ⟨tokens, some fault⟩ ∧ fault.error = e := by
  unfold tokenize
  cases scan 0 s.toList with
  | mk tokens fault =>
    cases fault with
    | none => simp
    | some fault => simp [and_assoc]

theorem tokenize_eq_error_iff_tiles {s : String} {e : QueryError} :
    tokenize s = .error e ↔ ∃ covered left tokens fault, s.toList = covered ++ left ∧
      Tiles 0 covered left tokens ∧ Stops covered.length left (some fault) ∧ fault.error = e := by
  rw [tokenize_eq_error_iff_scan]
  constructor
  · intro failed
    obtain ⟨tokens, fault, scanned, rfl⟩ := failed
    obtain ⟨covered, left, split, tiled, stops⟩ := scan_eq_iff.mp scanned
    rw [Nat.zero_add] at stops
    exact ⟨covered, left, tokens, fault, split, tiled, stops, rfl⟩
  · rintro ⟨covered, left, tokens, fault, split, tiled, stops, rfl⟩
    rw [← Nat.zero_add covered.length] at stops
    exact ⟨tokens, fault, scan_eq_iff.mpr ⟨covered, left, split, tiled, stops⟩, rfl⟩

/-! ## What follows a token -/

/-- Whether a token of the kind that ends before the character would have taken it too. -/
def TokenKind.goesOn : TokenKind → Char → Bool
  | .number, c => c.isDigit
  | .selectKey, c | .fromKey, c | .whereKey, c | .identifier, c => isWordChar c
  | _, _ => false

/-- The kinds of words. -/
def TokenKind.isWord : TokenKind → Bool
  | .selectKey | .fromKey | .whereKey | .identifier => true
  | _ => false

/-- What the token `t` becomes when characters that go on it follow it: a token in the same place,
    at least as long, whose text begins with that of `t`. A word may turn out to be another kind
    of word. -/
structure Token.GrowsInto (t u : Token) : Prop where
  start : u.span.start = t.span.start
  length : t.span.length ≤ u.span.length
  text : t.text.toList <+: u.text.toList
  kind : u.kind = t.kind ∨ t.kind.isWord = true ∧ u.kind.isWord = true

theorem isWord_of_wordOfKind {word : String} {kind : TokenKind} (named : WordOfKind word kind) :
    kind.isWord = true := by
  cases named <;> rfl

theorem goesOn_of_isWord {kind : TokenKind} (word : kind.isWord = true) (c : Char) :
    kind.goesOn c = isWordChar c := by
  cases kind <;> cases word <;> rfl

theorem goesOn_eq_false {kind : TokenKind} {c : Char} (noDigit : c.isDigit = false)
    (noWord : kind.isWord = true → isWordChar c = false) : kind.goesOn c = false := by
  by_cases word : kind.isWord = true
  · rw [goesOn_of_isWord word]
    exact noWord word
  · cases kind with
    | number => exact noDigit
    | selectKey | fromKey | whereKey | identifier => exact absurd rfl word
    | _ => rfl

/-- A quote goes on no token. -/
theorem goesOn_quote (kind : TokenKind) : kind.goesOn '\x27' = false := by
  have noWord : isWordChar '\x27' = false := by decide +kernel
  exact goesOn_eq_false rfl fun _ => noWord

/-- A blank goes on no token. -/
theorem goesOn_of_isBlank (kind : TokenKind) {c : Char} (blank : isBlank c = true) :
    kind.goesOn c = false := by
  have noWord := isWordChar_eq_false_of_isBlank blank
  refine goesOn_eq_false ?_ fun _ => noWord
  rw [Bool.eq_false_iff]
  intro digit
  rw [isWordChar_of_isDigit digit] at noWord
  cases noWord

theorem Spells.ne_nil {kind : TokenKind} {text : String} {slice after : List Char}
    (spelled : Spells kind text slice after) : slice ≠ [] := by
  cases spelled with
  | number nonempty _ _ => exact nonempty
  | _ => exact List.cons_ne_nil _ _

theorem goesOn_of_mem_signs {c : Char} {kind : TokenKind} (member : (c, kind) ∈ signs)
    (d : Char) : kind.goesOn d = false := by
  simp only [signs, List.mem_cons, List.not_mem_nil, or_false, Prod.mk.injEq] at member
  rcases member with ⟨-, rfl⟩ | ⟨-, rfl⟩ | ⟨-, rfl⟩ | ⟨-, rfl⟩ | ⟨-, rfl⟩ | ⟨-, rfl⟩ <;> rfl

/-- What a token is spelled with does not go on in what follows. -/
theorem Spells.stop {kind : TokenKind} {text : String} {slice after : List Char}
    (spelled : Spells kind text slice after) : ∀ c ∈ after.head?, kind.goesOn c = false := by
  intro c first
  cases spelled with
  | sign member => exact goesOn_of_mem_signs member c
  | string _ => rfl
  | number _ _ stop => exact stop c first
  | word _ _ stop named =>
    rw [goesOn_of_isWord (isWord_of_wordOfKind named)]
    exact stop c first

/-- A token stays what it is before any text that does not go on it. -/
theorem Spells.before {kind : TokenKind} {text : String} {slice after after' : List Char}
    (spelled : Spells kind text slice after) (stop : ∀ c ∈ after'.head?, kind.goesOn c = false) :
    Spells kind text slice after' := by
  cases spelled with
  | sign member => exact .sign member
  | string quoteless => exact .string quoteless
  | number nonempty digits _ => exact .number nonempty digits stop
  | word letter members _ named =>
    refine .word letter members (fun c first => ?_) named
    rw [← goesOn_of_isWord (isWord_of_wordOfKind named)]
    exact stop c first

theorem number_or_isWord_of_goesOn {kind : TokenKind} {c : Char} (goesOn : kind.goesOn c = true) :
    kind = .number ∨ kind.isWord = true := by
  cases kind <;> first | exact Or.inl rfl | exact Or.inr rfl | cases goesOn

theorem eq_nil_of_goesOn {kind : TokenKind} {more : List Char}
    (members : ∀ c ∈ more, kind.goesOn c = true) (never : ∀ c, kind.goesOn c = false) :
    more = [] := by
  refine List.eq_nil_iff_forall_not_mem.mpr fun c taken => ?_
  have goesOn := members c taken
  rw [never c] at goesOn
  cases goesOn

/-- A token takes the characters that go on it, as many as stand behind it. Its text only becomes
    longer by that, and a word stays a word. -/
theorem Spells.extend {kind : TokenKind} {text : String} {slice after more after' : List Char}
    (spelled : Spells kind text slice after) (members : ∀ c ∈ more, kind.goesOn c = true)
    (stop : ∀ c ∈ after'.head?, kind.goesOn c = false) :
    ∃ kind' text', Spells kind' text' (slice ++ more) after' ∧ text.toList <+: text'.toList ∧
      (kind' = kind ∨ kind.isWord = true ∧ kind'.isWord = true) := by
  cases spelled with
  | @sign c kind after member =>
    obtain rfl := eq_nil_of_goesOn members (goesOn_of_mem_signs member)
    exact ⟨_, _, .sign member, List.prefix_refl _, Or.inl rfl⟩
  | string quoteless =>
    obtain rfl := eq_nil_of_goesOn members fun _ => rfl
    rw [List.append_nil]
    exact ⟨_, _, .string quoteless, List.prefix_refl _, Or.inl rfl⟩
  | number nonempty digits _ =>
    refine ⟨_, _, .number (List.append_ne_nil_of_left_ne_nil nonempty more) ?_ stop, ?_, Or.inl rfl⟩
    · exact List.forall_mem_append.mpr ⟨digits, members⟩
    · rw [String.toList_ofList, String.toList_ofList]
      exact List.prefix_append _ _
  | @word first inside _ kind letter members' _ named =>
    have isWord := isWord_of_wordOfKind named
    simp only [goesOn_of_isWord isWord] at members stop
    have named' := wordOfKind_wordKind (String.ofList (lowerCase (first :: (inside ++ more))))
    refine ⟨_, _, .word letter (List.forall_mem_append.mpr ⟨members', members⟩) stop named', ?_,
      Or.inr ⟨isWord, isWord_of_wordOfKind named'⟩⟩
    rw [String.toList_ofList, String.toList_ofList]
    exact (List.prefix_append (first :: inside) more).map lower

theorem Spells.kind_ne_endOfInput {kind : TokenKind} {text : String} {slice after : List Char}
    (spelled : Spells kind text slice after) : kind ≠ .endOfInput := by
  rintro rfl
  cases spelled with
  | sign member =>
    have kinds : .endOfInput ∈ signs.map Prod.snd := List.mem_map_of_mem member
    exact absurd kinds (by decide)
  | word _ _ _ named => cases isWord_of_wordOfKind named

/-- No token of a tiling stands for the end of the text. -/
theorem kind_ne_endOfInput_of_tiles {position : Nat} {cs after : List Char} {tokens : List Token}
    (tiled : Tiles position cs after tokens) : ∀ t ∈ tokens, t.kind ≠ .endOfInput := by
  induction tiled with
  | done =>
    intro t member
    cases member
  | blank _ _ ih => exact ih
  | token spelled _ ih => exact List.forall_mem_cons.mpr ⟨spelled.kind_ne_endOfInput, ih⟩

theorem Tiles.length_pos {position : Nat} {cs after : List Char} {tokens : List Token}
    (tiled : Tiles position cs after tokens) : ∀ t ∈ tokens, 0 < t.span.length := by
  induction tiled with
  | done => exact nofun
  | blank _ _ ih => exact ih
  | token _ _ ih => exact List.forall_mem_cons.mpr ⟨Nat.succ_pos _, ih⟩

namespace Tiles

variable {position : Nat} {a b cs after after' : List Char} {tokens ta tb : List Token}

theorem one {kind : TokenKind} {text : String} {slice : List Char}
    (spelled : Spells kind text slice after) (position : Nat) :
    Tiles position slice after [⟨kind, text, ⟨position, slice.length⟩⟩] := by
  cases slice with
  | nil => exact absurd rfl spelled.ne_nil
  | cons c more =>
    have tiled : Tiles position (c :: (more ++ [])) after
        [⟨kind, text, ⟨position, more.length + 1⟩⟩] := .token spelled .done
    rwa [List.append_nil] at tiled

/-- A stretch of blanks has no tokens. -/
theorem blanks (blank : ∀ c ∈ cs, isBlank c = true) : Tiles position cs after [] := by
  induction cs generalizing position with
  | nil => exact .done
  | cons c cs ih =>
    obtain ⟨first, later⟩ := List.forall_mem_cons.mp blank
    exact .blank first (ih later)

/-- Stretches that follow each other make one stretch. -/
theorem append (first : Tiles position a (b ++ after) ta)
    (second : Tiles (position + a.length) b after tb) :
    Tiles position (a ++ b) after (ta ++ tb) := by
  generalize whole : b ++ after = follow at first
  induction first with
  | done => exact second
  | blank blank _ ih =>
    refine .blank blank (ih ?_ whole)
    rwa [Nat.add_assoc, Nat.add_comm 1]
  | @token position kind text c more cs after' tokens spelled _ ih =>
    have tail : Tiles (position + (more.length + 1)) (cs ++ b) after (tokens ++ tb) := by
      refine ih ?_ whole
      rw [List.length_cons, List.length_append] at second
      rwa [Nat.add_assoc, Nat.add_right_comm]
    rw [List.cons_append, List.append_assoc]
    refine .token ?_ tail
    rwa [List.append_assoc, whole]

/-- A stretch may be followed by any text that does not go on a token at its very end. -/
theorem before (tiled : Tiles position cs after tokens)
    (stop : ∀ t ∈ tokens, t.span.start + t.span.length = position + cs.length →
      ∀ c ∈ after'.head?, t.kind.goesOn c = false) : Tiles position cs after' tokens := by
  induction tiled with
  | done => exact .done
  | blank blank _ ih =>
    refine .blank blank (ih fun t member reaches => stop t member ?_)
    rw [reaches, List.length_cons]
    omega
  | @token position kind text c more cs after tokens spelled _ ih =>
    refine .token (spelled.before ?_) (ih fun t member reaches => ?_)
    · cases cs with
      | nil =>
        intro d first
        refine stop _ (List.mem_cons_self) ?_ d first
        simp only [List.append_nil, List.length_cons]
      | cons d cs => exact spelled.stop
    · refine stop t (List.mem_cons_of_mem _ member) ?_
      rw [reaches, List.length_cons, List.length_append]
      omega

/-- A stretch stays tiled at the end of a text. -/
theorem atEnd (tiled : Tiles position cs after tokens) : Tiles position cs [] tokens :=
  tiled.before fun _ _ _ _ none => by cases none

/-- What follows a stretch does not go on a token at its very end. -/
theorem stop (tiled : Tiles position cs after tokens) :
    ∀ t ∈ tokens, t.span.start + t.span.length = position + cs.length →
      ∀ c ∈ after.head?, t.kind.goesOn c = false := by
  induction tiled with
  | done =>
    intro t member
    cases member
  | blank _ _ ih =>
    intro t member reaches
    refine ih t member ?_
    rw [reaches, List.length_cons]
    omega
  | @token position kind text c more cs after tokens spelled _ ih =>
    intro t member reaches
    simp only [List.length_cons, List.length_append] at reaches
    rcases List.mem_cons.mp member with rfl | member
    · have empty : cs = [] := List.eq_nil_of_length_eq_zero (by dsimp only at reaches; omega)
      subst empty
      exact spelled.stop
    · exact ih t member (by omega)

/-- What goes on the last token of a stretch belongs to the stretch, and nothing else changes. -/
theorem extend {more : List Char} (tiled : Tiles position cs after tokens) {t : Token}
    (member : t ∈ tokens) (reaches : t.span.start + t.span.length = position + cs.length)
    (members : ∀ c ∈ more, t.kind.goesOn c = true)
    (stop : ∀ c ∈ after'.head?, t.kind.goesOn c = false) :
    ∃ init u, tokens = init ++ [t] ∧ t.GrowsInto u ∧
      Tiles position (cs ++ more) after' (init ++ [u]) := by
  induction tiled with
  | done => cases member
  | blank blank _ ih =>
    rw [List.length_cons] at reaches
    obtain ⟨init, u, split, grows, tiled⟩ := ih member (by omega)
    exact ⟨init, u, split, grows, .blank blank tiled⟩
  | @token position kind text c inside cs after tokens spelled tiled ih =>
    simp only [List.length_cons, List.length_append] at reaches
    rw [List.cons_append, List.append_assoc]
    rcases List.mem_cons.mp member with rfl | member
    · have empty : cs = [] := List.eq_nil_of_length_eq_zero (by dsimp only at reaches; omega)
      subst empty
      cases tiled
      obtain ⟨kind', text', spelled', longer, kept⟩ := spelled.extend members stop
      have grown : Tiles position (c :: (inside ++ more ++ [])) after'
          [⟨kind', text', ⟨position, (inside ++ more).length + 1⟩⟩] := .token spelled' .done
      rw [List.append_nil] at grown
      have length : inside.length + 1 ≤ (inside ++ more).length + 1 := by
        simp only [List.length_append]
        omega
      exact ⟨[], ⟨kind', text', ⟨position, (inside ++ more).length + 1⟩⟩, rfl,
        ⟨rfl, length, longer, kept⟩, grown⟩
    · cases cs with
      | nil =>
        cases tiled
        cases member
      | cons d cs =>
        obtain ⟨init, u, rfl, grows, tiled'⟩ := ih member (by omega)
        exact ⟨_ :: init, u, rfl, grows, .token (spelled.before spelled.stop) tiled'⟩

/-- Of what follows a stretch only the first character matters. -/
theorem beforeHead {c : Char} {rest rest' : List Char}
    (tiled : Tiles position cs (c :: rest) tokens) : Tiles position cs (c :: rest') tokens :=
  tiled.before tiled.stop

/-- A stretch may be followed by a quote. -/
theorem beforeQuote (tiled : Tiles position cs after tokens) :
    Tiles position cs ('\x27' :: after') tokens := by
  refine tiled.before fun t _ _ c first => ?_
  cases first
  exact goesOn_quote t.kind

/-- A string that is closed may follow any stretch. -/
theorem string {body : List Char} (tiled : Tiles position cs after tokens)
    (quoteless : '\x27' ∉ body) :
    Tiles position (cs ++ '\x27' :: (body ++ ['\x27'])) after' (tokens ++
      [⟨.stringLiteral, String.ofList body,
        ⟨position + cs.length, ('\x27' :: (body ++ ['\x27'])).length⟩⟩]) :=
  tiled.beforeQuote.append (.one (.string quoteless) _)

end Tiles

end SelectQuery
