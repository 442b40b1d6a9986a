import SelectQuery.Proofs.Canonical

/-!
# Texts that are spelled in another way

Outside of strings it does not matter whether a letter is a capital, and which blank stands between
words: a text that differs from another in nothing else has the same tokens in the same places, or
the same error (`tokenize_eq_of_respelled`). Whether a character is outside of strings is told by the
number of quotes before it, which is even there. The two texts are scanned in step: the head of the
one is the same lexeme as the head of the other, and behind it the texts are alike again
(`Respells.exists_read_eq`).
-/

namespace SelectQuery

open Text

/-- The characters do the same outside of strings: both are blank, or they are letters with the same
    small form. -/
def Interchangeable (c d : Char) : Prop :=
  isBlank c = true ∧ isBlank d = true ∨ isLetter c = true ∧ isLetter d = true ∧ lower c = lower d

instance (c d : Char) : Decidable (Interchangeable c d) :=
  inferInstanceAs (Decidable (_ ∨ _))

/-- The texts are equally long and have the same characters, but for interchangeable ones behind an
    even number of quotes. -/
structure Respelled (s s' : String) : Prop where
  length : s.length = s'.length
  chars : ∀ i c d, s.toList[i]? = some c → s'.toList[i]? = some d →
    c = d ∨ (s.toList.take i).count '\x27' % 2 = 0 ∧ Interchangeable c d

/-- The characters have the same ones, but for interchangeable ones outside of strings. The first
    character is in a string or not. -/
inductive Respells : Bool → List Char → List Char → Prop
  | done {inString : Bool} : Respells inString [] []
  | same {inString : Bool} {c : Char} {cs cs' : List Char} : c ≠ '\x27' →
      Respells inString cs cs' → Respells inString (c :: cs) (c :: cs')
  | quote {inString : Bool} {cs cs' : List Char} :
      Respells (!inString) cs cs' → Respells inString ('\x27' :: cs) ('\x27' :: cs')
  | other {c d : Char} {cs cs' : List Char} : Interchangeable c d →
      Respells false cs cs' → Respells false (c :: cs) (d :: cs')

/-! ## Interchangeable characters -/

namespace Interchangeable

variable {c d : Char}

theorem ne_quote (other : Interchangeable c d) : c ≠ '\x27' := by
  rcases other with ⟨blank, -⟩ | ⟨letter, -, -⟩
  · rintro rfl
    exact absurd blank (by decide)
  · exact ne_quote_of_isLetter letter

/-- Neither character is a digit. -/
theorem isDigit_eq_false (other : Interchangeable c d) : c.isDigit = false ∧ d.isDigit = false := by
  rcases other with ⟨blank, blank'⟩ | ⟨letter, letter', -⟩
  · have noDigit {c : Char} (blank : isBlank c = true) : c.isDigit = false := by
      rw [Bool.eq_false_iff]
      intro digit
      have noBlank := isBlank_eq_false_of_isWordChar (isWordChar_of_isDigit digit)
      rw [blank] at noBlank
      cases noBlank
    exact ⟨noDigit blank, noDigit blank'⟩
  · exact ⟨isDigit_eq_false_of_isLetter letter, isDigit_eq_false_of_isLetter letter'⟩

/-- Both characters go on a word, with the same small form, or neither does. -/
theorem isWordChar_eq (other : Interchangeable c d) :
    isWordChar c = isWordChar d ∧ (isWordChar c = true → lower c = lower d) := by
  rcases other with ⟨blank, blank'⟩ | ⟨letter, letter', small⟩
  · simp [isWordChar_eq_false_of_isBlank blank, isWordChar_eq_false_of_isBlank blank']
  · simp [isWordChar_of_isLetter letter, isWordChar_of_isLetter letter', small]

end Interchangeable

/-! ## From indices to the list -/

theorem respells_of_chars {inString : Bool} {cs cs' : List Char} (length : cs.length = cs'.length)
    (chars : ∀ i c d, cs[i]? = some c → cs'[i]? = some d → c = d ∨
      (inString.toNat + (cs.take i).count '\x27') % 2 = 0 ∧ Interchangeable c d) :
    Respells inString cs cs' := by
  induction cs generalizing cs' inString with
  | nil =>
    obtain rfl := List.eq_nil_of_length_eq_zero length.symm
    exact .done
  | cons c cs ih =>
    cases cs' with
    | nil => cases length
    | cons d cs' =>
      have first := chars 0 c d rfl rfl
      by_cases quote : c = '\x27'
      · subst quote
        have same : d = '\x27' := by
          rcases first with same | ⟨-, other⟩
          · exact same.symm
          · exact absurd rfl other.ne_quote
        subst same
        refine .quote (ih (Nat.succ.inj length) ?_)
        intro i a b here there
        rcases chars (i + 1) a b here there with same | ⟨even, other⟩
        · exact .inl same
        · refine .inr ⟨?_, other⟩
          cases inString <;> simp at even ⊢ <;> omega
      · have later : Respells inString cs cs' := by
          apply ih (Nat.succ.inj length)
          intro i a b here there
          simpa [quote] using chars (i + 1) a b here there
        rcases first with rfl | ⟨even, other⟩
        · exact .same quote later
        · cases inString with
          | false => exact .other other later
          | true => simp at even

/-! ## Scanning in step -/

namespace Respells

variable {inString : Bool} {c d : Char} {cs cs' rest rest' : List Char}

/-- A run of characters of a class without quotes is equally long in both texts, with characters
    that come to the same, if interchangeable characters do. -/
theorem takeWhile_eq {α : Type} {p : Char → Bool} {f : Char → α} (noQuote : p '\x27' = false)
    (kept : ∀ c d, Interchangeable c d → p c = p d ∧ (p c = true → f c = f d))
    (respells : Respells inString cs cs') :
    (cs.takeWhile p).map f = (cs'.takeWhile p).map f ∧
      Respells inString (cs.drop (cs.takeWhile p).length)
        (cs'.drop (cs.takeWhile p).length) := by
  induction respells with
  | done => exact ⟨rfl, .done⟩
  | @same _ c _ _ notQuote later ih =>
    by_cases inClass : p c = true
    · simpa [inClass] using ih
    · simpa [inClass] using .same notQuote later
  | quote later _ => simpa [noQuote] using .quote later
  | @other c d _ _ interchangeable later ih =>
    obtain ⟨both, value⟩ := kept c d interchangeable
    by_cases inClass : p c = true
    · simpa [inClass, ← both, value inClass] using ih
    · simpa [inClass, ← both] using .other interchangeable later

/-- In a string the texts are the same up to the quote that closes it. -/
theorem string (respells : Respells true rest rest') :
    ('\x27' ∉ rest ∧ rest' = rest) ∨ ∃ body after after', rest = body ++ '\x27' :: after ∧
      rest' = body ++ '\x27' :: after' ∧ '\x27' ∉ body ∧ Respells false after after' := by
  generalize inside : true = inString at respells
  induction respells with
  | done => simp
  | @same _ c cs cs' notQuote _ ih =>
    rcases ih inside with ⟨quoteless, rfl⟩ | ⟨body, after, after', rfl, rfl, quoteless, later⟩
    · left
      simp [Ne.symm notQuote, quoteless]
    · right
      refine ⟨c :: body, after, after', rfl, rfl, ?_, later⟩
      simp [Ne.symm notQuote, quoteless]
  | quote later _ =>
    subst inside
    exact .inr ⟨[], _, _, rfl, rfl, List.not_mem_nil, later⟩
  | other _ _ _ => cases inside

/-- The texts are alike behind the lexeme at their heads. -/
def Behind (c d : Char) (rest rest' : List Char) : Lexeme → Prop
  | .blank => Respells false rest rest'
  | .token _ _ extra => Respells false (rest.drop extra) (rest'.drop extra)
  | .unterminated => rest.length = rest'.length
  | .unexpected => c = d

theorem readNumber_eq (later : Respells false rest rest') (c : Char) :
    Lexeme.readNumber c rest = Lexeme.readNumber c rest' ∧
      Behind c c rest rest' (Lexeme.readNumber c rest) := by
  have kept (c d : Char) (other : Interchangeable c d) :
      c.isDigit = d.isDigit ∧ (c.isDigit = true → id c = id d) := by
    simp [other.isDigit_eq_false]
  obtain ⟨same, behind⟩ := takeWhile_eq rfl kept later
  simp only [List.map_id] at same
  refine ⟨?_, behind⟩
  simp only [Lexeme.readNumber, same]

theorem readWord_eq (later : Respells false rest rest') (small : lower c = lower d) :
    Lexeme.readWord c rest = Lexeme.readWord d rest' ∧
      Behind c d rest rest' (Lexeme.readWord c rest) := by
  have noQuote : isWordChar '\x27' = false := by decide +kernel
  obtain ⟨same, behind⟩ := takeWhile_eq noQuote (fun _ _ => Interchangeable.isWordChar_eq) later
  have length := congrArg List.length same
  simp only [List.length_map] at length
  refine ⟨?_, behind⟩
  simp only [Lexeme.readWord, lowerCase, List.map_cons, small, same, length]

theorem readString_eq (later : Respells true rest rest') :
    Lexeme.readString rest = Lexeme.readString rest' ∧
      Behind '\x27' '\x27' rest rest' (Lexeme.readString rest) := by
  rcases later.string with ⟨quoteless, rfl⟩ | ⟨body, after, after', rfl, rfl, quoteless, behind⟩
  · rw [Lexeme.readString_eq_unterminated quoteless]
    exact ⟨rfl, rfl⟩
  · rw [Lexeme.readString_append quoteless, Lexeme.readString_append quoteless]
    refine ⟨rfl, ?_⟩
    simpa [Behind] using behind

/-- A character that stands in both texts is the head of the same lexeme in both. -/
theorem read_eq_of_same (notQuote : c ≠ '\x27') (later : Respells false rest rest') :
    Lexeme.read c rest = Lexeme.read c rest' ∧ Behind c c rest rest' (Lexeme.read c rest) := by
  by_cases blank : isBlank c = true
  · rw [Lexeme.read_eq_of_isBlank blank, Lexeme.read_eq_of_isBlank blank]
    exact ⟨rfl, later⟩
  by_cases digit : c.isDigit = true
  · rw [Lexeme.read_eq_of_isDigit digit, Lexeme.read_eq_of_isDigit digit]
    exact later.readNumber_eq c
  by_cases letter : isLetter c = true
  · rw [Lexeme.read_eq_of_isLetter letter, Lexeme.read_eq_of_isLetter letter]
    exact later.readWord_eq rfl
  cases sign : punctuation? c with
  | some kind =>
    have member := punctuation?_eq_some_iff.mp sign
    rw [Lexeme.read_eq_of_mem_signs member, Lexeme.read_eq_of_mem_signs member]
    exact ⟨rfl, later⟩
  | none =>
    rw [Bool.not_eq_true] at blank digit letter
    have bad : StartsNoToken c := by
      refine ⟨blank, ?_, digit, letter⟩
      have noSign := punctuation?_eq_none_iff.mp sign
      simpa [notQuote] using noSign
    rw [Lexeme.read_eq_of_startsNoToken bad, Lexeme.read_eq_of_startsNoToken bad]
    exact ⟨rfl, rfl⟩

/-- Outside of strings the heads of the texts are the same lexeme, and behind it the texts are
    alike. -/
theorem exists_read_eq (respells : Respells false (c :: rest) cs') :
    ∃ d rest', cs' = d :: rest' ∧ Lexeme.read c rest = Lexeme.read d rest' ∧
      Behind c d rest rest' (Lexeme.read c rest) := by
  cases respells with
  | same notQuote later => exact ⟨_, _, rfl, read_eq_of_same notQuote later⟩
  | quote later =>
    refine ⟨_, _, rfl, ?_⟩
    rw [Lexeme.read_quote, Lexeme.read_quote]
    exact later.readString_eq
  | other interchangeable later =>
    refine ⟨_, _, rfl, ?_⟩
    rcases interchangeable with ⟨blank, blank'⟩ | ⟨letter, letter', small⟩
    · rw [Lexeme.read_eq_of_isBlank blank, Lexeme.read_eq_of_isBlank blank']
      exact ⟨rfl, later⟩
    · rw [Lexeme.read_eq_of_isLetter letter, Lexeme.read_eq_of_isLetter letter']
      exact later.readWord_eq small

/-- Both texts have the same tokens in the same places, and the same fault. -/
theorem scan_eq (respells : Respells false cs cs') (position : Nat) :
    scan position cs = scan position cs' := by
  induction position, cs using scan.induct generalizing cs' with
  | case1 position =>
    cases respells
    rw [scan]
  | case2 position c rest found ih =>
    obtain ⟨d, rest', rfl, same, behind⟩ := respells.exists_read_eq
    rw [found] at same behind
    rw [scan, scan, ← same, found]
    exact ih behind
  | case3 position c rest found =>
    obtain ⟨d, rest', rfl, same, behind⟩ := respells.exists_read_eq
    rw [found] at same behind
    have sameChar : c = d := behind
    rw [scan, scan, ← same, found, sameChar]
  | case4 position c rest found =>
    obtain ⟨d, rest', rfl, same, behind⟩ := respells.exists_read_eq
    rw [found] at same behind
    have length : rest.length = rest'.length := behind
    rw [scan, scan, ← same, found, length]
  | case5 position c rest kind text extra found ih =>
    obtain ⟨d, rest', rfl, same, behind⟩ := respells.exists_read_eq
    rw [found] at same behind
    rw [scan, scan, ← same, found]
    simp only [ih behind]

end Respells

/-! ## Main result -/

/-- A text that is spelled in another way has the same tokens in the same places, or the same error,
    and so the same statement or error as a query. -/
theorem tokenize_eq_of_respelled (s s' : String) (respelled : Respelled s s') :
    tokenize s = tokenize s' ∧ parseQuery s = parseQuery s' := by
  have chars : s.toList.length = s'.toList.length := by
    rw [String.length_toList, String.length_toList, respelled.length]
  have respells : Respells false s.toList s'.toList := by
    apply respells_of_chars chars
    intro i c d here there
    simpa using respelled.chars i c d here there
  have same : tokenize s = tokenize s' := by
    simp only [tokenize, respells.scan_eq 0, respelled.length]
  refine ⟨same, ?_⟩
  rw [parseQuery, parseQuery, same]

/-- The Kelvin sign is a letter whose small form is `k`, but in a string it is kept. -/
theorem tokenize_eq_of_respelled_kelvin :
    Respelled "FROM \u212A'\u212A'" "from\tk'\u212A'" ∧
    tokenize "FROM \u212A'\u212A'" = .ok [⟨.fromKey, "from", ⟨0, 4⟩⟩, ⟨.identifier, "k", ⟨5, 1⟩⟩,
      ⟨.stringLiteral, "\u212A", ⟨6, 3⟩⟩, Token.endOfInput 9] ∧
    tokenize "FROM \u212A'\u212A'" = tokenize "from\tk'\u212A'" ∧
    parseQuery "FROM \u212A'\u212A'" = parseQuery "from\tk'\u212A'" := by
  have respelled : Respelled "FROM \u212A'\u212A'" "from\tk'\u212A'" := by
    refine ⟨rfl, ?_⟩
    intro i c d here there
    rcases i with _ | _ | _ | _ | _ | _ | _ | _ | _ | i
    all_goals cases here
    all_goals cases there
    all_goals decide +kernel
  have scanned : scan 0 "FROM \u212A'\u212A'".toList = ⟨[⟨.fromKey, "from", ⟨0, 4⟩⟩,
      ⟨.identifier, "k", ⟨5, 1⟩⟩, ⟨.stringLiteral, "\u212A", ⟨6, 3⟩⟩], none⟩ := by
    decide +kernel
  exact ⟨respelled, tokenize_of_scan scanned, tokenize_eq_of_respelled _ _ respelled⟩

end SelectQuery
