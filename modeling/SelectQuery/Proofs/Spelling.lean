import SelectQuery.Proofs.Alphabet
import SelectQuery.Token.Scan

/-!
# The spelling of tokens

Which characters of a text are a token, and which token, said without a scanner. `Spells` is the
rule for one token: the characters it takes, and what must not follow them, so that no longer token
of the same class stands there. `Lexeme.Describes` adds the heads of a text that are no token, and
`Lexeme.read_eq_iff` says that reading the head of a text follows these rules and no others.
-/

namespace SelectQuery

open Text

/-- The signs that are tokens on their own. -/
def signs : List (Char × TokenKind) :=
  [(',', .comma), (';', .semicolon), ('*', .asterisk), ('=', .equal), ('>', .greaterThan),
   ('<', .lessThan)]

/-- The kind of a word in small letters: the three keys of the language have kinds of their own, and
    every other word is a name. -/
inductive WordOfKind : String → TokenKind → Prop
  | selectKey : WordOfKind "select" .selectKey
  | fromKey : WordOfKind "from" .fromKey
  | whereKey : WordOfKind "where" .whereKey
  | identifier {word : String} : word ≠ "select" → word ≠ "from" → word ≠ "where" →
      WordOfKind word .identifier

/-- The characters `slice` of a text, with `after` following them, are a token of the kind and with
    the text. A number or a word takes all it can: what follows does not go on it. -/
inductive Spells : TokenKind → String → List Char → List Char → Prop
  | sign {c : Char} {kind : TokenKind} {after : List Char} :
      (c, kind) ∈ signs → Spells kind (String.singleton c) [c] after
  | string {body after : List Char} : '\x27' ∉ body →
      Spells .stringLiteral (String.ofList body) ('\x27' :: (body ++ ['\x27'])) after
  | number {digits after : List Char} :
      digits ≠ [] → (∀ d ∈ digits, d.isDigit = true) → (∀ d ∈ after.head?, d.isDigit = false) →
      Spells .number (String.ofList digits) digits after
  | word {first : Char} {more after : List Char} {kind : TokenKind} :
      isLetter first = true → (∀ c ∈ more, isWordChar c = true) →
      (∀ c ∈ after.head?, isWordChar c = false) →
      WordOfKind (String.ofList (lowerCase (first :: more))) kind →
      Spells kind (String.ofList (lowerCase (first :: more))) (first :: more) after

/-- No token starts with the character. -/
def StartsNoToken (c : Char) : Prop :=
  isBlank c = false ∧ c ∉ [',', ';', '*', '=', '>', '<', '\x27'] ∧ c.isDigit = false ∧
    isLetter c = false

instance : DecidablePred StartsNoToken :=
  fun _ => inferInstanceAs (Decidable (_ ∧ _))

/-- The lexeme stands at the head of the text `c :: rest`. -/
inductive Lexeme.Describes (c : Char) (rest : List Char) : Lexeme → Prop
  | blank : isBlank c = true → Describes c rest .blank
  | token {kind : TokenKind} {text : String} {more after : List Char} :
      rest = more ++ after → Spells kind text (c :: more) after →
      Describes c rest (.token kind text more.length)
  | unterminated : c = '\x27' → '\x27' ∉ rest → Describes c rest .unterminated
  | unexpected : StartsNoToken c → Describes c rest .unexpected

/-! ## Signs and words -/

theorem punctuation?_eq_some_iff {c : Char} {kind : TokenKind} :
    punctuation? c = some kind ↔ (c, kind) ∈ signs := by
  constructor
  · intro found
    unfold punctuation? at found
    split at found <;> cases found <;> decide
  · intro member
    simp only [signs, List.mem_cons, List.not_mem_nil, or_false, Prod.mk.injEq] at member
    rcases member with
      ⟨rfl, rfl⟩ | ⟨rfl, rfl⟩ | ⟨rfl, rfl⟩ | ⟨rfl, rfl⟩ | ⟨rfl, rfl⟩ | ⟨rfl, rfl⟩ <;> rfl

theorem punctuation?_eq_none_iff {c : Char} :
    punctuation? c = none ↔ c ∉ [',', ';', '*', '=', '>', '<'] := by
  constructor
  · intro absent member
    simp only [List.mem_cons, List.not_mem_nil, or_false] at member
    rcases member with rfl | rfl | rfl | rfl | rfl | rfl <;> cases absent
  · intro absent
    refine Option.eq_none_iff_forall_ne_some.mpr fun kind found => absent ?_
    have member : c ∈ signs.map Prod.fst :=
      List.mem_map_of_mem (punctuation?_eq_some_iff.mp found)
    exact member

theorem punctuation?_eq_none_of_isLetter {c : Char} (letter : isLetter c = true) :
    punctuation? c = none := by
  rw [punctuation?_eq_none_iff]
  intro member
  have high := le_toNat_of_isLetter letter
  simp only [List.mem_cons, List.not_mem_nil, or_false] at member
  rcases member with rfl | rfl | rfl | rfl | rfl | rfl <;> exact absurd high (by decide)

theorem isBlank_eq_false_of_mem_signs {c : Char} {kind : TokenKind} (member : (c, kind) ∈ signs) :
    isBlank c = false := by
  have all : ∀ sign ∈ signs, isBlank sign.1 = false := by decide
  exact all (c, kind) member

theorem wordOfKind_wordKind (word : String) : WordOfKind word (wordKind word) := by
  unfold wordKind keyword?
  split
  · next equal => exact equal ▸ .selectKey
  · next noSelect =>
    split
    · next equal => exact equal ▸ .fromKey
    · next noFrom =>
      split
      · next equal => exact equal ▸ .whereKey
      · next noWhere => exact .identifier noSelect noFrom noWhere

theorem wordKind_eq_of_wordOfKind {word : String} {kind : TokenKind}
    (named : WordOfKind word kind) : wordKind word = kind := by
  cases named with
  | selectKey => rfl
  | fromKey => rfl
  | whereKey => rfl
  | identifier noSelect noFrom noWhere =>
    rw [wordKind, keyword?, if_neg noSelect, if_neg noFrom, if_neg noWhere, Option.getD_none]

/-! ## The head of a text -/

section TakeWhile

variable {α : Type} {p : α → Bool}

/-- What is taken from the front of a list ends where the first other element stands. -/
theorem takeWhile_append_of_stop {taken after : List α} (all : ∀ a ∈ taken, p a = true)
    (stop : ∀ a ∈ after.head?, p a = false) : (taken ++ after).takeWhile p = taken := by
  rw [List.takeWhile_append_of_pos all]
  cases after with
  | nil => exact List.append_nil taken
  | cons a after =>
    have refused : ¬p a = true := by
      rw [stop a rfl]
      exact Bool.false_ne_true
    rw [List.takeWhile_cons_of_neg refused, List.append_nil]

theorem all_of_mem_takeWhile (l : List α) : ∀ a ∈ l.takeWhile p, p a = true :=
  List.all_eq_true.mp List.all_takeWhile

theorem head?_dropWhile_eq_false (l : List α) : ∀ a ∈ (l.dropWhile p).head?, p a = false := by
  intro a first
  have stop := List.head?_dropWhile_not p l
  rw [Option.mem_def.mp first] at stop
  exact stop

end TakeWhile

namespace Lexeme

theorem read_eq_of_isBlank {c : Char} {rest : List Char} (blank : isBlank c = true) :
    read c rest = .blank := by
  rw [read, if_pos blank]

theorem read_eq_of_mem_signs {c : Char} {rest : List Char} {kind : TokenKind}
    (member : (c, kind) ∈ signs) : read c rest = .token kind (String.singleton c) 0 := by
  rw [read, isBlank_eq_false_of_mem_signs member, punctuation?_eq_some_iff.mpr member]
  rfl

theorem read_quote (rest : List Char) : read '\x27' rest = readString rest :=
  rfl

theorem read_eq_of_isDigit {c : Char} {rest : List Char} (digit : c.isDigit = true) :
    read c rest = readNumber c rest := by
  have noBlank : isBlank c = false := isBlank_eq_false_of_isWordChar (isWordChar_of_isDigit digit)
  have noSign : punctuation? c = none := by
    rw [punctuation?_eq_none_iff]
    intro member
    simp only [List.mem_cons, List.not_mem_nil, or_false] at member
    rcases member with rfl | rfl | rfl | rfl | rfl | rfl <;> cases digit
  have noQuote : c ≠ '\x27' := by
    rintro rfl
    cases digit
  rw [read, noBlank, noSign]
  simp only [if_neg noQuote, if_pos digit, Bool.false_eq_true, if_false]

theorem read_eq_of_isLetter {c : Char} {rest : List Char} (letter : isLetter c = true) :
    read c rest = readWord c rest := by
  have noBlank : isBlank c = false := isBlank_eq_false_of_isWordChar (isWordChar_of_isLetter letter)
  have noDigit := isDigit_eq_false_of_isLetter letter
  rw [read, noBlank, punctuation?_eq_none_of_isLetter letter]
  simp only [if_neg (ne_quote_of_isLetter letter), noDigit, if_pos letter, Bool.false_eq_true,
    if_false]

theorem read_eq_of_startsNoToken {c : Char} {rest : List Char} (bad : StartsNoToken c) :
    read c rest = .unexpected := by
  obtain ⟨noBlank, noSign, noDigit, noLetter⟩ := bad
  have noQuote : c ≠ '\x27' := by
    rintro rfl
    exact noSign (by decide)
  have noPunctuation : punctuation? c = none := by
    rw [punctuation?_eq_none_iff]
    intro member
    exact noSign (List.mem_append_left ['\x27'] member)
  rw [read, noBlank, noPunctuation]
  simp only [if_neg noQuote, noDigit, noLetter, Bool.false_eq_true, if_false]

/-- A string without a quote is closed by the first quote after it. -/
theorem readString_append {body after : List Char} (quoteless : '\x27' ∉ body) :
    readString (body ++ '\x27' :: after) =
      .token .stringLiteral (String.ofList body) (body.length + 1) := by
  have taken : (body ++ '\x27' :: after).takeWhile (· != '\x27') = body := by
    refine takeWhile_append_of_stop (fun c member => ?_) ?_
    · rw [bne_iff_ne]
      rintro rfl
      exact quoteless member
    · intro c first
      cases first
      rfl
  have closed : body.length < (body ++ '\x27' :: after).length := by
    rw [List.length_append, List.length_cons]
    omega
  rw [readString]
  simp only [taken, if_pos closed]

theorem readString_eq_unterminated {rest : List Char} (quoteless : '\x27' ∉ rest) :
    readString rest = .unterminated := by
  have taken : rest.takeWhile (· != '\x27') = rest := by
    have all : ∀ c ∈ rest, (c != '\x27') = true := by
      intro c member
      rw [bne_iff_ne]
      rintro rfl
      exact quoteless member
    have stop : ∀ c ∈ ([] : List Char).head?, (c != '\x27') = false := fun _ first => by cases first
    have whole := takeWhile_append_of_stop all stop
    rwa [List.append_nil] at whole
  rw [readString]
  simp only [taken, Nat.lt_irrefl, if_false]

theorem readNumber_append {c : Char} {more after : List Char}
    (digits : ∀ d ∈ more, d.isDigit = true) (stop : ∀ d ∈ after.head?, d.isDigit = false) :
    readNumber c (more ++ after) = .token .number (String.ofList (c :: more)) more.length := by
  rw [readNumber]
  simp only [takeWhile_append_of_stop digits stop]

theorem readWord_append {c : Char} {more after : List Char}
    (members : ∀ d ∈ more, isWordChar d = true) (stop : ∀ d ∈ after.head?, isWordChar d = false) :
    readWord c (more ++ after) =
      .token (wordKind (String.ofList (lowerCase (c :: more))))
        (String.ofList (lowerCase (c :: more))) more.length := by
  rw [readWord]
  simp only [takeWhile_append_of_stop members stop]

/-- Reading a head that is described finds what is described. -/
theorem read_eq_of_describes {c : Char} {rest : List Char} {found : Lexeme}
    (described : Describes c rest found) : read c rest = found := by
  cases described with
  | blank blank => exact read_eq_of_isBlank blank
  | unterminated quote quoteless =>
    subst quote
    rw [read_quote, readString_eq_unterminated quoteless]
  | unexpected bad => exact read_eq_of_startsNoToken bad
  | @token kind text more after split spelled =>
    subst split
    cases spelled with
    | sign member => exact read_eq_of_mem_signs member
    | @string body after quoteless =>
      rw [read_quote, List.append_assoc, List.length_append]
      exact readString_append quoteless
    | number nonempty digits stop =>
      have digits' := List.forall_mem_cons.mp digits
      rw [read_eq_of_isDigit digits'.1, readNumber_append digits'.2 stop]
    | word letter members stop named =>
      rw [read_eq_of_isLetter letter, readWord_append members stop,
        wordKind_eq_of_wordOfKind named]

/-- What is read is described. -/
theorem exists_describes (c : Char) (rest : List Char) : ∃ found, Describes c rest found := by
  by_cases blank : isBlank c = true
  · exact ⟨_, .blank blank⟩
  by_cases quote : c = '\x27'
  · by_cases member : '\x27' ∈ rest
    · obtain ⟨body, after, rfl, quoteless⟩ := List.eq_append_cons_of_mem member
      subst quote
      exact ⟨_, .token (List.append_cons body '\x27' after) (.string quoteless)⟩
    · exact ⟨_, .unterminated quote member⟩
  by_cases digit : c.isDigit = true
  · refine ⟨_, .token (List.takeWhile_append_dropWhile (p := Char.isDigit)).symm
      (.number (List.cons_ne_nil _ _) ?_ (head?_dropWhile_eq_false rest))⟩
    exact List.forall_mem_cons.mpr ⟨digit, all_of_mem_takeWhile rest⟩
  by_cases letter : isLetter c = true
  · exact ⟨_, .token (List.takeWhile_append_dropWhile (p := isWordChar)).symm
      (.word letter (all_of_mem_takeWhile rest) (head?_dropWhile_eq_false rest)
        (wordOfKind_wordKind _))⟩
  cases sign : punctuation? c with
  | some kind =>
    have member := punctuation?_eq_some_iff.mp sign
    exact ⟨_, .token (List.nil_append rest).symm (.sign member)⟩
  | none =>
    rw [Bool.not_eq_true] at blank digit letter
    refine ⟨_, .unexpected ⟨blank, fun member => ?_, digit, letter⟩⟩
    rcases List.mem_append.mp (show c ∈ [',', ';', '*', '=', '>', '<'] ++ ['\x27'] from member) with
      isSign | isQuote
    · exact punctuation?_eq_none_iff.mp sign isSign
    · exact quote (List.mem_singleton.mp isQuote)

/-- Reading the head of a text follows the rules of spelling. -/
theorem read_eq_iff {c : Char} {rest : List Char} {found : Lexeme} :
    read c rest = found ↔ Describes c rest found := by
  constructor
  · rintro rfl
    obtain ⟨found, described⟩ := exists_describes c rest
    rwa [read_eq_of_describes described]
  · exact read_eq_of_describes

end Lexeme

end SelectQuery
