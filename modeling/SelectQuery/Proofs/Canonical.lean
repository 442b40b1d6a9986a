import SelectQuery.Proofs.Grammar
import SelectQuery.Proofs.Tiling

/-!
# Canonical statements

The statements that texts can mean. A text writes names in any case, but a statement holds them in
small letters, and never a key of the language; its numbers are digits and its strings hold no
quote. Every statement that is read from a text is canonical (`canonical_of_parseQuery`), because
each of its parts is the text of a token.
-/

namespace SelectQuery

open Text

/-- A name as a statement holds it: a word in small letters that is no key of the language. -/
structure CanonicalName (name : String) : Prop where
  word : ∃ first more, name.toList = first :: more ∧ isLetter first = true ∧
    ∀ c ∈ more, isWordChar c = true
  small : ∀ c ∈ name.toList, lower c = c
  noKey : name ≠ "select" ∧ name ≠ "from" ∧ name ≠ "where"

/-- A value as a statement holds it. -/
inductive CanonicalLiteral : Literal → Prop
  | number {digits : String} : digits.toList ≠ [] → (∀ d ∈ digits.toList, d.isDigit = true) →
      CanonicalLiteral (.number digits)
  | string {text : String} : '\x27' ∉ text.toList → CanonicalLiteral (.string text)

/-- A statement all of whose parts can be read from a text. -/
structure Statement.Canonical (st : Statement) : Prop where
  columns : ∀ name ∈ st.columns, name = "*" ∨ CanonicalName name
  table : CanonicalName st.table
  condition : ∀ c, st.condition = some c → CanonicalName c.column ∧ CanonicalLiteral c.value

/-- The texts that a token of the kind has, as far as they come into statements. -/
def TokenKind.Admits : TokenKind → String → Prop
  | .identifier, text => CanonicalName text
  | .asterisk, text => text = "*"
  | .number, text => CanonicalLiteral (.number text)
  | .stringLiteral, text => CanonicalLiteral (.string text)
  | _, _ => True

/-! ## The texts of tokens -/

/-- A word in small letters is a canonical name if it is no key. -/
theorem canonicalName_lowerCase {first : Char} {more : List Char} (letter : isLetter first = true)
    (members : ∀ c ∈ more, isWordChar c = true)
    (noKey : String.ofList (lowerCase (first :: more)) ≠ "select" ∧
      String.ofList (lowerCase (first :: more)) ≠ "from" ∧
      String.ofList (lowerCase (first :: more)) ≠ "where") :
    CanonicalName (String.ofList (lowerCase (first :: more))) := by
  refine ⟨⟨lower first, more.map lower, ?_, isLetter_lower letter, ?_⟩, ?_, noKey⟩
  · rw [String.toList_ofList, lowerCase, List.map_cons]
  · intro c member
    obtain ⟨d, inside, rfl⟩ := List.mem_map.mp member
    exact isWordChar_lower (members d inside)
  · intro c member
    rw [String.toList_ofList] at member
    obtain ⟨d, -, rfl⟩ := List.mem_map.mp member
    exact lower_lower d

theorem admits_of_mem_signs {c : Char} {kind : TokenKind} (member : (c, kind) ∈ signs) :
    kind.Admits (String.singleton c) := by
  simp only [signs, List.mem_cons, List.not_mem_nil, or_false, Prod.mk.injEq] at member
  rcases member with ⟨rfl, rfl⟩ | ⟨rfl, rfl⟩ | ⟨rfl, rfl⟩ | ⟨rfl, rfl⟩ | ⟨rfl, rfl⟩ | ⟨rfl, rfl⟩ <;>
    first | rfl | trivial

/-- Whatever a token was spelled like, its text is one of those that its kind admits. -/
theorem Spells.admits {kind : TokenKind} {text : String} {slice after : List Char}
    (spelled : Spells kind text slice after) : kind.Admits text := by
  cases spelled with
  | sign member => exact admits_of_mem_signs member
  | string quoteless =>
    refine .string ?_
    rwa [String.toList_ofList]
  | number nonempty digits _ =>
    refine .number ?_ ?_ <;> rw [String.toList_ofList]
    · exact nonempty
    · exact digits
  | @word first more _ _ letter members _ named =>
    generalize word : String.ofList (lowerCase (first :: more)) = text at named
    cases named with
    | identifier noSelect noFrom noWhere =>
      subst word
      exact canonicalName_lowerCase letter members ⟨noSelect, noFrom, noWhere⟩
    | _ => trivial

theorem Tiles.admits {position : Nat} {cs after : List Char} {tokens : List Token}
    (tiled : Tiles position cs after tokens) : ∀ t ∈ tokens, t.kind.Admits t.text := by
  induction tiled with
  | done =>
    intro t member
    cases member
  | blank _ _ ih => exact ih
  | token spelled _ ih => exact List.forall_mem_cons.mpr ⟨spelled.admits, ih⟩

/-- The texts of the tokens of a text are those that their kinds admit. -/
theorem admits_of_tokenize {s : String} {ts : List Token} (read : tokenize s = .ok ts) :
    ∀ t ∈ ts, t.kind.Admits t.text := by
  obtain ⟨tokens, tiled, rfl⟩ := tokenize_eq_ok_iff_tiles.mp read
  exact List.forall_mem_append.mpr ⟨tiled.admits, List.forall_mem_singleton.mpr trivial⟩

/-! ## The parts of a sentence -/

theorem ColumnPart.canonical {part : List Token} {names : List String}
    (columns : ColumnPart part names) (admitted : ∀ t ∈ part, t.kind.Admits t.text) :
    ∀ name ∈ names, name = "*" ∨ CanonicalName name := by
  have column {t : Token} (isColumn : t.IsColumn) (admits : t.kind.Admits t.text) :
      t.text = "*" ∨ CanonicalName t.text := by
    rcases isColumn with kind | kind <;> rw [kind] at admits
    · exact Or.inr admits
    · exact Or.inl admits
  induction columns with
  | empty =>
    intro name member
    cases member
  | single isColumn =>
    rw [List.forall_mem_singleton] at admitted ⊢
    exact column isColumn admitted
  | more isColumn _ _ ih =>
    rcases List.forall_mem_cons.mp admitted with ⟨first, behind⟩
    rcases List.forall_mem_cons.mp behind with ⟨-, later⟩
    exact List.forall_mem_cons.mpr ⟨column isColumn first, ih later⟩

theorem ConditionPart.canonical {clause : List Token} {condition : Option Condition}
    (part : ConditionPart clause condition) (admitted : ∀ t ∈ clause, t.kind.Admits t.text) :
    ∀ c, condition = some c → CanonicalName c.column ∧ CanonicalLiteral c.value := by
  intro c found
  cases part with
  | empty => cases found
  | @full key column sign value comparison literal _ isColumn _ isValue =>
    cases found
    have name := admitted column (by simp)
    have given := admitted value (by simp)
    rw [isColumn] at name
    refine ⟨name, ?_⟩
    rcases isValue with kind | kind <;> rw [kind] at given
    · exact given
    · exact given

/-- A statement of tokens whose texts are admitted is canonical. -/
theorem Sentence.canonical {taken : List Token} {st : Statement} (sentence : Sentence taken st)
    (admitted : ∀ t ∈ taken, t.kind.Admits t.text) : st.Canonical := by
  cases sentence with
  | @mk select fromKey table columns clause names condition _ isColumns _ isTable part =>
    have name := admitted table (by simp)
    rw [isTable] at name
    refine ⟨isColumns.canonical fun t member => ?_, name, part.canonical fun t member => ?_⟩
    · exact admitted t (by simp [member])
    · exact admitted t (by simp [member])

theorem parseQuery_eq_ok_iff {s : String} {st : Statement} :
    parseQuery s = .ok st ↔ ∃ ts, tokenize s = .ok ts ∧ parse ts = .ok st := by
  unfold parseQuery
  cases tokenize s with
  | error e => simp [bind, Except.bind]
  | ok ts => simp [bind, Except.bind]

theorem parseQuery_eq_error_iff {s : String} {e : QueryError} :
    parseQuery s = .error e ↔
      tokenize s = .error e ∨ ∃ ts, tokenize s = .ok ts ∧ parse ts = .error e := by
  unfold parseQuery
  cases tokenize s with
  | error e' => simp [bind, Except.bind]
  | ok ts => simp [bind, Except.bind]

/-- A text whose scan meets no fault means what the tokens that it finds do. -/
theorem parseQuery_of_scan {s : String} {tokens : List Token}
    (scanned : scan 0 s.toList = ⟨tokens, none⟩) :
    parseQuery s = parse (tokens ++ [Token.endOfInput s.length]) := by
  rw [parseQuery, tokenize_of_scan scanned]
  rfl

/-- Every statement that a text means is canonical. -/
theorem canonical_of_parseQuery {s : String} {st : Statement} (read : parseQuery s = .ok st) :
    st.Canonical := by
  obtain ⟨ts, tokenized, parsed⟩ := parseQuery_eq_ok_iff.mp read
  obtain ⟨taken, after, rfl, sentence, -⟩ := parse_eq_ok_iff.mp parsed
  exact sentence.canonical fun t member =>
    admits_of_tokenize tokenized t (List.mem_append_left after member)

end SelectQuery
