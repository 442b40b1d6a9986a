import SelectQuery.Proofs.Canonical

/-!
# Statements that read back

The text of a canonical statement means that statement. Its pieces are the tokens of the statement:
each of them is spelled as it is displayed, and what is displayed behind it, a blank, a comma or the
end of the text, does not go on it. The converse holds because only canonical statements are ever
read, so the canonical statements are exactly those that read back (`parseQuery_display_iff`).
-/

namespace SelectQuery

open Text

/-! ## Texts and their words -/

/-- What of a token does not depend on its place. -/
def Token.word (t : Token) : TokenKind × String :=
  (t.kind, t.text)

/-- The characters, with `after` behind them, are tokens with these kinds and texts, wherever they
    stand. -/
def Reads (cs after : List Char) (words : List (TokenKind × String)) : Prop :=
  ∀ position, ∃ tokens, Tiles position cs after tokens ∧ tokens.map Token.word = words

namespace Reads

variable {a b cs after : List Char} {u v : List (TokenKind × String)}

theorem nil : Reads [] after [] :=
  fun _ => ⟨[], .done, rfl⟩

theorem append (first : Reads a (b ++ after) u) (second : Reads b after v) :
    Reads (a ++ b) after (u ++ v) := by
  intro position
  obtain ⟨ta, tiledFirst, rfl⟩ := first position
  obtain ⟨tb, tiledSecond, rfl⟩ := second (position + a.length)
  exact ⟨ta ++ tb, tiledFirst.append tiledSecond, List.map_append⟩

theorem space (read : Reads cs after u) : Reads (' ' :: cs) after u := by
  intro position
  obtain ⟨tokens, tiled, rfl⟩ := read (position + 1)
  exact ⟨tokens, .blank (by decide) tiled, rfl⟩

theorem one {kind : TokenKind} {text : String} {slice : List Char}
    (spelled : Spells kind text slice after) : Reads slice after [(kind, text)] :=
  fun position => ⟨_, .one spelled position, rfl⟩

end Reads

/-! ## The words of a statement -/

/-- The word of a column. -/
def columnWord (name : String) : TokenKind × String :=
  (if name = "*" then .asterisk else .identifier, name)

/-- The words of columns, with commas between them. -/
def columnWords : List String → List (TokenKind × String)
  | [] => []
  | [name] => [columnWord name]
  | name :: next :: names => columnWord name :: (.comma, ",") :: columnWords (next :: names)

/-- The word of the sign of a comparison. -/
def Comparison.word : Comparison → TokenKind × String
  | .equal => (.equal, "=")
  | .greaterThan => (.greaterThan, ">")
  | .lessThan => (.lessThan, "<")

/-- The word of a value. -/
def Literal.word : Literal → TokenKind × String
  | number digits => (.number, digits)
  | string text => (.stringLiteral, text)

/-- The words of a condition with its key. -/
def conditionWords : Option Condition → List (TokenKind × String)
  | none => []
  | some c => [(.whereKey, "where"), (.identifier, c.column), c.comparison.word, c.value.word]

/-- The words of a statement. -/
def Statement.words (st : Statement) : List (TokenKind × String) :=
  (.selectKey, "select") ::
    (columnWords st.columns ++ (.fromKey, "from") :: (.identifier, st.table) ::
      conditionWords st.condition)

/-! ## What is displayed is read -/

section Pieces

variable {after : List Char}

theorem stop_cons {c : Char} {cs : List Char} (noWord : isWordChar c = false) :
    ∀ d ∈ (c :: cs).head?, isWordChar d = false := by
  intro d first
  cases first
  exact noWord

theorem isWordChar_space : isWordChar ' ' = false :=
  isWordChar_eq_false_of_isBlank (by decide)

/-- A word is read in small letters. -/
theorem reads_word (shown : String) {word : String} {kind : TokenKind} {first : Char}
    {more : List Char} (split : shown.toList = first :: more) (letter : isLetter first = true)
    (members : ∀ c ∈ more, isWordChar c = true)
    (small : String.ofList (lowerCase shown.toList) = word) (named : WordOfKind word kind)
    (stop : ∀ c ∈ after.head?, isWordChar c = false) :
    Reads shown.toList after [(kind, word)] := by
  subst small
  rw [split] at named ⊢
  exact .one (.word letter members stop named)

theorem reads_select : Reads "SELECT".toList (' ' :: after) [(.selectKey, "select")] :=
  reads_word "SELECT" rfl (by decide +kernel) (List.all_eq_true.mp (by decide +kernel))
    (by decide +kernel) .selectKey (stop_cons isWordChar_space)

theorem reads_from : Reads "FROM".toList (' ' :: after) [(.fromKey, "from")] :=
  reads_word "FROM" rfl (by decide +kernel) (List.all_eq_true.mp (by decide +kernel))
    (by decide +kernel) .fromKey (stop_cons isWordChar_space)

theorem reads_where : Reads "WHERE".toList (' ' :: after) [(.whereKey, "where")] :=
  reads_word "WHERE" rfl (by decide +kernel) (List.all_eq_true.mp (by decide +kernel))
    (by decide +kernel) .whereKey (stop_cons isWordChar_space)

/-- A canonical name is read as itself. -/
theorem CanonicalName.reads {name : String} (canonical : CanonicalName name)
    (stop : ∀ c ∈ after.head?, isWordChar c = false) :
    Reads name.toList after [(.identifier, name)] := by
  obtain ⟨⟨first, more, split, letter, members⟩, small, noSelect, noFrom, noWhere⟩ := canonical
  have same : lowerCase name.toList = name.toList := by
    rw [lowerCase, List.map_congr_left small, List.map_id']
  refine reads_word name split letter members ?_ (.identifier noSelect noFrom noWhere) stop
  rw [same, String.ofList_toList]

theorem reads_sign {c : Char} {kind : TokenKind} (member : (c, kind) ∈ signs) :
    Reads [c] after [(kind, String.singleton c)] :=
  .one (.sign member)

theorem reads_column {name : String} (canonical : name = "*" ∨ CanonicalName name)
    (stop : ∀ c ∈ after.head?, isWordChar c = false) :
    Reads name.toList after [columnWord name] := by
  by_cases asterisk : name = "*"
  · subst asterisk
    exact reads_sign (c := '*') (by decide)
  · rw [columnWord, if_neg asterisk]
    exact (canonical.resolve_left asterisk).reads stop

/-- Columns are read with a comma behind each but the last. -/
theorem reads_columns {names : List String}
    (canonical : ∀ name ∈ names, name = "*" ∨ CanonicalName name)
    (stop : ∀ c ∈ after.head?, isWordChar c = false) :
    Reads (", ".intercalate names).toList after (columnWords names) := by
  fun_induction columnWords names with
  | case1 => exact .nil
  | case2 name =>
    rw [String.intercalate_singleton]
    exact reads_column (canonical name List.mem_cons_self) stop
  | case3 name next names ih =>
    obtain ⟨isName, areNames⟩ := List.forall_mem_cons.mp canonical
    have comma : Reads [','] (' ' :: ((", ".intercalate (next :: names)).toList ++ after))
      [(.comma, ",")] := reads_sign (by decide)
    have fromComma := comma.append (ih areNames).space
    have noWord : isWordChar ',' = false := by decide +kernel
    have whole := (reads_column isName (by exact stop_cons noWord)).append fromComma
    rw [String.intercalate_cons_cons, String.toList_append, String.toList_append, List.append_assoc]
    exact whole

theorem reads_comparison (comparison : Comparison) :
    Reads comparison.display.toList after [comparison.word] := by
  cases comparison with
  | equal => exact reads_sign (c := '=') (by decide)
  | greaterThan => exact reads_sign (c := '>') (by decide)
  | lessThan => exact reads_sign (c := '<') (by decide)

theorem CanonicalLiteral.reads {literal : Literal} (canonical : CanonicalLiteral literal)
    (stop : ∀ c ∈ after.head?, isWordChar c = false) :
    Reads literal.display.toList after [literal.word] := by
  cases canonical with
  | @number digits nonempty members =>
    have spelled : Spells .number (String.ofList digits.toList) digits.toList after := by
      refine .number nonempty members fun c first => ?_
      rw [Bool.eq_false_iff]
      intro digit
      have noWord := stop c first
      rw [isWordChar_of_isDigit digit] at noWord
      cases noWord
    rw [String.ofList_toList] at spelled
    exact .one spelled
  | @string text quoteless =>
    have spelled : Spells .stringLiteral (String.ofList text.toList)
      ('\x27' :: (text.toList ++ ['\x27'])) after := .string quoteless
    rw [String.ofList_toList] at spelled
    have shown : (Literal.string text).display.toList = '\x27' :: (text.toList ++ ['\x27']) := by
      simp [Literal.display]
    rw [shown]
    exact .one spelled

/-- A condition is read with its key and a blank in front. -/
theorem reads_condition {c : Condition} (name : CanonicalName c.column)
    (value : CanonicalLiteral c.value) (stop : ∀ d ∈ after.head?, isWordChar d = false) :
    Reads (" WHERE " ++ c.display).toList after (conditionWords (some c)) := by
  have fromValue := (value.reads stop).space
  have fromSign := ((reads_comparison c.comparison).append fromValue).space
  have fromColumn := ((name.reads (by exact stop_cons isWordChar_space)).append fromSign).space
  have whole := (reads_where.append fromColumn).space
  have shown : (" WHERE " ++ c.display).toList = ' ' :: ("WHERE".toList ++ ' ' ::
      (c.column.toList ++ ' ' :: (c.comparison.display.toList ++ ' ' ::
        c.value.display.toList))) := by
    simp [Condition.display]
  rw [shown]
  exact whole

/-- The text of a canonical statement is read as the words of the statement. -/
theorem reads_display {st : Statement} (canonical : st.Canonical)
    (stop : ∀ c ∈ after.head?, isWordChar c = false) :
    Reads st.display.toList after st.words := by
  obtain ⟨columns, table, condition⟩ := st
  obtain ⟨areColumns, isTable, isCondition⟩ := canonical
  have fromTable {clause : List Char} {words : List (TokenKind × String)}
      (read : Reads clause after words)
      (stop : ∀ c ∈ (clause ++ after).head?, isWordChar c = false) :
      Reads ("SELECT".toList ++ ' ' :: ((", ".intercalate columns).toList ++ ' ' ::
        ("FROM".toList ++ ' ' :: (table.toList ++ clause)))) after
        ((.selectKey, "select") ::
          (columnWords columns ++ (.fromKey, "from") :: (.identifier, table) :: words)) := by
    have fromName := ((isTable.reads stop).append read).space
    have fromKey := (reads_from.append fromName).space
    have fromColumns := ((reads_columns areColumns (by exact stop_cons isWordChar_space)).append
      fromKey).space
    exact reads_select.append fromColumns
  cases condition with
  | none =>
    have shown : (Statement.mk columns table none).display.toList =
        "SELECT".toList ++ ' ' :: ((", ".intercalate columns).toList ++ ' ' ::
          ("FROM".toList ++ ' ' :: (table.toList ++ []))) := by
      simp [Statement.display, Statement.columnsDisplay]
    rw [shown]
    exact fromTable .nil stop
  | some c =>
    have shown : (Statement.mk columns table (some c)).display.toList =
        "SELECT".toList ++ ' ' :: ((", ".intercalate columns).toList ++ ' ' ::
          ("FROM".toList ++ ' ' :: (table.toList ++ (" WHERE " ++ c.display).toList))) := by
      simp [Statement.display, Statement.columnsDisplay]
    rw [shown]
    refine fromTable (reads_condition (isCondition c rfl).1 (isCondition c rfl).2 stop) ?_
    rw [String.toList_append]
    exact stop_cons isWordChar_space

end Pieces

/-! ## Words make a sentence -/

theorem columnPart_of_words {names : List String} {tokens : List Token}
    (words : tokens.map Token.word = columnWords names) : ColumnPart tokens names := by
  have column {t : Token} {name : String} (word : t.word = columnWord name) :
      t.IsColumn ∧ t.text = name := by
    have kind : t.kind = if name = "*" then .asterisk else .identifier := congrArg Prod.fst word
    refine ⟨?_, congrArg Prod.snd word⟩
    by_cases asterisk : name = "*"
    · exact Or.inr (by rw [kind, if_pos asterisk])
    · exact Or.inl (by rw [kind, if_neg asterisk])
  fun_induction columnWords names generalizing tokens with
  | case1 =>
    rw [List.map_eq_nil_iff.mp words]
    exact .empty
  | case2 name =>
    obtain ⟨t, rfl, word⟩ := List.map_eq_singleton_iff.mp words
    obtain ⟨isColumn, rfl⟩ := column word
    exact .single isColumn
  | case3 name next names ih =>
    obtain ⟨t, _, rfl, word, afterName⟩ := List.map_eq_cons_iff.mp words
    obtain ⟨comma, part, rfl, isComma, afterComma⟩ := List.map_eq_cons_iff.mp afterName
    obtain ⟨isColumn, rfl⟩ := column word
    exact .more isColumn (congrArg Prod.fst isComma) (ih afterComma)

theorem conditionPart_of_words {condition : Option Condition} {tokens : List Token}
    (words : tokens.map Token.word = conditionWords condition) :
    ConditionPart tokens condition := by
  cases condition with
  | none =>
    rw [List.map_eq_nil_iff.mp words]
    exact .empty
  | some c =>
    obtain ⟨key, _, rfl, isKey, words⟩ := List.map_eq_cons_iff.mp words
    obtain ⟨column, _, rfl, isColumn, words⟩ := List.map_eq_cons_iff.mp words
    obtain ⟨sign, _, rfl, isSign, words⟩ := List.map_eq_cons_iff.mp words
    obtain ⟨value, rfl, isValue⟩ := List.map_eq_singleton_iff.mp words
    obtain ⟨name, comparison, literal⟩ := c
    obtain rfl : column.text = name := congrArg Prod.snd isColumn
    have signOf : SignOf sign.kind comparison := by
      rw [show sign.kind = comparison.word.1 from congrArg Prod.fst isSign]
      cases comparison <;> constructor
    have valueOf : ValueOf value literal := by
      cases literal with
      | number digits =>
        obtain rfl : value.text = digits := congrArg Prod.snd isValue
        exact .number (congrArg Prod.fst isValue)
      | string text =>
        obtain rfl : value.text = text := congrArg Prod.snd isValue
        exact .string (congrArg Prod.fst isValue)
    exact .full (congrArg Prod.fst isKey) (congrArg Prod.fst isColumn) signOf valueOf

theorem sentence_of_words {st : Statement} {tokens : List Token}
    (words : tokens.map Token.word = st.words) : Sentence tokens st := by
  obtain ⟨select, _, rfl, isSelect, words⟩ := List.map_eq_cons_iff.mp words
  obtain ⟨columns, _, rfl, areColumns, words⟩ := List.map_eq_append_iff.mp words
  obtain ⟨fromKey, _, rfl, isFrom, words⟩ := List.map_eq_cons_iff.mp words
  obtain ⟨table, clause, rfl, isTable, words⟩ := List.map_eq_cons_iff.mp words
  obtain ⟨names, name, condition⟩ := st
  obtain rfl : table.text = name := congrArg Prod.snd isTable
  exact .mk (congrArg Prod.fst isSelect) (columnPart_of_words areColumns) (congrArg Prod.fst isFrom)
    (congrArg Prod.fst isTable) (conditionPart_of_words words)

/-! ## Main result -/

/-- The text of a canonical statement means the statement. -/
theorem parseQuery_display {st : Statement} (canonical : st.Canonical) :
    parseQuery st.display = .ok st := by
  have stop : ∀ c ∈ ([] : List Char).head?, isWordChar c = false := fun _ first => by cases first
  obtain ⟨tokens, tiled, words⟩ := reads_display canonical stop 0
  rw [parseQuery_eq_ok_iff]
  refine ⟨_, tokenize_eq_ok_iff_tiles.mpr ⟨tokens, tiled, rfl⟩, ?_⟩
  rw [parse_eq_ok_iff]
  refine ⟨tokens, [Token.endOfInput st.display.length], rfl, sentence_of_words words, ?_⟩
  intro _ t member
  cases member
  exact fun key => by cases key

/-- Only canonical statements are read, and they are exactly those whose text means the statement;
    so whatever is read from any text reads back from its own. -/
theorem parseQuery_display_iff :
    (∀ s st, parseQuery s = .ok st → st.Canonical) ∧
    (∀ st : Statement, parseQuery st.display = .ok st ↔ st.Canonical) ∧
    (∀ s st, parseQuery s = .ok st → parseQuery st.display = .ok st) :=
  ⟨fun _ _ => canonical_of_parseQuery, fun _ => ⟨canonical_of_parseQuery, parseQuery_display⟩,
    fun _ _ read => parseQuery_display (canonical_of_parseQuery read)⟩

/-- Capitals, spacing and the comma of a text are not those of the statement it means. -/
theorem parseQuery_display_capitals :
    parseQuery "select ID,* from T where A='X';" =
      .ok ⟨["id", "*"], "t", some ⟨"a", .equal, .string "X"⟩⟩ ∧
    (Statement.mk ["id", "*"] "t" (some ⟨"a", .equal, .string "X"⟩)).Canonical ∧
    parseQuery "SELECT id, * FROM t WHERE a = 'X'" =
      .ok ⟨["id", "*"], "t", some ⟨"a", .equal, .string "X"⟩⟩ := by
  have scanned : scan 0 "select ID,* from T where A='X';".toList =
      ⟨[⟨.selectKey, "select", ⟨0, 6⟩⟩, ⟨.identifier, "id", ⟨7, 2⟩⟩, ⟨.comma, ",", ⟨9, 1⟩⟩,
        ⟨.asterisk, "*", ⟨10, 1⟩⟩, ⟨.fromKey, "from", ⟨12, 4⟩⟩, ⟨.identifier, "t", ⟨17, 1⟩⟩,
        ⟨.whereKey, "where", ⟨19, 5⟩⟩, ⟨.identifier, "a", ⟨25, 1⟩⟩, ⟨.equal, "=", ⟨26, 1⟩⟩,
        ⟨.stringLiteral, "X", ⟨27, 3⟩⟩, ⟨.semicolon, ";", ⟨30, 1⟩⟩], none⟩ := by
    decide +kernel
  have read : parseQuery "select ID,* from T where A='X';" =
      .ok ⟨["id", "*"], "t", some ⟨"a", .equal, .string "X"⟩⟩ := by
    simp only [parseQuery, tokenize, scanned]
    rfl
  have shown : (Statement.mk ["id", "*"] "t" (some ⟨"a", .equal, .string "X"⟩)).display =
      "SELECT id, * FROM t WHERE a = 'X'" := by
    decide +kernel
  have again := parseQuery_display_iff.2.2 _ _ read
  rw [shown] at again
  exact ⟨read, parseQuery_display_iff.1 _ _ read, again⟩

end SelectQuery
