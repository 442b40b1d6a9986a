import SelectQuery.Proofs.RoundTrip

/-!
# Scripts

A script holds statements one after the other, with a semicolon and possibly blanks between them.
It is read by reading a statement, going to the position behind the one where that stopped, and so
on. Read like this, a script of canonical statements gives these statements in order, and each of
them stops at the semicolon behind it or, the last, at the end of the text (`drive_script`). The
count of tokens that is made before a condition is read sees the statements that follow, but they
only add to it.
-/

namespace SelectQuery

open Text

/-- The text of a statement, and of those that follow it with a semicolon and the given blanks
    before each. -/
def scriptText (st : Statement) : List (String × Statement) → String
  | [] => st.display
  | (gap, next) :: more => st.display ++ ";" ++ gap ++ scriptText next more

/-- The moves that read as many statements, the first from the position on and each other from one
    position behind the place where the one before it stopped. -/
def successiveMoves (ts : List Token) (position : Nat) : Nat → List Move
  | 0 => []
  | n + 1 =>
    let stop := (parseAt ts position).position
    .parse :: .goTo (stop + 1) :: successiveMoves ts (stop + 1) n

/-- What the moves tell if they read these statements, which stop at the positions beside them. -/
def successes (readings : List (Nat × Statement)) :
    List (Nat × Option (Except QueryError Statement)) :=
  readings.flatMap fun (stop, st) => [(stop, some (.ok st)), (stop + 1, none)]

/-! ## The words of a script -/

/-- The words of a statement and of those that follow it. -/
def scriptWords (st : Statement) : List (String × Statement) → List (TokenKind × String)
  | [] => st.words
  | (_, next) :: more => st.words ++ (.semicolon, ";") :: scriptWords next more

theorem Reads.blanks {cs after : List Char} (blank : ∀ c ∈ cs, isBlank c = true) :
    Reads cs after [] :=
  fun _ => ⟨[], .blanks blank, rfl⟩

/-- The text of a script of canonical statements is read as the words of the script. -/
theorem reads_script {st : Statement} {more : List (String × Statement)}
    (canonical : ∀ st' ∈ st :: more.map Prod.snd, st'.Canonical)
    (blank : ∀ gap ∈ more.map Prod.fst, ∀ c ∈ gap.toList, isBlank c = true) :
    Reads (scriptText st more).toList [] (scriptWords st more) := by
  induction more generalizing st with
  | nil => exact reads_display (canonical st List.mem_cons_self) nofun
  | cons entry more ih =>
    obtain ⟨gap, next⟩ := entry
    obtain ⟨isCanonical, later⟩ := List.forall_mem_cons.mp canonical
    obtain ⟨blankGap, blankLater⟩ := List.forall_mem_cons.mp blank
    have fromGap := (Reads.blanks blankGap).append (ih later blankLater)
    have semicolon : Reads [';'] (gap.toList ++ (scriptText next more).toList ++ [])
      [(.semicolon, ";")] := reads_sign (by decide)
    have noWord : isWordChar ';' = false := by decide +kernel
    have whole := (reads_display isCanonical (by exact stop_cons noWord)).append
      (semicolon.append fromGap)
    have shown : (scriptText st ((gap, next) :: more)).toList =
        st.display.toList ++ ([';'] ++ (gap.toList ++ (scriptText next more).toList)) := by
      simp [scriptText]
    rw [shown]
    exact whole

/-! ## Reading a script -/

/-- A statement that stands before a token that is not the key of a condition, and what is read
    behind that token. -/
theorem drive_step {ts before taken later : List Token} {t : Token} {st : Statement}
    (split : ts = before ++ (taken ++ t :: later)) (sentence : Sentence taken st)
    (noKey : t.kind ≠ .whereKey) (n : Nat) :
    ∃ stop, ts[stop]? = some t ∧ stop + 1 = (before ++ (taken ++ [t])).length ∧
      drive ts before.length (successiveMoves ts before.length (n + 1)) =
        (stop, some (.ok st)) :: (stop + 1, none) ::
          drive ts (stop + 1) (successiveMoves ts (stop + 1) n) := by
  have ends : st.EndsBefore (t :: later) := by
    intro _ u first
    cases first
    exact noKey
  obtain ⟨read, position⟩ := parseAt_sentence split sentence ends
  refine ⟨before.length + taken.length, ?_, ?_, ?_⟩
  · rw [split, ← List.append_assoc, ← List.length_append,
      List.getElem?_append_right (Nat.le_refl _), Nat.sub_self, List.getElem?_cons_zero]
  · simp [Nat.add_assoc]
  · simp only [successiveMoves, drive, read, position]

/-- Where the words of a script stand among tokens, its statements are read. -/
theorem drive_of_words {st : Statement} {more : List (String × Statement)}
    {ts before tokens : List Token} {z : Token} (split : ts = before ++ (tokens ++ [z]))
    (isEnd : z.kind = .endOfInput) (words : tokens.map Token.word = scriptWords st more) :
    ∃ readings : List (Nat × Statement), readings.map Prod.snd = st :: more.map Prod.snd ∧
      drive ts before.length (successiveMoves ts before.length (more.length + 1)) =
        successes readings ∧
      readings.map (fun r => ts[r.1]?.map (·.kind)) =
        List.replicate more.length (some .semicolon) ++ [some .endOfInput] := by
  induction more generalizing st before tokens with
  | nil =>
    have noKey : z.kind ≠ .whereKey := by
      rw [isEnd]
      exact nofun
    obtain ⟨stop, here, -, driven⟩ := drive_step split (sentence_of_words words) noKey 0
    refine ⟨[(stop, st)], rfl, driven, ?_⟩
    simp [here, isEnd]
  | cons entry more ih =>
    obtain ⟨gap, next⟩ := entry
    obtain ⟨taken, _, rfl, wordsTaken, words⟩ := List.map_eq_append_iff.mp words
    obtain ⟨semicolon, later, rfl, isSemicolon, words⟩ := List.map_eq_cons_iff.mp words
    have kind : semicolon.kind = .semicolon := congrArg Prod.fst isSemicolon
    have noKey : semicolon.kind ≠ .whereKey := by
      rw [kind]
      exact nofun
    have atFirst : ts = before ++ (taken ++ semicolon :: (later ++ [z])) := by
      simp [split]
    have atNext : ts = before ++ (taken ++ [semicolon]) ++ (later ++ [z]) := by
      simp [split]
    obtain ⟨stop, here, behind, driven⟩ :=
      drive_step atFirst (sentence_of_words wordsTaken) noKey (more.length + 1)
    obtain ⟨readings, statements, rest, stops⟩ := ih atNext words
    rw [← behind] at rest
    refine ⟨(stop, st) :: readings, ?_, ?_, ?_⟩
    · simp [statements]
    · rw [List.length_cons, driven, rest]
      rfl
    · rw [List.map_cons, stops, here, List.length_cons, List.replicate_succ, List.cons_append,
        Option.map_some, kind]

/-! ## Main result -/

/-- A script of canonical statements is cut into tokens and read statement by statement: each stops
    at the semicolon behind it, and the last at the end of the text. -/
theorem drive_script (st : Statement) (more : List (String × Statement))
    (canonical : ∀ st' ∈ st :: more.map Prod.snd, st'.Canonical)
    (blank : ∀ gap ∈ more.map Prod.fst, ∀ c ∈ gap.toList, isBlank c = true) :
    ∃ ts readings, tokenize (scriptText st more) = .ok ts ∧
      readings.map Prod.snd = st :: more.map Prod.snd ∧
      drive ts 0 (successiveMoves ts 0 (more.length + 1)) = successes readings ∧
      readings.map (fun r => ts[r.1]?.map (·.kind)) =
        List.replicate more.length (some .semicolon) ++ [some .endOfInput] := by
  obtain ⟨tokens, tiled, words⟩ := reads_script canonical blank 0
  have alone : tokens ++ [Token.endOfInput (scriptText st more).length] =
      [] ++ (tokens ++ [Token.endOfInput (scriptText st more).length]) := rfl
  obtain ⟨readings, read⟩ := drive_of_words alone rfl words
  exact ⟨_, readings, tokenize_eq_ok_iff_tiles.mpr ⟨tokens, tiled, rfl⟩, read⟩

/-- A semicolon in a string does not end a statement, and no blank is needed behind one that
    does. -/
theorem drive_script_string :
    let first : Statement := ⟨["*"], "t", some ⟨"a", .equal, .string ";"⟩⟩
    let second : Statement := ⟨[], "u", none⟩
    let third : Statement := ⟨["b"], "v", some ⟨"c", .lessThan, .number "7"⟩⟩
    (∀ st ∈ [first, second, third], st.Canonical) ∧
    (∀ gap ∈ ["", "\n "], ∀ c ∈ gap.toList, isBlank c = true) ∧
    ∃ ts readings, tokenize
        "SELECT * FROM t WHERE a = ';';SELECT  FROM u;\n SELECT b FROM v WHERE c < 7" = .ok ts ∧
      readings.map Prod.snd = [first, second, third] ∧
      drive ts 0 (successiveMoves ts 0 3) = successes readings ∧
      readings.map (fun r => ts[r.1]?.map (·.kind)) =
        [some .semicolon, some .semicolon, some .endOfInput] := by
  intro first second third
  have scannedFirst : scan 0 "select * from t where a=';'".toList =
      ⟨[⟨.selectKey, "select", ⟨0, 6⟩⟩, ⟨.asterisk, "*", ⟨7, 1⟩⟩, ⟨.fromKey, "from", ⟨9, 4⟩⟩,
        ⟨.identifier, "t", ⟨14, 1⟩⟩, ⟨.whereKey, "where", ⟨16, 5⟩⟩, ⟨.identifier, "a", ⟨22, 1⟩⟩,
        ⟨.equal, "=", ⟨23, 1⟩⟩, ⟨.stringLiteral, ";", ⟨24, 3⟩⟩], none⟩ := by
    decide +kernel
  have readFirst : parseQuery "select * from t where a=';'" = .ok first :=
    parseQuery_of_scan scannedFirst
  have scannedSecond : scan 0 "select from u".toList =
      ⟨[⟨.selectKey, "select", ⟨0, 6⟩⟩, ⟨.fromKey, "from", ⟨7, 4⟩⟩,
        ⟨.identifier, "u", ⟨12, 1⟩⟩], none⟩ := by
    decide +kernel
  have readSecond : parseQuery "select from u" = .ok second :=
    parseQuery_of_scan scannedSecond
  have scannedThird : scan 0 "select b from v where c<7".toList =
      ⟨[⟨.selectKey, "select", ⟨0, 6⟩⟩, ⟨.identifier, "b", ⟨7, 1⟩⟩, ⟨.fromKey, "from", ⟨9, 4⟩⟩,
        ⟨.identifier, "v", ⟨14, 1⟩⟩, ⟨.whereKey, "where", ⟨16, 5⟩⟩, ⟨.identifier, "c", ⟨22, 1⟩⟩,
        ⟨.lessThan, "<", ⟨23, 1⟩⟩, ⟨.number, "7", ⟨24, 1⟩⟩], none⟩ := by
    decide +kernel
  have readThird : parseQuery "select b from v where c<7" = .ok third :=
    parseQuery_of_scan scannedThird
  have canonical : ∀ st ∈ [first, second, third], st.Canonical := by
    simp only [List.forall_mem_cons]
    exact ⟨canonical_of_parseQuery readFirst, canonical_of_parseQuery readSecond,
      canonical_of_parseQuery readThird, nofun⟩
  have blank : ∀ gap ∈ ["", "\n "], ∀ c ∈ gap.toList, isBlank c = true := by
    simp only [List.forall_mem_cons]
    exact ⟨nofun, List.all_eq_true.mp (by decide +kernel), nofun⟩
  have text : scriptText first [("", second), ("\n ", third)] =
      "SELECT * FROM t WHERE a = ';';SELECT  FROM u;\n SELECT b FROM v WHERE c < 7" := by
    decide +kernel
  have driven := drive_script first [("", second), ("\n ", third)] canonical blank
  rw [text] at driven
  exact ⟨canonical, blank, driven⟩

end SelectQuery
