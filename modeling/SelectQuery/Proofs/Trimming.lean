import Mathlib.Data.List.TakeWhile
import SelectQuery.Proofs.Canonical
import SelectQuery.Proofs.Relabel
import SelectQuery.Proofs.Shift
import SelectQuery.Session

/-!
# Texts without the blanks at their ends

A query is evaluated as it is, the content of a file without the blanks at its end, and a line of a
session without those at both ends. The three agree: the same statement is read each time, or the
same error is found, whose place moves with the text (`evaluation_trimmed`). For the text is scanned
alike but for the blanks (`scan_framed`), and the reading of a statement does not depend on where
its tokens stand. A session looks at a line before it is evaluated, but what it takes for a command
or for nothing is no statement.
-/

namespace SelectQuery

open Text

/-! ## Scanning a text with blanks around it -/

/-- The fault with as many characters more behind it: a string that nothing closes goes on over
    them. -/
def ScanFault.extend (more : Nat) : ScanFault → ScanFault
  | .unexpectedChar c position => .unexpectedChar c position
  | .unterminatedString position length => .unterminatedString position (length + more)

theorem quote_not_mem_of_blank {cs : List Char} (blank : ∀ c ∈ cs, isBlank c = true) :
    '\x27' ∉ cs := by
  intro member
  exact absurd (blank _ member) (by decide)

/-- Blanks behind a text lengthen a string that nothing closes, and nothing else. -/
theorem scan_append_blanks {tail : List Char} (blank : ∀ c ∈ tail, isBlank c = true)
    (position : Nat) (cs : List Char) :
    scan position (cs ++ tail) =
      ⟨(scan position cs).tokens, (scan position cs).fault.map (ScanFault.extend tail.length)⟩ := by
  obtain ⟨covered, left, split, tiled, stops⟩ := exists_tiles position cs
  generalize (scan position cs).tokens = tokens at tiled
  generalize (scan position cs).fault = fault at stops
  subst split
  rw [scan_eq_iff]
  cases stops with
  | atEnd =>
    have blanks : Tiles (position + covered.length) tail [] [] := .blanks blank
    have before : Tiles position covered (tail ++ []) tokens := by
      refine tiled.before fun t _ _ c first => ?_
      rw [List.append_nil] at first
      exact goesOn_of_isBlank t.kind (blank c (List.mem_of_mem_head? first))
    refine ⟨covered ++ tail, [], by simp, ?_, .atEnd⟩
    rw [← List.append_nil tokens]
    exact before.append blanks
  | @unterminated rest quoteless =>
    have noQuote : '\x27' ∉ rest ++ tail := by
      rw [List.mem_append, not_or]
      exact ⟨quoteless, quote_not_mem_of_blank blank⟩
    have length : (rest ++ tail).length + 1 = rest.length + 1 + tail.length := by
      rw [List.length_append, Nat.add_right_comm]
    have stops : Stops (position + covered.length) ('\x27' :: (rest ++ tail)) _ :=
      .unterminated noQuote
    rw [length] at stops
    exact ⟨covered, _, List.append_assoc covered _ tail, tiled.beforeHead, stops⟩
  | unexpected bad =>
    exact ⟨covered, _, List.append_assoc covered _ tail, tiled.beforeHead, .unexpected bad⟩

/-- Blanks in front of a text only move what is found in it. -/
theorem scan_blanks_append {lead : List Char} (blank : ∀ c ∈ lead, isBlank c = true)
    (position : Nat) (cs : List Char) :
    scan position (lead ++ cs) = (scan position cs).shift lead.length := by
  rw [scan_append (Tiles.blanks blank), scan_add]
  rfl

/-- Blanks around a text move what is found in it, and lengthen a string that nothing closes. -/
theorem scan_framed {lead tail : List Char} (blankLead : ∀ c ∈ lead, isBlank c = true)
    (blankTail : ∀ c ∈ tail, isBlank c = true) (cs : List Char) :
    scan 0 (lead ++ (cs ++ tail)) =
      ⟨(scan 0 cs).tokens.map (Token.shift lead.length),
        (scan 0 cs).fault.map fun fault => (fault.extend tail.length).shift lead.length⟩ := by
  rw [scan_blanks_append blankLead, scan_append_blanks blankTail, Scan.shift, Option.map_map]
  rfl

/-! ## A text and what is left of it -/

/-- The text `s'` is the text `s` without some of the blanks at its ends, `lead` of them in
    front. -/
def Trims (s s' : String) (lead : Nat) : Prop :=
  ∃ front tail, s.toList = front ++ (s'.toList ++ tail) ∧ front.length = lead ∧
    (∀ c ∈ front, isBlank c = true) ∧ ∀ c ∈ tail, isBlank c = true

theorem exists_dropEndBlanks (cs : List Char) :
    ∃ tail, cs = dropEndBlanks cs ++ tail ∧ ∀ c ∈ tail, isBlank c = true := by
  refine ⟨(cs.reverse.takeWhile isBlank).reverse, ?_, fun c member => ?_⟩
  · rw [dropEndBlanks, ← List.reverse_append, List.takeWhile_append_dropWhile, List.reverse_reverse]
  · exact all_of_mem_takeWhile cs.reverse c (List.mem_reverse.mp member)

theorem trims_trimEnd (s : String) : Trims s (trimEnd s) 0 := by
  obtain ⟨tail, split, blank⟩ := exists_dropEndBlanks s.toList
  refine ⟨[], tail, ?_, rfl, nofun, blank⟩
  rw [trimEnd, String.toList_ofList]
  exact split

/-- The blanks in front of a text that is not all blank are those of the text without the blanks at
    its end. -/
theorem takeWhile_isBlank_append {cs tail : List Char} (blank : ∀ c ∈ tail, isBlank c = true)
    (notAll : ¬∀ c ∈ cs ++ tail, isBlank c = true) :
    (cs ++ tail).takeWhile isBlank = cs.takeWhile isBlank := by
  rw [List.takeWhile_append, if_neg]
  intro whole
  have same := (List.takeWhile_prefix isBlank).eq_of_length whole
  exact notAll (List.forall_mem_append.mpr ⟨List.takeWhile_eq_self_iff.mp same, blank⟩)

theorem trims_trim (s : String) : Trims s (trim s) (s.toList.takeWhile isBlank).length := by
  obtain ⟨tail, split, blank⟩ := exists_dropEndBlanks s.toList
  have content : (trim s).toList = (dropEndBlanks s.toList).dropWhile isBlank :=
    String.toList_ofList
  by_cases all : ∀ c ∈ s.toList, isBlank c = true
  · have nothing : (trim s).toList = [] := by
      rw [content, List.dropWhile_eq_nil_iff]
      intro c member
      refine all c ?_
      rw [split]
      exact List.mem_append_left tail member
    refine ⟨s.toList, [], ?_, ?_, all, nofun⟩
    · rw [nothing, List.append_nil, List.append_nil]
    · rw [List.takeWhile_eq_self_iff.mpr all]
  · refine ⟨(dropEndBlanks s.toList).takeWhile isBlank, tail, ?_, ?_, all_of_mem_takeWhile _, blank⟩
    · rw [content, ← List.append_assoc, List.takeWhile_append_dropWhile]
      exact split
    · rw [split] at all
      rw [← takeWhile_isBlank_append blank all, ← split]

/-! ## The same error in another place -/

/-- The error is placed at the end of the text. -/
def QueryError.AtEnd (e : QueryError) : Prop :=
  e.code = .invalidWhereClause ∨ e.actual = some .endOfInput

/-- The error `e` of the text `s` is the error `e'` of the text `s'` that begins `lead` characters
    further on in it. -/
structure Corresponds (s s' : String) (lead : Nat) (e e' : QueryError) : Prop where
  code : e'.code = e.code
  expected : e'.expected = e.expected
  actual : e'.actual = e.actual
  /-- The end of a text is its own. -/
  atEnd : e.AtEnd → e.span = ⟨s.length, 0⟩ ∧ e'.span = ⟨s'.length, 0⟩
  start : ¬e.AtEnd → e.span.start = e'.span.start + lead
  /-- A string that nothing closes reaches to the end of its own text. -/
  unterminated : e.code = .unterminatedString →
    e.span.start + e.span.length = s.length ∧ e'.span.start + e'.span.length = s'.length
  length : ¬e.AtEnd → e.code ≠ .unterminatedString → e.span.length = e'.span.length

/-- The place in the text `s`, of which `n` characters were read, of a span in a text that begins
    `lead` characters further on in it. Only the end of a text has no characters. -/
def placeIn (n lead : Nat) (span : Span) : Span :=
  if span.length = 0 then ⟨n, 0⟩ else span.shift lead

/-- The tokens of a text are those of what is left of it, in another place. -/
theorem tokenize_of_trims {s s' : String} {lead : Nat} (trims : Trims s s' lead) {ts : List Token}
    (read : tokenize s' = .ok ts) :
    tokenize s = .ok (ts.map (Token.relabel id (placeIn s.length lead))) := by
  obtain ⟨front, tail, split, rfl, blankFront, blankTail⟩ := trims
  obtain ⟨tokens, tiled, rfl⟩ := tokenize_eq_ok_iff_tiles.mp read
  have moved : tokens.map (Token.relabel id (placeIn s.length front.length)) =
      tokens.map (Token.shift front.length) := by
    refine List.map_congr_left fun t member => ?_
    have nonempty := Nat.ne_of_gt (tiled.length_pos t member)
    simp [Token.relabel, Token.shift, placeIn, nonempty]
  have found := scan_framed blankFront blankTail s'.toList
  rw [← split, scan_eq_none_iff.mpr tiled] at found
  simp only [tokenize, found, List.map_append, moved]
  rfl

/-- The statement of a text is that of what is left of it. -/
theorem parseQuery_of_trims {s s' : String} {lead : Nat} (trims : Trims s s' lead)
    {st : Statement} (read : parseQuery s' = .ok st) : parseQuery s = .ok st := by
  obtain ⟨ts, tokenized, parsed⟩ := parseQuery_eq_ok_iff.mp read
  have nonempty : ts ≠ [] := by
    rintro rfl
    cases parsed
  have relabelled := (parseAt_relabel id (placeIn s.length lead) nonempty 0).1
  rw [show (parseAt ts 0).result = .ok st from parsed, relabelResult, Statement.relabel_id]
    at relabelled
  exact parseQuery_eq_ok_iff.mpr ⟨_, tokenize_of_trims trims tokenized, relabelled⟩

/-- A fault of a text is that of what is left of it. -/
theorem tokenize_error_of_trims {s s' : String} {lead : Nat} (trims : Trims s s' lead)
    {e' : QueryError} (failed : tokenize s' = .error e') :
    ∃ e, tokenize s = .error e ∧ Corresponds s s' lead e e' := by
  obtain ⟨front, tail, split, rfl, blankFront, blankTail⟩ := trims
  obtain ⟨covered, left, tokens, fault, split', tiled, stops, rfl⟩ :=
    tokenize_eq_error_iff_tiles.mp failed
  have scanned : scan 0 s'.toList = ⟨tokens, some fault⟩ :=
    scan_eq_iff.mpr ⟨covered, left, split', tiled, by rwa [Nat.zero_add]⟩
  have found := scan_framed blankFront blankTail s'.toList
  rw [← split, scanned] at found
  refine ⟨((fault.extend tail.length).shift front.length).error, by simp [tokenize, found], ?_⟩
  have length := congrArg List.length split
  have length' := congrArg List.length split'
  simp only [List.length_append, String.length_toList] at length length'
  cases stops with
  | @unterminated rest quoteless =>
    refine ⟨rfl, rfl, rfl, ?_, fun _ => rfl, fun _ => ?_, ?_⟩
    · rintro (other | other) <;> cases other
    · change covered.length + front.length + (rest.length + 1 + tail.length) = _ ∧
        covered.length + (rest.length + 1) = _
      simp only [List.length_cons] at length'
      omega
    · exact fun _ other => absurd rfl other
  | unexpected bad =>
    refine ⟨rfl, rfl, rfl, ?_, fun _ => rfl, ?_, fun _ _ => rfl⟩
    · rintro (other | other) <;> cases other
    · intro other
      cases other

/-- Of the tokens of a text only the one for its end has no characters. -/
theorem span_of_mem_tokenize {s : String} {ts : List Token} (read : tokenize s = .ok ts) {t : Token}
    (member : t ∈ ts) :
    t.kind = .endOfInput ∧ t.span = ⟨s.length, 0⟩ ∨ t.kind ≠ .endOfInput ∧ t.span.length ≠ 0 := by
  obtain ⟨tokens, tiled, rfl⟩ := tokenize_eq_ok_iff_tiles.mp read
  rcases List.mem_append.mp member with member | last
  · right
    exact ⟨kind_ne_endOfInput_of_tiles tiled t member, Nat.ne_of_gt (tiled.length_pos t member)⟩
  · left
    rw [List.mem_singleton.mp last]
    exact ⟨rfl, rfl⟩

/-- An error in the tokens of a text is that of what is left of it. -/
theorem parse_error_of_trims {s s' : String} {lead : Nat} (trims : Trims s s' lead)
    {ts : List Token} (read : tokenize s' = .ok ts) {e' : QueryError}
    (failed : parse ts = .error e') :
    ∃ e, parseQuery s = .error e ∧ Corresponds s s' lead e e' := by
  have ended : ∃ z ∈ ts.drop 0, z.kind = .endOfInput := by
    obtain ⟨tokens, -, rfl⟩ := tokenize_eq_ok_iff_tiles.mp read
    exact ⟨_, List.mem_append_right tokens (List.mem_singleton_self _), rfl⟩
  have nonempty : ts ≠ [] := by
    rintro rfl
    simp at ended
  have relabelled := (parseAt_relabel id (placeIn s.length lead) nonempty 0).1
  rw [show (parseAt ts 0).result = .error e' from failed] at relabelled
  obtain ⟨t, member, span, blamed⟩ := exists_blamed failed ended
  refine ⟨e'.relabel (placeIn s.length lead),
    parseQuery_eq_error_iff.mpr (Or.inr ⟨_, tokenize_of_trims trims read, relabelled⟩), ?_⟩
  have closed : e'.code ≠ .unterminatedString := by
    rcases blamed with ⟨code, -⟩ | ⟨code, -⟩ <;> rw [code] <;> exact nofun
  rcases span_of_mem_tokenize read member with ⟨isEnd, place⟩ | ⟨noEnd, place⟩
  · have atEnd : e'.AtEnd := by
      rcases blamed with ⟨-, actual⟩ | ⟨code, -⟩
      · exact Or.inr (actual.trans (congrArg some isEnd))
      · exact Or.inl code
    rw [place] at span
    refine ⟨rfl, rfl, rfl, fun _ => ⟨?_, span⟩, absurd atEnd, (absurd · closed), absurd atEnd⟩
    simp [QueryError.relabel, placeIn, span]
  · have inside : ¬e'.AtEnd := by
      rintro (code | actual)
      · rcases blamed with ⟨other, -⟩ | ⟨-, -, isEnd⟩
        · rw [code] at other
          cases other
        · exact noEnd isEnd
      · rcases blamed with ⟨-, other⟩ | ⟨-, other, -⟩
        · rw [actual, Option.some.injEq] at other
          exact noEnd other.symm
        · rw [actual] at other
          cases other
    rw [← span] at place
    have moved : placeIn s.length lead e'.span = e'.span.shift lead := if_neg place
    refine ⟨rfl, rfl, rfl, (absurd · inside), fun _ => ?_, (absurd · closed), fun _ _ => ?_⟩
    · exact congrArg Span.start moved
    · exact (congrArg Span.length moved).trans rfl

/-- An error of a text is that of what is left of it. -/
theorem parseQuery_error_of_trims {s s' : String} {lead : Nat} (trims : Trims s s' lead)
    {e' : QueryError} (failed : parseQuery s' = .error e') :
    ∃ e, parseQuery s = .error e ∧ Corresponds s s' lead e e' := by
  rcases parseQuery_eq_error_iff.mp failed with failed | ⟨ts, read, failed⟩
  · obtain ⟨e, failed, corresponds⟩ := tokenize_error_of_trims trims failed
    exact ⟨e, parseQuery_eq_error_iff.mpr (Or.inl failed), corresponds⟩
  · exact parse_error_of_trims trims read failed

/-- A text means what is left of it means. -/
theorem parseQuery_eq_ok_iff_of_trims {s s' : String} {lead : Nat} (trims : Trims s s' lead)
    {st : Statement} : parseQuery s = .ok st ↔ parseQuery s' = .ok st := by
  refine ⟨fun read => ?_, parseQuery_of_trims trims⟩
  cases read' : parseQuery s' with
  | ok st' => rw [← parseQuery_of_trims trims read', read]
  | error e' =>
    obtain ⟨e, failed, -⟩ := parseQuery_error_of_trims trims read'
    rw [read] at failed
    cases failed

/-- What is left of a text fails as the text does. -/
theorem exists_corresponds_of_trims {s s' : String} {lead : Nat} (trims : Trims s s' lead)
    {e : QueryError} (failed : parseQuery s = .error e) :
    ∃ e', parseQuery s' = .error e' ∧ Corresponds s s' lead e e' := by
  cases read' : parseQuery s' with
  | ok st' =>
    rw [parseQuery_of_trims trims read'] at failed
    cases failed
  | error e' =>
    obtain ⟨e'', failed', corresponds⟩ := parseQuery_error_of_trims trims read'
    rw [failed, Except.error.injEq] at failed'
    subst failed'
    exact ⟨e', rfl, corresponds⟩

/-! ## What a session evaluates -/

/-- An evaluation gives a statement exactly if the text means it. -/
theorem exists_evaluate_eq_statement_iff {showTokens : Bool} {s : String} {st : Statement} :
    (∃ tokens, evaluate showTokens s = .statement st tokens) ↔ parseQuery s = .ok st := by
  rw [parseQuery_eq_ok_iff]
  unfold evaluate
  cases tokenize s with
  | error e => simp
  | ok ts =>
    dsimp only
    cases parsed : parse ts with
    | error e => simp [parsed]
    | ok st' => simp [parsed]

/-- A text without characters lacks its first key. -/
theorem parseQuery_empty :
    parseQuery "" = .error ⟨.unexpectedToken, ⟨0, 0⟩, some .selectKey, some .endOfInput⟩ := by
  have scanned : scan 0 "".toList = ⟨[], none⟩ := scan_eq_none_iff.mpr .done
  exact parseQuery_of_scan scanned

/-- A text that begins with a character that starts no token means nothing. -/
theorem parseQuery_ne_ok_of_startsNoToken {s : String} {c : Char} (first : s.toList.head? = some c)
    (bad : StartsNoToken c) (st : Statement) : parseQuery s ≠ .ok st := by
  obtain ⟨rest, split⟩ := List.head?_eq_some_iff.mp first
  have failed : tokenize s = .error _ :=
    tokenize_eq_error_iff_tiles.mpr ⟨[], _, [], _, split, .done, .unexpected bad, rfl⟩
  rw [parseQuery_eq_error_iff.mpr (Or.inl failed)]
  exact nofun

/-- No command of a session is a statement. -/
theorem parseQuery_ne_ok_of_isCommand {line : String} (command : Session.isCommand line = true)
    (st : Statement) : parseQuery line ≠ .ok st := by
  simp only [Session.isCommand, Bool.or_eq_true, decide_eq_true_eq] at command
  rcases command with stop | rfl
  · exact parseQuery_ne_ok_of_startsNoToken stop (by decide +kernel) st
  · exact parseQuery_ne_ok_of_startsNoToken (c := '?') rfl (by decide +kernel) st

/-- A session answers a line with a statement exactly if the line means it. -/
theorem exists_respond_eq_statement_iff {showTokens : Bool} {s : String} {st : Statement} :
    (∃ tokens, Session.respond showTokens s = .evaluated (.statement st tokens)) ↔
      parseQuery s = .ok st := by
  rw [parseQuery_eq_ok_iff_of_trims (trims_trim s)]
  unfold Session.respond
  dsimp only
  generalize trim s = line
  by_cases nothing : line = ""
  · subst nothing
    simp [parseQuery_empty]
  · by_cases command : Session.isCommand line = true
    · have failed := parseQuery_ne_ok_of_isCommand command st
      rw [if_neg nothing, if_pos command]
      simp only [failed, iff_false, not_exists]
      intro tokens answered
      split at answered <;> cases answered
    · rw [if_neg nothing, if_neg command]
      simp only [Response.evaluated.injEq]
      exact exists_evaluate_eq_statement_iff

/-! ## Main result -/

/-- A text means the same as a query, as the content of a file and as a line of a session: each
    gives the statement that the text means, and where it means none, the same error is found in
    what is left of the text. -/
theorem evaluation_trimmed (s : String) (showTokens : Bool) :
    (∀ st, (parseQuery s = .ok st ↔ parseQuery (trimEnd s) = .ok st) ∧
      (parseQuery s = .ok st ↔ parseQuery (trim s) = .ok st) ∧
      (parseQuery s = .ok st ↔ ∃ tokens, evaluate showTokens s = .statement st tokens) ∧
      (parseQuery s = .ok st ↔ ∃ tokens, evaluate showTokens (trimEnd s) = .statement st tokens) ∧
      (parseQuery s = .ok st ↔
        ∃ tokens, Session.respond showTokens s = .evaluated (.statement st tokens))) ∧
    (∀ e, parseQuery s = .error e →
      (∃ e', parseQuery (trimEnd s) = .error e' ∧ Corresponds s (trimEnd s) 0 e e') ∧
      ∃ e', parseQuery (trim s) = .error e' ∧
        Corresponds s (trim s) (s.toList.takeWhile isBlank).length e e') := by
  refine ⟨fun st => ?_, fun e failed => ?_⟩
  · have file : parseQuery s = .ok st ↔ parseQuery (trimEnd s) = .ok st :=
      parseQuery_eq_ok_iff_of_trims (trims_trimEnd s)
    refine ⟨file, parseQuery_eq_ok_iff_of_trims (trims_trim s), ?_, ?_, ?_⟩
    · exact exists_evaluate_eq_statement_iff.symm
    · exact file.trans exists_evaluate_eq_statement_iff.symm
    · exact exists_respond_eq_statement_iff.symm
  · exact ⟨exists_corresponds_of_trims (trims_trimEnd s) failed,
      exists_corresponds_of_trims (trims_trim s) failed⟩

/-- A line of a session with blanks around it that breaks off, once in a string and once behind the
    key of a table. -/
theorem evaluation_trimmed_broken :
    parseQuery " select'x " = .error ⟨.unterminatedString, ⟨7, 3⟩, none, none⟩ ∧
      (∃ e', parseQuery (trimEnd " select'x ") = .error e' ∧
        Corresponds " select'x " (trimEnd " select'x ") 0
          ⟨.unterminatedString, ⟨7, 3⟩, none, none⟩ e') ∧
      (∃ e', parseQuery (trim " select'x ") = .error e' ∧
        Corresponds " select'x " (trim " select'x ") 1
          ⟨.unterminatedString, ⟨7, 3⟩, none, none⟩ e') ∧
    parseQuery " select from\t" =
        .error ⟨.unexpectedToken, ⟨13, 0⟩, some .identifier, some .endOfInput⟩ ∧
      ∃ e', parseQuery (trim " select from\t") = .error e' ∧
        Corresponds " select from\t" (trim " select from\t") 1
          ⟨.unexpectedToken, ⟨13, 0⟩, some .identifier, some .endOfInput⟩ e' := by
  have scanned : scan 0 " select'x ".toList =
      ⟨[⟨.selectKey, "select", ⟨1, 6⟩⟩], some (.unterminatedString 7 3)⟩ := by
    decide +kernel
  have opened : parseQuery " select'x " = .error ⟨.unterminatedString, ⟨7, 3⟩, none, none⟩ := by
    simp only [parseQuery, tokenize, scanned]
    rfl
  have scanned' : scan 0 " select from\t".toList =
      ⟨[⟨.selectKey, "select", ⟨1, 6⟩⟩, ⟨.fromKey, "from", ⟨8, 4⟩⟩], none⟩ := by
    decide +kernel
  have ended : parseQuery " select from\t" =
      .error ⟨.unexpectedToken, ⟨13, 0⟩, some .identifier, some .endOfInput⟩ :=
    parseQuery_of_scan scanned'
  obtain ⟨file, line⟩ := (evaluation_trimmed " select'x " true).2 _ opened
  obtain ⟨-, line'⟩ := (evaluation_trimmed " select from\t" true).2 _ ended
  exact ⟨opened, file, line, ended, line'⟩

end SelectQuery
