import Mathlib.Data.List.Forall2
import SelectQuery.Proofs.Drawing
import SelectQuery.Proofs.Pointing
import SelectQuery.Terminal

/-!
# Tables are rectangular

A table is a rectangle whatever the texts of its cells are: all its lines have one width, and each
record takes as many lines as its highest cell has pieces. `ShowsParts` says what one line shows and
`ShowsRecord` what the lines of one record do; a table whose columns have room for all of its cells
(`Fits`) has the lines of every record at their place (`Tabulates`). The main result says so of the
tables of tokens and of statements for any drawing in columns as wide as they have to be, with the
heights of records counted in the line feeds of the cells that may have some (`tables_rectangular`).
-/

namespace SelectQuery

open Text

variable {charWidth : Char → Nat}

/-! ## What is shown -/

/-- What a cell has on the line of its record with that number: one of its pieces, or nothing behind
    the last of them. -/
def cellPart (cell : String) (i : Nat) : List Char :=
  (pieces cell.toList)[i]?.getD []

/-- The line shows the parts in columns of the widths. A bar and a space stand before each part, and
    nothing but spaces behind it: those that fill the column and one more. -/
inductive ShowsParts (charWidth : Char → Nat) :
    List Nat → List (List Char) → List Char → Prop
  | done : ShowsParts charWidth [] [] ['|']
  | column {w gap : Nat} {ws : List Nat} {part line : List Char} {parts : List (List Char)} :
      width charWidth part + gap = w → ShowsParts charWidth ws parts line →
      ShowsParts charWidth (w :: ws) (part :: parts)
        ('|' :: ' ' :: (part ++ (List.replicate (gap + 1) ' ' ++ line)))

/-- The lines show a record of that height: each has the parts that belong on it. -/
structure ShowsRecord (charWidth : Char → Nat) (ws : List Nat) (r : Record) (height : Nat)
    (lines : List (List Char)) : Prop where
  length : lines.length = height
  parts : ∀ i line, lines[i]? = some line → ShowsParts charWidth ws (r.map (cellPart · i)) line

/-- How wide the lines of a table with columns of the widths are. -/
def frameWidth : List Nat → Nat
  | [] => 1
  | w :: ws => w + 3 + frameWidth ws

/-! ## One line -/

theorem ShowsParts.width_eq (frame : FrameWidths charWidth) {ws : List Nat}
    {parts : List (List Char)} {line : List Char} (shown : ShowsParts charWidth ws parts line) :
    width charWidth line = frameWidth ws := by
  induction shown with
  | done => simp only [width_cons, width_nil, frame.bar, frameWidth]
  | column filled _ ih =>
    simp only [width_cons, width_append, width_replicate, frame.bar, frame.space, ih, frameWidth]
    omega

theorem ShowsParts.feed_not_mem {ws : List Nat} {parts : List (List Char)} {line : List Char}
    (shown : ShowsParts charWidth ws parts line) (single : ∀ part ∈ parts, '\n' ∉ part) :
    '\n' ∉ line := by
  induction shown with
  | done => decide
  | column _ _ ih =>
    obtain ⟨first, later⟩ := List.forall_mem_cons.mp single
    simp [first, ih later]

theorem width_separator (frame : FrameWidths charWidth) (ws : List Nat) :
    width charWidth (Table.separator ws) = frameWidth ws := by
  induction ws with
  | nil =>
    simp only [Table.separator, List.flatMap_nil, width_cons, width_nil, frame.corner, frameWidth]
  | cons w ws ih =>
    simp only [Table.separator, List.flatMap_cons, width_cons, width_append, width_replicate,
      frame.dash, frame.corner, width_nil, frameWidth] at ih ⊢
    omega

theorem feed_not_mem_separator (ws : List Nat) : '\n' ∉ Table.separator ws := by
  simp [Table.separator]

/-- A line of a record shows its parts if each has room in its column. -/
theorem showsParts_recordLine {ws : List Nat} {parts : List (List Char)}
    (room : List.Forall₂ (fun w part => width charWidth part ≤ w) ws parts) :
    ShowsParts charWidth ws parts (Table.recordLine charWidth ws parts) := by
  induction room with
  | nil => exact .done
  | @cons w part ws parts fits _ ih =>
    have filled : width charWidth part + (w - width charWidth part) = w := Nat.add_sub_of_le fits
    have line := ShowsParts.column filled ih
    simpa [Table.recordLine, padTo, List.replicate_succ'] using line

/-! ## Columns -/

/-- The cells of the record have room in columns of the widths. -/
def Fits (charWidth : Char → Nat) (ws : List Nat) (r : Record) : Prop :=
  List.Forall₂ (fun w cell => ∀ part ∈ pieces cell.toList, width charWidth part ≤ w) ws r

/-- In columns as wide as the widest pieces all pieces have room. -/
theorem WidestPieces.fits {records : List Record} {ws : List Nat}
    (widest : WidestPieces charWidth records ws) : ∀ r ∈ records, Fits charWidth ws r := by
  intro r member
  refine List.forall₂_iff_get.mpr ⟨widest.length r member, fun column inside inRecord => ?_⟩
  intro part inCell
  obtain ⟨-, above⟩ := widest.widest column _ (List.getElem?_eq_getElem inside)
  exact above ⟨part, ⟨r, member, _, List.getElem?_eq_getElem inRecord, inCell⟩, rfl⟩

/-- What a cell has on a line is one of its pieces, or nothing. -/
theorem cellPart_cases (cell : String) (i : Nat) :
    cellPart cell i ∈ pieces cell.toList ∨ cellPart cell i = [] := by
  unfold cellPart
  cases piece : (pieces cell.toList)[i]? with
  | none => exact Or.inr rfl
  | some part => exact Or.inl (List.mem_of_getElem? piece)

theorem feed_not_mem_cellPart (cell : String) (i : Nat) : '\n' ∉ cellPart cell i := by
  rcases cellPart_cases cell i with piece | nothing
  · exact not_mem_of_mem_pieces _ _ piece
  · rw [nothing]
    exact List.not_mem_nil

theorem Fits.room {ws : List Nat} {r : Record} (fits : Fits charWidth ws r) (i : Nat) :
    List.Forall₂ (fun w part => width charWidth part ≤ w) ws (r.map (cellPart · i)) := by
  rw [List.forall₂_map_right_iff]
  refine List.Forall₂.imp (fun w cell room => ?_) fits
  rcases cellPart_cases cell i with piece | nothing
  · exact room _ piece
  · rw [nothing]
    exact Nat.zero_le w

/-! ## All lines -/

/-- A line of a record is made of the parts of its cells. -/
theorem recordLines_eq (ws : List Nat) (r : Record) :
    Table.recordLines charWidth ws r = (List.range (Table.recordHeight r)).map fun i =>
      Table.recordLine charWidth ws (r.map (cellPart · i)) := by
  have parts (i : Nat) : ((r.map Table.cellLines).map fun lines => lines.getD i []) =
      r.map (cellPart · i) := by
    simp [Table.cellLines, cellPart]
  simp only [Table.recordLines, parts]

theorem showsRecord_recordLines {ws : List Nat} {r : Record} (fits : Fits charWidth ws r) :
    ShowsRecord charWidth ws r (Table.recordHeight r) (Table.recordLines charWidth ws r) := by
  rw [recordLines_eq]
  constructor
  · simp
  · intro i line found
    rw [List.getElem?_map, Option.map_eq_some_iff] at found
    obtain ⟨j, counted, rfl⟩ := found
    obtain ⟨inside, same⟩ := List.getElem?_eq_some_iff.mp counted
    rw [List.getElem_range] at same
    subst same
    exact showsParts_recordLine (fits.room i)

/-- How many lines the records take, with the rule below each. -/
def ruledHeight : List Record → Nat
  | [] => 0
  | r :: later => Table.recordHeight r + 1 + ruledHeight later

/-- The lines of the records, with the rule below each. -/
def ruledLines (charWidth : Char → Nat) (ws : List Nat) (rs : List Record) : List (List Char) :=
  rs.flatMap fun r => Table.recordLines charWidth ws r ++ [Table.separator ws]

theorem length_recordLines (ws : List Nat) (r : Record) :
    (Table.recordLines charWidth ws r).length = Table.recordHeight r := by
  simp [Table.recordLines]

theorem length_ruledLines (ws : List Nat) (rs : List Record) :
    (ruledLines charWidth ws rs).length = ruledHeight rs := by
  induction rs with
  | nil => rfl
  | cons r rs ih =>
    rw [ruledLines, List.flatMap_cons, List.length_append, List.length_append, length_recordLines,
      ← ruledLines, ih]
    rfl

variable {t : Table} {ws : List Nat}

theorem lines_eq_ruledLines (t : Table) (ws : List Nat) :
    t.lines charWidth ws = Table.separator ws :: ruledLines charWidth ws t.records :=
  rfl

theorem length_lines (t : Table) (ws : List Nat) :
    (t.lines charWidth ws).length = 1 + ruledHeight t.records := by
  rw [lines_eq_ruledLines, List.length_cons, length_ruledLines, Nat.add_comm]

/-- The lines of a record stand behind those of the records before it. -/
theorem take_drop_lines {i : Nat} {r : Record} (found : t.records[i]? = some r) :
    ((t.lines charWidth ws).drop (1 + ruledHeight (t.records.take i))).take
      (Table.recordHeight r) = Table.recordLines charWidth ws r := by
  obtain ⟨inside, rfl⟩ := List.getElem?_eq_some_iff.mp found
  have split : ruledLines charWidth ws t.records =
      ruledLines charWidth ws (t.records.take i) ++
        (Table.recordLines charWidth ws t.records[i] ++ Table.separator ws ::
          ruledLines charWidth ws (t.records.drop (i + 1))) := by
    conv_lhs => rw [← List.take_append_drop i t.records, List.drop_eq_getElem_cons inside]
    simp only [ruledLines, List.flatMap_append, List.flatMap_cons, List.append_assoc,
      List.singleton_append]
  rw [lines_eq_ruledLines, Nat.add_comm, List.drop_succ_cons, split,
    List.drop_left' (length_ruledLines _ _), List.take_left' (length_recordLines _ _)]

theorem mem_lines_iff {line : List Char} :
    line ∈ t.lines charWidth ws ↔ line = Table.separator ws ∨
      ∃ r ∈ t.records, line ∈ Table.recordLines charWidth ws r := by
  simp only [lines_eq_ruledLines, ruledLines, List.mem_cons, List.mem_flatMap, List.mem_append,
    List.not_mem_nil, or_false]
  constructor
  · rintro (rule | ⟨r, member, inside | rule⟩)
    · exact Or.inl rule
    · exact Or.inr ⟨r, member, inside⟩
    · exact Or.inl rule
  · rintro (rule | ⟨r, member, inside⟩)
    · exact Or.inl rule
    · exact Or.inr ⟨r, member, Or.inl inside⟩

/-- A line of a table is a rule, or shows the parts of a record. -/
theorem cases_of_mem_lines (fits : ∀ r ∈ t.records, Fits charWidth ws r) {line : List Char}
    (member : line ∈ t.lines charWidth ws) :
    line = Table.separator ws ∨
      ∃ r ∈ t.records, ∃ i, ShowsParts charWidth ws (r.map (cellPart · i)) line := by
  rcases mem_lines_iff.mp member with rule | ⟨r, inTable, inRecord⟩
  · exact Or.inl rule
  · obtain ⟨i, found⟩ := List.mem_iff_getElem?.mp inRecord
    exact Or.inr ⟨r, inTable, i, (showsRecord_recordLines (fits r inTable)).parts i line found⟩

/-- A table as text is cut into its lines, because none of them has a line feed. -/
theorem pieces_drawIn (fits : ∀ r ∈ t.records, Fits charWidth ws r) :
    pieces (t.drawIn charWidth ws).toList = t.lines charWidth ws := by
  have single : ∀ part ∈ (t.lines charWidth ws).map String.ofList, '\n' ∉ part.toList := by
    intro part member
    obtain ⟨line, inTable, rfl⟩ := List.mem_map.mp member
    rw [String.toList_ofList]
    rcases cases_of_mem_lines fits inTable with rfl | ⟨r, -, i, shown⟩
    · exact feed_not_mem_separator _
    · apply shown.feed_not_mem
      intro part ofCell
      obtain ⟨cell, -, rfl⟩ := List.mem_map.mp ofCell
      exact feed_not_mem_cellPart cell i
  rw [Table.drawIn, pieces_intercalate (by simp [Table.lines]) single]
  simp

/-- The lines are those of a table of the records: equally wide, with the lines of each record at
    their place. -/
structure Tabulates (charWidth : Char → Nat) (records : List Record) (ws : List Nat)
    (lines : List (List Char)) : Prop where
  even : ∀ line ∈ lines, width charWidth line = frameWidth ws
  length : lines.length = 1 + ruledHeight records
  shown : ∀ i r, records[i]? = some r → ShowsRecord charWidth ws r (Table.recordHeight r)
    ((lines.drop (1 + ruledHeight (records.take i))).take (Table.recordHeight r))

theorem tabulates_lines (frame : FrameWidths charWidth)
    (fits : ∀ r ∈ t.records, Fits charWidth ws r) :
    Tabulates charWidth t.records ws (t.lines charWidth ws) := by
  constructor
  · intro line member
    rcases cases_of_mem_lines fits member with rfl | ⟨_, -, _, shown⟩
    · exact width_separator frame ws
    · exact shown.width_eq frame
  · exact length_lines t ws
  · intro i r found
    rw [take_drop_lines found]
    exact showsRecord_recordLines (fits r (List.mem_of_getElem? found))

/-- A drawn table is cut into its lines in columns that have room for all of its cells. -/
theorem AsciiLayout.exists_fits {draw : Table → String} (layout : AsciiLayout charWidth draw)
    {n : Nat} (some : t.records ≠ []) (columns : 0 < n)
    (even : ∀ r ∈ t.records, r.length = n) :
    ∃ ws, (∀ r ∈ t.records, Fits charWidth ws r) ∧
      pieces (draw t).toList = t.lines charWidth ws := by
  obtain ⟨ws, widest, drawn⟩ := layout.drawn t n some columns even
  refine ⟨ws, widest.fits, ?_⟩
  rw [drawn]
  exact pieces_drawIn widest.fits

/-! ## Tables of tokens -/

/-- How many lines records take, with the rule below each, if these are their cells with the most
    line feeds. -/
def heightWithRules : List String → Nat
  | [] => 0
  | cell :: later => 2 + cell.toList.count '\n' + heightWithRules later

/-- The lines are a table of the tokens: a head, and below it a record of each token in order, which
    goes on over as many lines as the text of the token. -/
structure TokenTable (charWidth : Char → Nat) (ts : List Token) (ws : List Nat)
    (lines : List (List Char)) : Prop where
  even : ∀ line ∈ lines, width charWidth line = frameWidth ws
  length : lines.length = 3 + heightWithRules (ts.map Token.text)
  head : ShowsRecord charWidth ws ["kind", "text", "start", "length"] 1 ((lines.drop 1).take 1)
  record : ∀ i t, ts[i]? = some t →
    ShowsRecord charWidth ws
      [t.kind.name, t.text, toString t.span.start, toString t.span.length]
      (t.text.toList.count '\n' + 1)
      ((lines.drop (3 + heightWithRules ((ts.take i).map Token.text))).take
        (t.text.toList.count '\n' + 1))

theorem ruledHeight_map {α : Type} {record : α → Record} {highest : α → String}
    {items : List α}
    (heights : ∀ a ∈ items, Table.recordHeight (record a) = (highest a).toList.count '\n' + 1) :
    ruledHeight (items.map record) = heightWithRules (items.map highest) := by
  induction items with
  | nil => rfl
  | cons a items ih =>
    obtain ⟨first, later⟩ := List.forall_mem_cons.mp heights
    simp only [List.map_cons, ruledHeight, heightWithRules, first, ih later]
    omega

theorem length_cellLines_of_single {cell : String} (single : '\n' ∉ cell.toList) :
    (Table.cellLines cell).length = 1 := by
  rw [Table.cellLines, length_pieces, List.count_eq_zero.mpr single]

/-- A record is as high as its second cell if the others are single lines. -/
theorem recordHeight_of_single {name cell : String} {others : List String}
    (single : '\n' ∉ name.toList) (singles : ∀ other ∈ others, '\n' ∉ other.toList) :
    Table.recordHeight (name :: cell :: others) = cell.toList.count '\n' + 1 := by
  have least : (others.map fun cell => (Table.cellLines cell).length).foldr max 1 = 1 := by
    induction others with
    | nil => rfl
    | cons other others ih =>
      obtain ⟨first, later⟩ := List.forall_mem_cons.mp singles
      simp [length_cellLines_of_single first, ih later]
  have second : (Table.cellLines cell).length = cell.toList.count '\n' + 1 := length_pieces _
  simp only [Table.recordHeight, List.map_cons, List.foldr_cons, least, second,
    length_cellLines_of_single single]
  omega

theorem feed_not_mem_number (n : Nat) : '\n' ∉ (toString n).toList := by
  simpa using not_mem_toDigits (c := '\n') rfl n

theorem recordHeight_tokenRecord (t : Token) :
    Table.recordHeight (Table.tokenRecord t) = t.text.toList.count '\n' + 1 := by
  have name : '\n' ∉ t.kind.name.toList := by
    cases t.kind <;> decide
  apply recordHeight_of_single name
  simp only [List.forall_mem_cons]
  exact ⟨feed_not_mem_number _, feed_not_mem_number _, nofun⟩

theorem tokenTable_lines (frame : FrameWidths charWidth) {ts : List Token}
    (fits : ∀ r ∈ (Table.ofTokens ts).records, Fits charWidth ws r) :
    TokenTable charWidth ts ws ((Table.ofTokens ts).lines charWidth ws) := by
  have drawn : Tabulates charWidth (["kind", "text", "start", "length"] :: ts.map Table.tokenRecord)
      ws ((Table.ofTokens ts).lines charWidth ws) := tabulates_lines frame fits
  have head : Table.recordHeight ["kind", "text", "start", "length"] = 1 := by decide
  constructor
  · exact drawn.even
  · rw [drawn.length, ruledHeight, head, ruledHeight_map fun t _ => recordHeight_tokenRecord t]
    omega
  · exact drawn.shown 0 _ rfl
  · intro i t found
    have shown := drawn.shown (i + 1) (Table.tokenRecord t) (by simp [found])
    have above : 1 + (1 + 1 + heightWithRules ((ts.take i).map Token.text)) =
        3 + heightWithRules ((ts.take i).map Token.text) := by
      omega
    rwa [List.take_succ_cons, ruledHeight, head, ← List.map_take,
      ruledHeight_map fun t _ => recordHeight_tokenRecord t, recordHeight_tokenRecord,
      above] at shown

theorem length_of_mem_ofTokens (ts : List Token) :
    ∀ r ∈ (Table.ofTokens ts).records, r.length = 4 := by
  simp [Table.ofTokens, Table.tokenRecord]

/-! ## Tables of statements -/

/-- The parts of a statement, each with its name. -/
def Statement.cells (st : Statement) : List (String × String) :=
  ("columns", st.columnsDisplay) :: ("table", st.table) ::
    (st.condition.map fun c => ("where", c.display)).toList

/-- The lines are a table of the parts of the statement, with a record of a condition exactly if it
    has one. -/
structure StatementTable (charWidth : Char → Nat) (st : Statement) (ws : List Nat)
    (lines : List (List Char)) : Prop where
  even : ∀ line ∈ lines, width charWidth line = frameWidth ws
  length : lines.length = 1 + heightWithRules (st.cells.map Prod.snd)
  record : ∀ i name cell, st.cells[i]? = some (name, cell) →
    ShowsRecord charWidth ws [name, cell] (cell.toList.count '\n' + 1)
      ((lines.drop (1 + heightWithRules ((st.cells.take i).map Prod.snd))).take
        (cell.toList.count '\n' + 1))
  condition : (∃ line ∈ lines, "| where ".toList <+: line) ↔ st.condition ≠ none

theorem records_ofStatement (st : Statement) :
    (Table.ofStatement st).records = st.cells.map fun c => [c.1, c.2] := by
  obtain ⟨columns, table, condition⟩ := st
  cases condition <;> rfl

theorem length_of_mem_ofStatement (st : Statement) :
    ∀ r ∈ (Table.ofStatement st).records, r.length = 2 := by
  rw [records_ofStatement]
  exact List.forall_mem_map.mpr fun _ _ => rfl

/-- The names of the parts of a statement. -/
theorem name_of_mem_cells {st : Statement} {name cell : String} (member : (name, cell) ∈ st.cells) :
    name = "columns" ∨ name = "table" ∨ name = "where" ∧ st.condition ≠ none := by
  obtain ⟨columns, table, condition⟩ := st
  cases condition with
  | none =>
    simp only [Statement.cells, Option.map_none, Option.toList_none, List.mem_cons, Prod.mk.injEq,
      List.not_mem_nil, or_false] at member
    rcases member with ⟨rfl, -⟩ | ⟨rfl, -⟩ <;> simp
  | some c =>
    simp only [Statement.cells, Option.map_some, Option.toList_some, List.mem_cons, Prod.mk.injEq,
      List.not_mem_nil, or_false] at member
    rcases member with ⟨rfl, -⟩ | ⟨rfl, -⟩ | ⟨rfl, -⟩ <;> simp

theorem recordHeight_of_mem_cells {st : Statement} {c : String × String} (member : c ∈ st.cells) :
    Table.recordHeight [c.1, c.2] = c.2.toList.count '\n' + 1 := by
  refine recordHeight_of_single ?_ nofun
  rcases name_of_mem_cells member with name | name | ⟨name, -⟩ <;> rw [name] <;> decide

/-- A line of a record starts with the name of a condition if it is the first of a record of one. -/
theorem where_prefix_iff {name cell : String} {i : Nat} {line : List Char}
    (named : name = "columns" ∨ name = "table" ∨ name = "where")
    (shown : ShowsParts charWidth ws [cellPart name i, cellPart cell i] line) :
    "| where ".toList <+: line ↔ name = "where" ∧ i = 0 := by
  cases shown with
  | @column w gap ws part line parts filled later =>
    -- On the first line of a record its name stands, and on the others nothing does.
    cases i with
    | zero => rcases named with rfl | rfl | rfl <;> simp [cellPart, pieces, List.replicate_succ]
    | succ i => rcases named with rfl | rfl | rfl <;> simp [cellPart, pieces, List.replicate_succ]

/-- A line starts with the name of a condition in a table of a statement that has one, and in no
    other. -/
theorem exists_where_iff {st : Statement}
    (fits : ∀ r ∈ (Table.ofStatement st).records, Fits charWidth ws r) :
    (∃ line ∈ (Table.ofStatement st).lines charWidth ws, "| where ".toList <+: line) ↔
      st.condition ≠ none := by
  constructor
  · rintro ⟨line, member, starts⟩
    rcases cases_of_mem_lines fits member with rfl | ⟨r, inTable, i, shown⟩
    · simp [Table.separator] at starts
    · rw [records_ofStatement] at inTable
      obtain ⟨⟨name, cell⟩, inCells, rfl⟩ := List.mem_map.mp inTable
      rcases name_of_mem_cells inCells with named | named | ⟨-, condition⟩
      · have isWhere := (where_prefix_iff (Or.inl named) shown).mp starts
        simp [named] at isWhere
      · have isWhere := (where_prefix_iff (Or.inr (Or.inl named)) shown).mp starts
        simp [named] at isWhere
      · exact condition
  · intro has
    obtain ⟨c, condition⟩ := Option.ne_none_iff_exists'.mp has
    have inTable : ["where", c.display] ∈ (Table.ofStatement st).records := by
      simp [records_ofStatement, Statement.cells, condition]
    have shows := showsRecord_recordLines (fits _ inTable)
    have height : Table.recordHeight ["where", c.display] = c.display.toList.count '\n' + 1 :=
      recordHeight_of_single (by decide) nofun
    have first : 0 < (Table.recordLines charWidth ws ["where", c.display]).length := by
      rw [shows.length, height]
      exact Nat.succ_pos _
    refine ⟨_, mem_lines_iff.mpr (Or.inr ⟨_, inTable, List.getElem_mem first⟩), ?_⟩
    have shown := shows.parts 0 _ (List.getElem?_eq_getElem first)
    exact (where_prefix_iff (Or.inr (Or.inr rfl)) shown).mpr ⟨rfl, rfl⟩

theorem statementTable_lines (frame : FrameWidths charWidth) {st : Statement}
    (fits : ∀ r ∈ (Table.ofStatement st).records, Fits charWidth ws r) :
    StatementTable charWidth st ws ((Table.ofStatement st).lines charWidth ws) := by
  have drawn : Tabulates charWidth (Table.ofStatement st).records ws
      ((Table.ofStatement st).lines charWidth ws) := tabulates_lines frame fits
  rw [records_ofStatement] at drawn
  constructor
  · exact drawn.even
  · rw [drawn.length, ruledHeight_map fun c member => recordHeight_of_mem_cells member]
  · intro i name cell found
    have shown := drawn.shown i [name, cell] (by simp [found])
    rwa [← List.map_take, ruledHeight_map fun c member =>
      recordHeight_of_mem_cells (List.mem_of_mem_take member),
      recordHeight_of_mem_cells (List.mem_of_getElem? found)] at shown
  · exact exists_where_iff fits

/-! ## Main result -/

/-- Tables are rectangular and hold what they are made of, whatever the texts of their cells are and
    however wide characters are, if only they are drawn in columns as wide as they have to be. -/
theorem tables_rectangular (charWidth : Char → Nat) (draw : Table → String)
    (frame : FrameWidths charWidth) (layout : AsciiLayout charWidth draw) :
    (∀ ts, ∃ ws, TokenTable charWidth ts ws (pieces (draw (Table.ofTokens ts)).toList)) ∧
      ∀ st, ∃ ws,
        StatementTable charWidth st ws (pieces (draw (Table.ofStatement st)).toList) := by
  constructor
  · intro ts
    obtain ⟨ws, fits, cut⟩ :=
      layout.exists_fits (List.cons_ne_nil _ _) (by decide) (length_of_mem_ofTokens ts)
    exact ⟨ws, cut ▸ tokenTable_lines frame fits⟩
  · intro st
    obtain ⟨ws, fits, cut⟩ :=
      layout.exists_fits (List.cons_ne_nil _ _) (by decide) (length_of_mem_ofStatement st)
    exact ⟨ws, cut ▸ statementTable_lines frame fits⟩

/-- A string with a wide character, a line feed and a mark that takes no column, drawn as at a
    terminal. -/
theorem tables_rectangular_wide :
    let ts : List Token := [⟨.stringLiteral, "字\ne\u0301", ⟨0, 6⟩⟩, ⟨.endOfInput, "", ⟨6, 0⟩⟩]
    let st : Statement := ⟨["id", "n"], "t", some ⟨"n", .equal, .string "字\ne\u0301"⟩⟩
    FrameWidths Text.charWidth ∧ AsciiLayout Text.charWidth drawTable ∧
    drawTable (Table.ofTokens ts) = "\n".intercalate
      ["+---------------+------+-------+--------+",
        "| kind          | text | start | length |",
        "+---------------+------+-------+--------+",
        "| StringLiteral | 字   | 0     | 6      |",
        "|               | e\u0301    |       |        |",
        "+---------------+------+-------+--------+",
        "| EndOfInput    |      | 6     | 0      |",
        "+---------------+------+-------+--------+"] ∧
    drawTable (Table.ofStatement st) = "\n".intercalate
      ["+---------+---------+",
        "| columns | id, n   |",
        "+---------+---------+",
        "| table   | t       |",
        "+---------+---------+",
        "| where   | n = '字 |",
        "|         | e\u0301'      |",
        "+---------+---------+"] ∧
    (∃ ws, TokenTable Text.charWidth ts ws (pieces (drawTable (Table.ofTokens ts)).toList)) ∧
    ∃ ws, StatementTable Text.charWidth st ws
      (pieces (drawTable (Table.ofStatement st)).toList) := by
  intro ts st
  have frame : FrameWidths Text.charWidth := by
    constructor <;> decide +kernel
  have layout : AsciiLayout Text.charWidth drawTable := asciiLayout_draw Text.charWidth
  have tokenWidths : (Table.ofTokens ts).columnWidths Text.charWidth = [13, 4, 5, 6] := by
    decide +kernel
  have statementWidths : (Table.ofStatement st).columnWidths Text.charWidth = [7, 7] := by
    decide +kernel
  obtain ⟨tokenTables, statementTables⟩ := tables_rectangular _ _ frame layout
  refine ⟨frame, layout, ?_, ?_, tokenTables ts, statementTables st⟩
  · rw [drawTable, Table.draw, tokenWidths]
    exact congrArg "\n".intercalate (by decide +kernel)
  · rw [drawTable, Table.draw, statementWidths]
    exact congrArg "\n".intercalate (by decide +kernel)

end SelectQuery
