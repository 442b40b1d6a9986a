import Mathlib.Order.Bounds.Defs
import SelectQuery.Table.Draw

/-!
# What is relied on of drawn tables

The program leaves it to others to draw its tables. What it relies on is said here: each character
of a frame takes one column of a terminal (`FrameWidths`), and a table is drawn with its columns as
wide as the widest lines in them (`AsciiLayout`). Tables as they are drawn at a terminal are of that
kind, whatever the widths of characters are (`asciiLayout_draw`).
-/

namespace SelectQuery

open Text

variable {charWidth : Char → Nat}

/-- The characters that a frame is made of take one column, and so does the space that fills up a
    cell. -/
structure FrameWidths (charWidth : Char → Nat) : Prop where
  space : charWidth ' ' = 1
  bar : charWidth '|' = 1
  corner : charWidth '+' = 1
  dash : charWidth '-' = 1

/-- The part is a piece of a cell in the column: what stands between line feeds of it. -/
def IsPiece (records : List Record) (column : Nat) (part : List Char) : Prop :=
  ∃ r ∈ records, ∃ cell : String, r[column]? = some cell ∧ part ∈ pieces cell.toList

/-- The widths of columns that hold the records: each column is as wide as the widest piece of a
    cell in it. -/
structure WidestPieces (charWidth : Char → Nat) (records : List Record) (ws : List Nat) :
    Prop where
  length : ∀ r ∈ records, ws.length = r.length
  widest : ∀ column w, ws[column]? = some w →
    IsGreatest {n | ∃ part, IsPiece records column part ∧ width charWidth part = n} w

/-- Tables with a cell for each column in every record are drawn in a frame, in columns as wide as
    their widest pieces. -/
structure AsciiLayout (charWidth : Char → Nat) (draw : Table → String) : Prop where
  drawn : ∀ (t : Table) (n : Nat), t.records ≠ [] → 0 < n → (∀ r ∈ t.records, r.length = n) →
    ∃ ws, WidestPieces charWidth t.records ws ∧ draw t = t.drawIn charWidth ws

namespace Table

variable {t : Table} {column n : Nat}

theorem mem_columnLines_iff {part : List Char} :
    part ∈ t.columnLines column ↔ IsPiece t.records column part := by
  simp [columnLines, cellLines, IsPiece]

theorem columnCount_eq (some : t.records ≠ []) (even : ∀ r ∈ t.records, r.length = n) :
    t.columnCount = n := by
  obtain ⟨records⟩ := t
  cases records with
  | nil => exact absurd rfl some
  | cons r later => exact even r List.mem_cons_self

/-- A column of a table with a record has a line, because no text is cut into no pieces. -/
theorem columnLines_ne_nil (some : t.records ≠ []) (even : ∀ r ∈ t.records, r.length = n)
    (inside : column < n) : t.columnLines column ≠ [] := by
  obtain ⟨r, member⟩ := List.exists_mem_of_ne_nil _ some
  have cell : column < r.length := by
    rwa [even r member]
  obtain ⟨part, inCell⟩ := List.exists_mem_of_ne_nil _ (pieces_ne_nil r[column].toList)
  exact List.ne_nil_of_mem
    (mem_columnLines_iff.mpr ⟨r, member, _, List.getElem?_eq_getElem cell, inCell⟩)

theorem isGreatest_columnWidth (some : t.columnLines column ≠ []) :
    IsGreatest {n | ∃ part, IsPiece t.records column part ∧ width charWidth part = n}
      (t.columnWidth charWidth column) := by
  simp only [← mem_columnLines_iff]
  unfold columnWidth
  cases greatest : ((t.columnLines column).map (width charWidth)).max? with
  | none => simp [some] at greatest
  | some w =>
    obtain ⟨reached, above⟩ := List.max?_eq_some_iff.mp greatest
    exact ⟨List.mem_map.mp reached, fun n among => above n (List.mem_map.mpr among)⟩

theorem widestPieces_columnWidths (some : t.records ≠ []) (even : ∀ r ∈ t.records, r.length = n) :
    WidestPieces charWidth t.records (t.columnWidths charWidth) := by
  have count := columnCount_eq some even
  constructor
  · intro r member
    rw [columnWidths, List.length_map, List.length_range, count, even r member]
  · intro column w found
    rw [columnWidths, List.getElem?_map, Option.map_eq_some_iff] at found
    obtain ⟨column', counted, rfl⟩ := found
    obtain ⟨inside, rfl⟩ := List.getElem?_eq_some_iff.mp counted
    rw [List.length_range, count] at inside
    rw [List.getElem_range]
    exact isGreatest_columnWidth (columnLines_ne_nil some even inside)

end Table

/-- At a terminal tables are drawn in columns as wide as their widest pieces. -/
theorem asciiLayout_draw (charWidth : Char → Nat) :
    AsciiLayout charWidth (Table.draw charWidth) :=
  ⟨fun _ _ some _ even => ⟨_, Table.widestPieces_columnWidths some even, rfl⟩⟩

end SelectQuery
