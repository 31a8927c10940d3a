import Mathlib
import ProfileAudit.Proofs.Text.Lines
import ProfileAudit.Report.Table

/-!
# What a table shows

Columns start at the same place in all lines, since every cell but the last one is padded to the
width of its column (`drop_start_cells`). So a line shows its row: cut where the columns start, each
of its pieces is a cell, but for blanks at the end (`shows_line`). That the blanks at the end of the
line are trimmed does no harm, and nor does it to extend the line again. A table without line breaks
in its cells has one line for each row (`render_aligned`).
-/

namespace ProfileAudit.Table

/-- The cell of a row in some column; a missing one is empty. -/
def cell (row : List String) (i : Nat) : String := row[i]?.getD ""

/-- The number of columns: there are cells for all of them in the longest row. -/
def columns (header : List String) (rows : List (List String)) : Nat :=
  ((header :: rows).map List.length).foldr max 0

/-- The number of characters of the widest cell in a column, the header being a row too. -/
def columnWidth (header : List String) (rows : List (List String)) (i : Nat) : Nat :=
  ((header :: rows).map fun row => (cell row i).length).foldr max 0

/-- Where a column starts: behind all columns before it, and the gap behind each of them. -/
def start (width : Nat → Nat) (i : Nat) : Nat := ((List.range i).map fun j => width j + gap).sum

/-- The piece of a line that belongs to a column: up to the start of the next one, if there is a
next one. -/
def piece (width : Nat → Nat) (columns i : Nat) (line : List Char) : List Char :=
  if i + 1 < columns then (line.drop (start width i)).take (width i + gap)
  else line.drop (start width i)

/-! ## Widths -/

theorem cell_succ (row : List String) (i : Nat) : cell row (i + 1) = cell row.tail i := by
  cases row <;> rfl

theorem cell_zero (row : List String) : cell row 0 = row.head?.getD "" := by
  cases row <;> rfl

theorem length_widest (vs ws : List Nat) : (widest vs ws).length = max vs.length ws.length := by
  fun_induction widest vs ws with
  | case1 ws => simp
  | case2 vs => simp
  | case3 v vs w ws ih =>
      simp only [List.length_cons, ih]
      omega

theorem getD_widest (vs ws : List Nat) (i : Nat) :
    (widest vs ws)[i]?.getD 0 = max (vs[i]?.getD 0) (ws[i]?.getD 0) := by
  fun_induction widest vs ws generalizing i with
  | case1 ws => simp
  | case2 vs => simp
  | case3 v vs w ws ih =>
      cases i with
      | zero => simp
      | succ i => simpa using ih i

theorem length_lengths (row : List String) : (lengths row).length = row.length := List.length_map _

theorem getD_lengths (row : List String) (i : Nat) :
    (lengths row)[i]?.getD 0 = (cell row i).length := by
  rw [lengths, cell, List.getElem?_map]
  cases row[i]? <;> rfl

/-- Taking in rows from the left, or from the right: the largest number is the same. -/
theorem foldl_max (ns : List Nat) (n : Nat) : ns.foldl max n = max n (ns.foldr max 0) := by
  induction ns generalizing n with
  | nil => simp
  | cons m ns ih =>
      rw [List.foldl_cons, ih, List.foldr_cons]
      omega

theorem length_widths (header : List String) (rows : List (List String)) :
    (widths header rows).length = columns header rows := by
  have folds (ws : List Nat) : (rows.foldl (fun ws row => widest ws (lengths row)) ws).length =
      (rows.map List.length).foldl max ws.length := by
    induction rows generalizing ws with
    | nil => rfl
    | cons row rows ih =>
        rw [List.foldl_cons, ih, length_widest, length_lengths]
        rfl
  rw [widths, folds, foldl_max, length_lengths]
  rfl

theorem getD_widths (header : List String) (rows : List (List String)) (i : Nat) :
    (widths header rows)[i]?.getD 0 = columnWidth header rows i := by
  have folds (ws : List Nat) :
      (rows.foldl (fun ws row => widest ws (lengths row)) ws)[i]?.getD 0 =
        (rows.map fun row => (cell row i).length).foldl max (ws[i]?.getD 0) := by
    induction rows generalizing ws with
    | nil => rfl
    | cons row rows ih =>
        rw [List.foldl_cons, ih, getD_widest, getD_lengths]
        rfl
  rw [widths, folds, foldl_max, getD_lengths]
  rfl

theorem le_foldr_max {ns : List Nat} {n : Nat} (member : n ∈ ns) : n ≤ ns.foldr max 0 := by
  induction ns with
  | nil => cases member
  | cons m ns ih =>
      rw [List.foldr_cons]
      rcases List.mem_cons.mp member with rfl | member
      · exact Nat.le_max_left _ _
      · exact (ih member).trans (Nat.le_max_right _ _)

theorem foldr_max_le {ns : List Nat} {n : Nat} (all : ∀ m ∈ ns, m ≤ n) : ns.foldr max 0 ≤ n := by
  induction ns with
  | nil => exact Nat.zero_le n
  | cons m ns ih =>
      obtain ⟨first, all⟩ := List.forall_mem_cons.mp all
      exact Nat.max_le.mpr ⟨first, ih all⟩

variable {header row : List String} {rows : List (List String)}

/-- A cell is not wider than its column. -/
theorem length_cell_le (listed : row ∈ header :: rows) (i : Nat) :
    (cell row i).length ≤ columnWidth header rows i :=
  le_foldr_max (List.mem_map_of_mem listed)

/-! ## Lines -/

/-- The cells of a row fit into columns of these widths. -/
def Fits (ws : List Nat) (row : List String) : Prop :=
  ∀ i, (cell row i).length ≤ ws[i]?.getD 0

theorem Fits.tail {w : Nat} {ws : List Nat} (fits : Fits (w :: ws) row) : Fits ws row.tail := by
  intro i
  have behind := fits (i + 1)
  rwa [cell_succ] at behind

theorem length_pad {width : Nat} {text : List Char} (fits : text.length ≤ width) :
    (pad width text).length = width := by
  rw [pad, List.length_append, List.length_replicate]
  omega

/-- A cell of a column that is not the last one takes the width of the column and the gap. -/
theorem Fits.length_pad {w : Nat} {ws : List Nat} (fits : Fits (w :: ws) row) :
    (pad (w + gap) (row.head?.getD "").toList).length = w + gap := by
  apply Table.length_pad
  have first := fits 0
  rw [cell_zero] at first
  exact first.trans (Nat.le_add_right w gap)

theorem start_succ (width : Nat → Nat) (i : Nat) :
    start width (i + 1) = width 0 + gap + start (fun j => width (j + 1)) i := by
  rw [start, List.range_succ_eq_map, List.map_cons, List.sum_cons, List.map_map]
  rfl

/-- Behind the columns before it, a column and those after it stand as if they were alone. -/
theorem drop_start_cells {ws : List Nat} (fits : Fits ws row) {i : Nat} (column : i < ws.length) :
    (cells ws row).drop (start (fun j => ws[j]?.getD 0) i) = cells (ws.drop i) (row.drop i) := by
  induction i generalizing ws row with
  | zero => rfl
  | succ i ih =>
      match ws, column with
      | [_], column => exact absurd column (by simp)
      | w :: v :: ws, column =>
          have inside : i < (v :: ws).length := Nat.lt_of_succ_lt_succ column
          have behind := ih fits.tail inside
          rw [start_succ, cells, List.drop_append]
          · simp only [List.getElem?_cons_zero, Option.getD_some, fits.length_pad]
            rw [List.drop_eq_nil_of_le (by rw [fits.length_pad]; omega), List.nil_append,
              Nat.add_sub_cancel_left]
            simpa using behind
          · simp

/-- The first piece of a line is the first cell, with the blanks behind it. -/
theorem trimEnd_cells {ws : List Nat} (fits : Fits ws row) (some : ws ≠ []) :
    Blank.trimEnd (if 1 < ws.length then (cells ws row).take (ws[0]?.getD 0 + gap)
      else cells ws row) = Blank.trimEnd (cell row 0).toList := by
  rw [cell_zero]
  match ws, some with
  | [w], _ => rfl
  | w :: v :: ws, _ =>
      rw [if_pos (by simp), cells]
      · simp only [List.getElem?_cons_zero, Option.getD_some]
        rw [List.take_append_of_le_length (Nat.le_of_eq fits.length_pad.symm),
          List.take_of_length_le (Nat.le_of_eq fits.length_pad), pad]
        apply Blank.trimEnd_append
        intro c member
        rw [List.eq_of_mem_replicate member]
        rfl
      · simp

theorem cell_drop (row : List String) (i j : Nat) : cell (row.drop i) j = cell row (i + j) := by
  rw [cell, cell, List.getElem?_drop]

theorem Fits.drop {ws : List Nat} (fits : Fits ws row) (i : Nat) :
    Fits (ws.drop i) (row.drop i) := by
  intro j
  rw [cell_drop, List.getElem?_drop]
  exact fits (i + j)

theorem trimEnd_piece_append {blanks : List Char} (blank : ∀ c ∈ blanks, isBlank c = true)
    (width : Nat → Nat) (columns i : Nat) (line : List Char) :
    Blank.trimEnd (piece width columns i (line ++ blanks)) =
      Blank.trimEnd (piece width columns i line) := by
  unfold piece
  split
  · exact Blank.trimEnd_take_drop_append blank line _ _
  · exact Blank.trimEnd_drop_append blank line _

/-- Cut where its columns start, a row that fits gives back its cells. -/
theorem Fits.trimEnd_piece {ws : List Nat} (fits : Fits ws row) {i : Nat} (column : i < ws.length) :
    Blank.trimEnd (piece (fun j => ws[j]?.getD 0) ws.length i (cells ws row)) =
      Blank.trimEnd (cell row i).toList := by
  have last : i + 1 < ws.length ↔ 1 < (ws.drop i).length := by
    rw [List.length_drop]
    omega
  have own : ws[i]?.getD 0 = (ws.drop i)[0]?.getD 0 := by rw [List.getElem?_drop, Nat.add_zero]
  have some : ws.drop i ≠ [] := List.ne_nil_of_length_pos (by rw [List.length_drop]; omega)
  have first := trimEnd_cells (fits.drop i) some
  rw [cell_drop, Nat.add_zero] at first
  simp only [piece, drop_start_cells fits column, last, own]
  exact first

/-- Cut where the columns start, a line has the cells of the row for its pieces, however many blanks
it is extended with, but for the blanks at the end of each of them. -/
def Shows (header : List String) (rows : List (List String)) (line : List Char)
    (row : List String) : Prop :=
  ∀ i < columns header rows, ∀ n,
    Blank.trimEnd (piece (columnWidth header rows) (columns header rows) i
      (line ++ List.replicate n ' ')) = Blank.trimEnd (cell row i).toList

/-- The characters of a line, without its end. -/
def lineText (header : List String) (rows : List (List String)) (row : List String) : List Char :=
  Blank.trimEnd (cells (widths header rows) row)

/-- **A line shows its row.** -/
theorem shows_line (listed : row ∈ header :: rows) :
    Shows header rows (lineText header rows row) row := by
  intro i column n
  have blank : ∀ c ∈ List.replicate n ' ', isBlank c = true := by
    intro c member
    rw [List.eq_of_mem_replicate member]
    rfl
  have fits : Fits (widths header rows) row := by
    intro j
    rw [getD_widths]
    exact length_cell_le listed j
  have widths_eq : columnWidth header rows = fun j => (widths header rows)[j]?.getD 0 :=
    funext fun j => (getD_widths header rows j).symm
  rw [← length_widths] at column ⊢
  rw [trimEnd_piece_append blank, widths_eq, ← fits.trimEnd_piece column]
  obtain ⟨trimmed, whole, blank⟩ := Blank.exists_trimmed (cells (widths header rows) row)
  calc Blank.trimEnd (piece _ _ i (lineText header rows row))
      = Blank.trimEnd (piece _ _ i (lineText header rows row ++ trimmed)) :=
        (trimEnd_piece_append blank _ _ _ _).symm
    _ = Blank.trimEnd (piece _ _ i (cells (widths header rows) row)) := by rw [lineText, ← whole]

/-! ## The whole table -/

/-- What stands on a line are characters of its row, and blanks. -/
theorem mem_cells {ws : List Nat} {c : Char} (member : c ∈ cells ws row) :
    c = ' ' ∨ ∃ text ∈ row, c ∈ text.toList := by
  have inHead {row : List String} (member : c ∈ (row.head?.getD "").toList) :
      ∃ text ∈ row, c ∈ text.toList := by
    cases row with
    | nil => cases member
    | cons text row => exact ⟨text, List.mem_cons_self, member⟩
  fun_induction cells ws row with
  | case1 row => cases member
  | case2 row w => exact .inr (inHead member)
  | case3 row w ws more ih =>
      rcases List.mem_append.mp member with first | behind
      · rcases List.mem_append.mp first with own | padding
        · exact .inr (inHead own)
        · exact .inl (List.eq_of_mem_replicate padding)
      · rcases ih behind with blank | ⟨text, listed, own⟩
        · exact .inl blank
        · exact .inr ⟨text, List.mem_of_mem_tail listed, own⟩

theorem toList_render (header : List String) (rows : List (List String)) :
    (render header rows).toList =
      ((header :: rows).map (lineText header rows)).flatMap (· ++ ['\n']) := by
  rw [render]
  simp only [String.toList_join, List.map_map, List.flatMap]
  congr 1
  refine List.map_congr_left fun row _ => ?_
  simp [line, lineText]

/-- The lines of a table, and those of what follows it. -/
theorem partsBetween_render {breaks : Char → Bool} (ends : LineBreaks breaks)
    (onOneLine : ∀ row ∈ header :: rows, ∀ text ∈ row, OnOneLine breaks text.toList)
    (t : List Char) :
    partsBetween breaks ((render header rows).toList ++ t) =
      (header :: rows).map (lineText header rows) ++ partsBetween breaks t := by
  rw [toList_render]
  apply partsBetween_ended ends
  intro line member c inLine
  obtain ⟨row, listed, rfl⟩ := List.mem_map.mp member
  rcases mem_cells (Blank.mem_of_mem_trimEnd inLine) with rfl | ⟨text, inRow, inText⟩
  · exact ends.space
  · exact onOneLine row listed text inRow c inText

/-- The lines of a table show its rows. -/
theorem forall₂_shows (header : List String) (rows : List (List String)) :
    List.Forall₂ (Shows header rows) ((header :: rows).map (lineText header rows))
      (header :: rows) := by
  rw [List.forall₂_map_left_iff]
  refine List.forall₂_same.mpr fun row listed => ?_
  exact shows_line listed

/-- A cell that can be printed in a table: on one line, and padded to a width that texts can be
padded to. -/
structure Printable (breaks : Char → Bool) (text : String) : Prop where
  line : OnOneLine breaks text.toList
  width : text.length + gap ≤ maxWidth

theorem printable_iff {breaks : Char → Bool} {text : String} : Printable breaks text ↔
    text.toList.all (!breaks ·) = true ∧ text.length + gap ≤ maxWidth := by
  rw [List.all_eq_true]
  constructor
  · rintro ⟨line, width⟩
    exact ⟨fun c member => by rw [line c member]; rfl, width⟩
  · rintro ⟨line, width⟩
    exact ⟨fun c member => (Bool.not_eq_true' _).mp (line c member), width⟩

instance (breaks : Char → Bool) (text : String) : Decidable (Printable breaks text) :=
  decidable_of_iff' _ printable_iff

/-- **Tables are aligned, and lose nothing.** No column is padded beyond the largest width there is,
and the text of the table has one line for each row, in order, the header being the first of them,
and nothing besides. Each line shows its row. -/
theorem render_aligned {breaks : Char → Bool} (ends : LineBreaks breaks) (header : List String)
    (rows : List (List String))
    (printable : ∀ row ∈ header :: rows, ∀ text ∈ row, Printable breaks text) :
    (∀ i, columnWidth header rows i + gap ≤ maxWidth) ∧
    ∃ lines : List (List Char),
      partsBetween breaks (render header rows).toList = lines ++ [[]] ∧
      List.Forall₂ (Shows header rows) lines (header :: rows) := by
  refine ⟨fun i => ?_, (header :: rows).map (lineText header rows), ?_, ?_⟩
  · have widest : columnWidth header rows i ≤ maxWidth - gap := by
      refine foldr_max_le fun n member => ?_
      obtain ⟨row, listed, rfl⟩ := List.mem_map.mp member
      rw [cell]
      cases given : row[i]? with
      | none => exact Nat.zero_le _
      | some text =>
          have fits := (printable row listed text (List.mem_of_getElem? given)).width
          exact Nat.le_sub_of_add_le fits
    exact Nat.add_le_of_le_sub (by decide) widest
  · have parts := partsBetween_render ends (fun row listed text inRow =>
      (printable row listed text inRow).line) []
    rw [List.append_nil] at parts
    rw [parts]
    rfl
  · exact forall₂_shows header rows

/-- A table whose rows are longer and shorter than its header. -/
theorem render_aligned_ragged :
    let header := ["METRIC", "ZÄHLER"]
    let rows := [["größe\t", "12", "more"], [], [" up"]]
    (∀ i, columnWidth header rows i + gap ≤ maxWidth) ∧
    ∃ lines : List (List Char),
      partsBetween (· == '\n') (render header rows).toList = lines ++ [[]] ∧
      List.Forall₂ (Shows header rows) lines (header :: rows) :=
  render_aligned ⟨rfl, rfl⟩ _ _ (by decide +kernel)

example : render ["METRIC", "ZÄHLER"] [["größe\t", "12", "more"], [], [" up"]] =
    "METRIC  ZÄHLER\ngröße\t  12      more\n\n up\n" := by
  decide +kernel

end ProfileAudit.Table
