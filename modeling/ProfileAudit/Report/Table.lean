import ProfileAudit.Text.Blank

/-!
Tables in columns. Every column but the last is as wide as its widest cell and two
blanks more; no line ends in blanks. A text cannot be padded to any width, so there are
tables that cannot be laid out.
-/

namespace ProfileAudit.Table

/-- The blanks between two columns. -/
def gap : Nat := 2

/-- The largest width that a text can be padded to. -/
def maxWidth : Nat := 65535

/-- The larger number at each place; places that only one list has are kept. -/
def widest : List Nat → List Nat → List Nat
  | [], ws => ws
  | vs, [] => vs
  | v :: vs, w :: ws => max v w :: widest vs ws

/-- The numbers of characters in the cells of a row. -/
def lengths (row : List String) : List Nat := row.map String.length

/-- The widths of the columns. -/
def widths (header : List String) (rows : List (List String)) : List Nat :=
  rows.foldl (fun ws row => widest ws (lengths row)) (lengths header)

/-- A cell with blanks up to a width. -/
def pad (width : Nat) (cell : List Char) : List Char :=
  cell ++ List.replicate (width - cell.length) ' '

/-- The cells of a row in columns of these widths. A missing cell is empty. -/
def cells : List Nat → List String → List Char
  | [], _ => []
  | [_], row => (row.head?.getD "").toList
  | w :: ws, row => pad (w + gap) (row.head?.getD "").toList ++ cells ws row.tail

/-- One line of a table. -/
def line (widths : List Nat) (row : List String) : String :=
  String.ofList (Blank.trimEnd (cells widths row)) ++ "\n"

/-- A table with its header. -/
def render (header : List String) (rows : List (List String)) : String :=
  let ws := widths header rows
  String.join ((header :: rows).map (line ws))

/-- The widths that cells are padded to: those of all columns but the last, with the gap. -/
def paddings (header : List String) (rows : List (List String)) : List Nat :=
  (widths header rows).dropLast.map (· + gap)

/-- The table can be laid out. -/
def laysOut (header : List String) (rows : List (List String)) : Bool :=
  (paddings header rows).all (decide <| · ≤ maxWidth)

/-- The table, if it can be laid out. Otherwise its header cannot be formatted, and the
program panics. -/
def generate? (header : List String) (rows : List (List String)) : Option String :=
  if laysOut header rows then some (render header rows) else none

end ProfileAudit.Table
