/-!
White space: which characters are blank, and the words and the end of a text that
follow from it.
-/

namespace ProfileAudit

namespace Blank

/-- The blank code points, as closed intervals. -/
def points : List (Nat × Nat) :=
  [(0x9, 0xd), (0x20, 0x20), (0x85, 0x85), (0xa0, 0xa0), (0x1680, 0x1680), (0x2000, 0x200a),
    (0x2028, 0x2029), (0x202f, 0x202f), (0x205f, 0x205f), (0x3000, 0x3000)]

end Blank

/-- White space: tabulators, line and page breaks, and blanks of every width. -/
def isBlank (c : Char) : Bool :=
  Blank.points.any fun (lo, hi) => decide (lo ≤ c.toNat) && decide (c.toNat ≤ hi)

namespace Blank

/-- A text without the blanks at its end. -/
def trimEnd (s : List Char) : List Char := (s.reverse.dropWhile isBlank).reverse

/-- A text of blanks alone. -/
def isAll (s : String) : Bool := s.toList.all isBlank

/-- The maximal runs of other characters: `word` is the run being read. -/
def wordsFrom (word : List Char) : List Char → List (List Char)
  | [] => if word.isEmpty then [] else [word.reverse]
  | c :: s =>
    if isBlank c then
      if word.isEmpty then wordsFrom [] s else word.reverse :: wordsFrom [] s
    else wordsFrom (c :: word) s

/-- The words of a text, on one line with one blank between them. -/
def onOneLine (s : String) : String :=
  " ".intercalate ((wordsFrom [] s.toList).map String.ofList)

end Blank

end ProfileAudit
