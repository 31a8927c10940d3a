/-!
The characters of YAML and a place in a text that is being read.
-/

namespace ProfileAudit.Yaml

/-! ## Characters -/

/-- A blank or a tabulator. -/
def isWhite (c : Char) : Bool := c == ' ' || c == '\t'

/-- A line break; there are five. -/
def isBreak (c : Char) : Bool :=
  c == '\n' || c == '\r' || c == '\x85' || c == '\u2028' || c == '\u2029'

/-- Characters of names: plain letters, digits, the underscore and the hyphen. -/
def isWord (c : Char) : Bool := c.isAlphanum || c == '_' || c == '-'

/-- Characters that a document may hold: no controls but tabulators and line breaks. -/
def isAllowed (c : Char) : Bool :=
  c == '\t' || c == '\n' || c == '\r' || (' ' ≤ c && c ≤ '~') || c == '\x85' ||
    ('\xa0' ≤ c && c ≤ '\ufffd') || '\uffff' < c

def byteOrderMark : Char := '\ufeff'

/-! ## Places -/

/-- The text that is still to be read, and how far its start is from the start of the
whole text and of the line. -/
structure Cursor where
  rest : List Char
  index : Nat := 0
  line : Nat := 0
  column : Nat := 0
  deriving Inhabited

namespace Cursor

def peek (c : Cursor) : Option Char := c.rest.head?

def peekAt (c : Cursor) (n : Nat) : Option Char := (c.rest.drop n).head?

/-- The character at some distance, if there is one, passes the test. -/
def has (c : Cursor) (n : Nat) (p : Char → Bool) : Bool := (c.peekAt n).any p

/-- At some distance there is white space, a line break or the end. -/
def gapAt (c : Cursor) (n : Nat) : Bool := (c.peekAt n).all fun c => isWhite c || isBreak c

/-- A line break or the end. -/
def atLineEnd (c : Cursor) : Bool := c.peek.all isBreak

def atEnd (c : Cursor) : Bool := c.rest.isEmpty

/-- Goes on by one character of the line. -/
def next (c : Cursor) : Cursor :=
  { c with rest := c.rest.tail, index := c.index + 1, column := c.column + 1 }

/-- Goes on by some characters of the line. -/
def skip (c : Cursor) (n : Nat) : Cursor :=
  { c with rest := c.rest.drop n, index := c.index + n, column := c.column + n }

/-- Goes on to the next line. A carriage return and a line feed are one break. -/
def nextLine (c : Cursor) : Cursor :=
  let n := match c.rest with
    | '\r' :: '\n' :: _ => 2
    | _ => 1
  { rest := c.rest.drop n, index := c.index + n, line := c.line + 1, column := 0 }

/-- The line break here as a text keeps it: all breaks within one page are the same. -/
def breakChar (c : Cursor) : Char :=
  match c.peek with
  | some '\u2028' => '\u2028'
  | some '\u2029' => '\u2029'
  | _ => '\n'

/-- The characters of the line that pass a test, and the place after them. -/
def takeWhile (c : Cursor) (p : Char → Bool) : List Char × Cursor :=
  let taken := c.rest.takeWhile p
  (taken, c.skip taken.length)

def skipWhile (c : Cursor) (p : Char → Bool) : Cursor := (c.takeWhile p).2

/-- Skips a comment, if one begins here. -/
def skipComment (c : Cursor) : Cursor :=
  if c.has 0 (· == '#') then c.skipWhile (!isBreak ·) else c

/-- A line begins here with three times this character and a gap. -/
def marks (c : Cursor) (mark : Char) : Bool :=
  c.column == 0 && c.has 0 (· == mark) && c.has 1 (· == mark) && c.has 2 (· == mark) && c.gapAt 3

/-- A mark between documents begins here. -/
def atDocumentMark (c : Cursor) : Bool := c.marks '-' || c.marks '.'

end Cursor

end ProfileAudit.Yaml
