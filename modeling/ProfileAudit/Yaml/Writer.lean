import ProfileAudit.Yaml.Decode

/-!
Writing texts as the members of a document's outermost record. A text is written plain
where it reads back as itself, in single quotes where it has signs of the layout, in
double quotes where it has characters that cannot be printed, and as a literal block where
it has line feeds.
-/

namespace ProfileAudit.Yaml

/-- Characters that are written as they are. -/
def isPrintable (c : Char) : Bool :=
  c == '\n' || (' ' ≤ c && c ≤ '~') ||
    ('\xa0' ≤ c && c ≤ '\ufffd' && c != byteOrderMark) || '\uffff' < c

/-- White space, a line break or NUL. -/
def isGap (c : Char) : Bool := isWhite c || isBreak c || c == '\x00'

/-- Two characters stand side by side that pass the tests in order. -/
def hasPair (p q : Char → Bool) : List Char → Bool
  | a :: b :: cs => (p a && q b) || hasPair p q (b :: cs)
  | _ => false

/-- A sign of the layout stands at the beginning. -/
def beginsMark : List Char → Bool
  | '-' :: '-' :: '-' :: _ => true
  | '.' :: '.' :: '.' :: _ => true
  | c :: cs =>
    if c == '?' || c == ':' || c == '-' then cs.head?.all isGap
    else "#,[]\x7b\x7d&*!|>\x27\"%@\x60".toList.contains c
  | [] => false

/-- A plain scalar would end within the text: at a colon before a gap, or at a number sign
after one. -/
def breaksPlain (cs : List Char) : Bool :=
  hasPair (· == ':') isGap cs || cs.getLast? == some ':' || hasPair isGap (· == '#') cs

/-- A blank or a line break stands at one of the ends. -/
def edgeBlank (cs : List Char) : Bool :=
  cs.head?.any (fun c => c == ' ' || isBreak c) || cs.getLast?.any (fun c => c == ' ' || isBreak c)

/-- Only double quotes keep the text. -/
def needsEscape (cs : List Char) : Bool :=
  !cs.all isPrintable || hasPair (· == ' ') isBreak cs

/-- The text reads back as itself when it is plain. -/
def fitsPlain (s : String) : Bool :=
  let cs := s.toList
  let isText := match Plain.ofText s with
    | .text _ => !isPadded s
    | _ => false
  isText && !needsEscape cs && !edgeBlank cs && !cs.any isBreak && !beginsMark cs &&
    !breaksPlain cs

def fitsSingle (cs : List Char) : Bool := !needsEscape cs && !hasPair isBreak (· == ' ') cs

def fitsLiteral (cs : List Char) : Bool := !needsEscape cs && cs.getLast? != some ' '

/-! ## Styles -/

/-- The blanks before the lines of a scalar. -/
def scalarIndent : List Char := [' ', ' ']

/-- The text of a single-quoted scalar that has no line feed; `broken` says that a line
begins. -/
def singleQuoted (broken : Bool) : List Char → List Char
  | [] => if broken then scalarIndent else []
  | c :: cs =>
    if isBreak c then c :: singleQuoted true cs
    else
      let indent := if broken then scalarIndent else []
      let written := if c == '\x27' then ['\x27', '\x27'] else [c]
      indent ++ written ++ singleQuoted false cs

/-- A character of a double-quoted scalar. -/
def doubleQuotedChar (c : Char) : List Char :=
  if isPrintable c && !isBreak c && c != '"' && c != '\\' then [c]
  else '\\' :: match c with
    | '\x00' => ['0']
    | '\x07' => ['a']
    | '\x08' => ['b']
    | '\t' => ['t']
    | '\n' => ['n']
    | '\x0b' => ['v']
    | '\x0c' => ['f']
    | '\r' => ['r']
    | '\x1b' => ['e']
    | '"' => ['"']
    | '\\' => ['\\']
    | '\x85' => ['N']
    | '\u2028' => ['L']
    | '\u2029' => ['P']
    | c =>
      if c.toNat ≤ 0xff then 'x' :: Hex.digits 2 c.toNat
      else if c.toNat ≤ 0xffff then 'u' :: Hex.digits 4 c.toNat
      else 'U' :: Hex.digits 8 c.toNat

/-- The lines of a literal block; `broken` says that a line begins. -/
def literalLines (broken : Bool) : List Char → List Char
  | [] => []
  | c :: cs =>
    if isBreak c then c :: literalLines true cs
    else (if broken then scalarIndent else []) ++ c :: literalLines false cs

/-- The signs after the mark of a literal block: its indentation, if it does not show, and
what becomes of the line breaks at its end. -/
def literalHints (cs : List Char) : List Char :=
  let indent := if cs.head?.any fun c => c == ' ' || isBreak c then ['2'] else []
  let chomp := match cs.reverse with
    | c :: d :: _ => if !isBreak c then ['-'] else if isBreak d then ['+'] else []
    | [c] => if isBreak c then ['+'] else ['-']
    | [] => ['-']
  indent ++ chomp

/-- A text as a scalar. -/
def scalarText (s : String) : String :=
  let cs := s.toList
  let double := '"' :: cs.flatMap doubleQuotedChar ++ ['"']
  String.ofList <|
    if cs.contains '\n' then
      if fitsLiteral cs then '|' :: literalHints cs ++ '\n' :: literalLines true cs else double
    else if fitsPlain s then cs
    else if fitsSingle cs then '\x27' :: singleQuoted false cs ++ ['\x27']
    else double

/-- A text as the rest of a line; a block scalar may end its last line itself. -/
def scalarLine (s : String) : String :=
  let text := scalarText s
  if text.toList.getLast? == some '\n' then text else text ++ "\n"

end ProfileAudit.Yaml
