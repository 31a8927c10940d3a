import ProfileAudit.Text.Hex
import ProfileAudit.Yaml.Cursor

/-!
The tokens of YAML, and the reading of those that hold text: scalars in their five
styles, anchors, tags and directives. Reading fails as a whole, without a reason.
-/

namespace ProfileAudit.Yaml

/-- How a scalar is written. -/
inductive Style where
  | plain | quoted | block
  deriving DecidableEq, Inhabited

/-- A token. -/
inductive Token where
  | streamEnd
  | version (major minor : Nat)
  | tagDirective (handle start : String)
  | documentStart | documentEnd
  | blockSequence | blockMapping | blockEnd
  | flowSequence | flowSequenceEnd | flowMapping | flowMappingEnd
  | blockEntry | flowEntry | key | value
  | alias (name : String)
  | anchor (name : String)
  | tag (handle suffix : String)
  | scalar (text : String) (style : Style)
  deriving DecidableEq, Inhabited

/-! ## Gaps inside scalars -/

/-- White space and line breaks between two words of a scalar: whether there is a break,
the white space before it, the first break and the further ones. -/
structure Gap where
  broken : Bool := false
  white : List Char := []
  first : List Char := []
  further : List Char := []

namespace Gap

/-- What a gap stands for. A single break becomes a blank, and of several the first one
is left out. -/
def text (g : Gap) : List Char :=
  if g.broken then
    if g.first = ['\n'] then (if g.further.isEmpty then [' '] else g.further)
    else g.first ++ g.further
  else g.white

/-- Reads a gap. White space after a break is left out; in a plain scalar a tabulator
may not stand before the column `tabsFrom`. `fuel` is at least the length of the text. -/
def read (tabsFrom : Nat) : Nat → Gap → Cursor → Option (Gap × Cursor)
  | 0, g, c => some (g, c)
  | fuel + 1, g, c =>
    if c.has 0 isWhite then
      if g.broken && decide (c.column < tabsFrom) && c.has 0 (· == '\t') then none
      else if g.broken then read tabsFrom fuel g c.next
      else read tabsFrom fuel { g with white := g.white ++ c.peek.toList } c.next
    else if c.has 0 isBreak then
      if g.broken then
        read tabsFrom fuel { g with further := g.further ++ [c.breakChar] } c.nextLine
      else read tabsFrom fuel { broken := true, first := [c.breakChar] } c.nextLine
    else some (g, c)

end Gap

/-! ## Plain scalars -/

/-- Characters that end a plain scalar between brackets. -/
def isFlowMark (c : Char) : Bool :=
  c == ',' || c == '[' || c == ']' || c == '\x7b' || c == '\x7d'

/-- A word of a plain scalar ends here. -/
def endsPlain (inFlow : Bool) (c : Cursor) : Bool :=
  c.gapAt 0 || (c.has 0 (· == ':') && c.gapAt 1) || (inFlow && c.has 0 isFlowMark)

/-- Reads a word of a plain scalar. Between brackets a colon may not stand before another
mark. -/
def plainWord (inFlow : Bool) : Nat → Cursor → Option (List Char × Cursor)
  | 0, c => some ([], c)
  | fuel + 1, c =>
    if c.gapAt 0 then some ([], c)
    else if inFlow && c.has 0 (· == ':') && c.has 1 (fun d => isFlowMark d || d == '?') then none
    else if endsPlain inFlow c then some ([], c)
    else do
      let (word, rest) ← plainWord inFlow fuel c.next
      return (c.peek.toList ++ word, rest)

/-- What was read of a plain scalar: its text, the place after it, and whether that place
is on a later line. -/
structure PlainScalar where
  text : List Char
  after : Cursor
  broken : Bool

/-- Reads a plain scalar whose lines are indented by `indent` at least. -/
def plainFrom (inFlow : Bool) (indent : Nat) : Nat → List Char → Gap → Cursor → Option PlainScalar
  | 0, _, _, _ => none
  | fuel + 1, text, gap, c =>
    if c.atDocumentMark || c.has 0 (· == '#') then some ⟨text, c, gap.broken⟩
    else do
      let (word, c') ← plainWord inFlow c.rest.length.succ c
      let text := if word.isEmpty then text else text ++ gap.text ++ word
      let gap := if word.isEmpty then gap else {}
      if c'.gapAt 0 && !c'.atEnd then
        let (gap, after) ← Gap.read indent c'.rest.length.succ gap c'
        if !inFlow && decide (after.column < indent) then some ⟨text, after, gap.broken⟩
        else plainFrom inFlow indent fuel text gap after
      else some ⟨text, c', gap.broken⟩

/-! ## Quoted scalars -/

/-- The character of exactly `n` hexadecimal digits. -/
def escapedPoint (n : Nat) (c : Cursor) : Option (Char × Cursor) :=
  (Hex.readCharacter n c.rest).map fun (d, _) => (d, c.skip n)

/-- The character that a backslash and another character stand for. -/
def simpleEscape? : Char → Option Char
  | '0' => some '\x00'
  | 'a' => some '\x07'
  | 'b' => some '\x08'
  | 't' => some '\t'
  | '\t' => some '\t'
  | 'n' => some '\n'
  | 'v' => some '\x0b'
  | 'f' => some '\x0c'
  | 'r' => some '\r'
  | 'e' => some '\x1b'
  | ' ' => some ' '
  | '"' => some '"'
  | '/' => some '/'
  | '\\' => some '\\'
  | 'N' => some '\x85'
  | '_' => some '\xa0'
  | 'L' => some '\u2028'
  | 'P' => some '\u2029'
  | _ => none

/-- Reads an escape after its backslash. -/
def escape (c : Cursor) : Option (Char × Cursor) := do
  match ← c.peek with
  | 'x' => escapedPoint 2 c.next
  | 'u' => escapedPoint 4 c.next
  | 'U' => escapedPoint 8 c.next
  | e => return (← simpleEscape? e, c.next)

/-- Reads the characters of a quoted scalar up to a gap or its closing quote. A break
after a backslash begins a gap that stands for nothing. -/
def quotedWord (single : Bool) : Nat → Cursor → Option (List Char × Bool × Cursor)
  | 0, _ => none
  | fuel + 1, c =>
    if c.gapAt 0 then some ([], false, c)
    else
      let put := fun (d : Char) (c : Cursor) => do
        let (word, joined, rest) ← quotedWord single fuel c
        return (d :: word, joined, rest)
      if single then
        if c.has 0 (· == '\x27') then
          if c.has 1 (· == '\x27') then put '\x27' (c.skip 2) else some ([], false, c)
        else do put (← c.peek) c.next
      else if c.has 0 (· == '"') then some ([], false, c)
      else if c.has 0 (· == '\\') then
        if c.has 1 isBreak then some ([], true, c.next.nextLine)
        else do
          let (d, rest) ← escape c.next
          put d rest
      else do put (← c.peek) c.next

/-- Reads a quoted scalar after its opening quote. -/
def quotedFrom (single : Bool) : Nat → Cursor → Option (List Char × Cursor)
  | 0, _ => none
  | fuel + 1, c =>
    if c.atDocumentMark || c.atEnd then none
    else do
      let (word, joined, c) ← quotedWord single c.rest.length.succ c
      if c.has 0 (· == (if single then '\x27' else '"')) then some (word, c.next)
      else
        let (gap, c) ← Gap.read 0 c.rest.length.succ { broken := joined } c
        let (text, rest) ← quotedFrom single fuel c
        return (word ++ gap.text ++ text, rest)

/-! ## Block scalars -/

/-- What becomes of the line breaks at the end of a block scalar. -/
inductive Chomping where
  | strip | clip | keep
  deriving DecidableEq

/-- Reads the signs after the mark of a block scalar: its chomping and its indentation. -/
def blockHeader (c : Cursor) : Option (Chomping × Nat × Cursor) :=
  let chomping := fun (c : Cursor) =>
    if c.has 0 (· == '+') then (Chomping.keep, c.next)
    else if c.has 0 (· == '-') then (.strip, c.next)
    else (.clip, c)
  let indentation := fun (c : Cursor) =>
    match c.peek with
    | some '0' => none
    | some d => if d.isDigit then some (d.toNat - '0'.toNat, c.next) else some (0, c)
    | none => some (0, c)
  match chomping c with
  | (.clip, c) => do
    let (increment, c) ← indentation c
    if increment = 0 then return (.clip, 0, c)
    let (chomp, c) := chomping c
    return (chomp, increment, c)
  | (chomp, c) => do
    let (increment, c) ← indentation c
    return (chomp, increment, c)

/-- Skips indentation and reads line breaks. While `indent` is zero it is not known yet,
and every blank is indentation. The deepest column seen is returned. -/
def blockBreaks (indent : Nat) : Nat → Nat → Cursor → Option (List Char × Nat × Cursor)
  | 0, deepest, c => some ([], deepest, c)
  | fuel + 1, deepest, c =>
    let blanks := (c.rest.takeWhile (· == ' ')).length
    let c := c.skip (if indent = 0 then blanks else min blanks (indent - c.column))
    let deepest := max deepest c.column
    if (indent = 0 ∨ c.column < indent) ∧ c.has 0 (· == '\t') = true then none
    else if c.has 0 isBreak then do
      let (breaks, deepest, rest) ← blockBreaks indent fuel deepest c.nextLine
      return (c.breakChar :: breaks, deepest, rest)
    else some ([], deepest, c)

/-- The content of a block scalar as far as it is read: the text, the break after the
last line, the breaks after that, and whether the last line began with white space. -/
structure BlockText where
  text : List Char := []
  last : List Char := []
  breaks : List Char := []
  white : Bool := false

/-- Reads the lines of a block scalar. -/
def blockLines (literal : Bool) (indent : Nat) : Nat → BlockText → Cursor → Option (BlockText × Cursor)
  | 0, b, c => some (b, c)
  | fuel + 1, b, c =>
    if c.column ≠ indent ∨ c.atEnd = true then some (b, c)
    else
      let white := c.has 0 isWhite
      let join :=
        if !literal && b.last == ['\n'] && !b.white && !white then
          if b.breaks.isEmpty then [' '] else []
        else b.last
      let (line, c) := c.takeWhile (!isBreak ·)
      let text := b.text ++ join ++ b.breaks ++ line
      if c.atEnd then some (⟨text, [], [], white⟩, c)
      else do
        let (breaks, _, rest) ← blockBreaks indent c.rest.length.succ 0 c.nextLine
        blockLines literal indent fuel ⟨text, [c.breakChar], breaks, white⟩ rest

/-- Reads a block scalar after its mark, where nested content begins at the column `least`
or to the right of it. -/
def blockScalar (literal : Bool) (least : Nat) (c : Cursor) : Option (List Char × Cursor) := do
  let (chomping, increment, c) ← blockHeader c
  let c := (c.skipWhile isWhite).skipComment
  if !c.atLineEnd then none
  let c := if c.atEnd then c else c.nextLine
  let given := if increment = 0 then 0 else least - 1 + increment
  let (breaks, deepest, c) ← blockBreaks given c.rest.length.succ 0 c
  let indent := if given = 0 then max (max deepest least) 1 else given
  let (b, c) ← blockLines literal indent c.rest.length.succ { breaks } c
  let text := match chomping with
    | .strip => b.text
    | .clip => b.text ++ b.last
    | .keep => b.text ++ b.last ++ b.breaks
  return (text, c)

/-! ## Anchors and tags -/

/-- Reads the name of an anchor or alias after its mark. -/
def anchorName (c : Cursor) : Option (String × Cursor) :=
  let (name, c) := c.takeWhile isWord
  if name.isEmpty then none
  else if c.gapAt 0 || c.has 0 (fun d => "?:,]\x7d%@\x60".toList.contains d) then
    some (String.ofList name, c)
  else none

/-- The number of bytes of a character by its first one, and the value of a continuation. -/
def byteWidth (n : Nat) : Nat :=
  if n < 0x80 then 1
  else if n / 0x20 = 6 then 2
  else if n / 0x10 = 14 then 3
  else if n / 8 = 30 then 4
  else 0

/-- Reads one byte written with a per cent sign. -/
def escapedByte (c : Cursor) : Option (Nat × Cursor) :=
  match c.rest with
  | '%' :: a :: b :: _ => (Hex.value? [a, b]).map (·, c.skip 3)
  | _ => none

/-- Reads further bytes of a character. -/
def escapedBytes : Nat → Nat → Cursor → Option (Nat × Cursor)
  | 0, value, c => some (value, c)
  | n + 1, value, c => do
    let (byte, c) ← escapedByte c
    if byte / 0x40 = 2 then escapedBytes n (value * 0x40 + byte % 0x40) c else none

/-- Reads a character written as bytes with per cent signs. -/
def uriEscape (c : Cursor) : Option (Char × Cursor) := do
  let (byte, c) ← escapedByte c
  let width := byteWidth byte
  if width = 0 then none
  let head := if width = 1 then byte else byte % Nat.pow 2 (7 - width)
  let (value, c) ← escapedBytes (width - 1) head c
  return (Char.ofNat value, c)

/-- Characters of the names of tags. -/
def isUriChar (verbatim : Bool) (c : Char) : Bool :=
  isWord c || ";/?:@&=+$.!~*\x27()".toList.contains c || (verbatim && (c == ',' || c == '[' || c == ']'))

/-- Reads the name of a tag. -/
def uriFrom (verbatim : Bool) : Nat → Cursor → Option (List Char × Cursor)
  | 0, c => some ([], c)
  | fuel + 1, c =>
    if c.has 0 (· == '%') then do
      let (d, c) ← uriEscape c
      let (name, rest) ← uriFrom verbatim fuel c
      return (d :: name, rest)
    else if c.has 0 (isUriChar verbatim) then do
      let (name, rest) ← uriFrom verbatim fuel c.next
      return (c.peek.toList ++ name, rest)
    else some ([], c)

/-- Reads a name that is not empty together with what was read before it. -/
def uri (verbatim : Bool) (before : List Char) (c : Cursor) : Option (List Char × Cursor) := do
  let (name, rest) ← uriFrom verbatim c.rest.length.succ c
  if name.isEmpty && before.isEmpty then none else some (before.drop 1 ++ name, rest)

/-- Reads the handle of a tag with its exclamation marks. -/
def tagHandle (c : Cursor) : Option (List Char × Cursor) :=
  if c.has 0 (· == '!') then
    let (name, c) := c.next.takeWhile isWord
    if c.has 0 (· == '!') then some ('!' :: name ++ ['!'], c.next) else some ('!' :: name, c)
  else none

/-- Reads a tag at its exclamation mark. -/
def tagToken (inFlow : Bool) (c : Cursor) : Option (Token × Cursor) := do
  let (handle, suffix, c) ←
    if c.has 1 (· == '<') then do
      let (name, c) ← uri true [] (c.skip 2)
      if c.has 0 (· == '>') then some ([], name, c.next) else none
    else do
      let (handle, c) ← tagHandle c
      if handle.length > 1 && handle.getLast? == some '!' then
        let (name, c) ← uri false [] c
        some (handle, name, c)
      else
        let (name, c) ← uri false handle c
        if name.isEmpty then some ([], ['!'], c) else some (['!'], name, c)
  if c.gapAt 0 || (inFlow && c.has 0 (· == ',')) then
    some (.tag (String.ofList handle) (String.ofList suffix), c)
  else none

/-! ## Directives -/

/-- Reads a number of at most nine digits. -/
def versionNumber (c : Cursor) : Option (Nat × Cursor) :=
  let (digits, c) := c.takeWhile Char.isDigit
  if digits.isEmpty ∨ digits.length > 9 then none
  else some (digits.foldl (fun v d => v * 10 + (d.toNat - '0'.toNat)) 0, c)

/-- Reads a directive after its per cent sign, with its line. -/
def directive (c : Cursor) : Option (Token × Cursor) := do
  let (name, c) := c.takeWhile isWord
  if name.isEmpty || !c.gapAt 0 then none
  let (token, c) ← match String.ofList name with
    | "YAML" => do
      let (major, c) ← versionNumber (c.skipWhile isWhite)
      if !c.has 0 (· == '.') then none
      let (minor, c) ← versionNumber c.next
      some (Token.version major minor, c)
    | "TAG" => do
      let (handle, c) ← tagHandle (c.skipWhile isWhite)
      if handle.length > 1 && handle.getLast? != some '!' then none
      if !c.has 0 isWhite then none
      let (start, c) ← uri true [] (c.skipWhile isWhite)
      if !c.gapAt 0 then none
      some (.tagDirective (String.ofList handle) (String.ofList start), c)
    | _ => none
  let c := (c.skipWhile isWhite).skipComment
  if c.atLineEnd then some (token, if c.atEnd then c else c.nextLine) else none

end ProfileAudit.Yaml
