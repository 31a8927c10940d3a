import ProfileAudit.Yaml.Token

/-!
The tokens of a text. Indentation opens and closes blocks, and a colon may show only
after a token that this token was a key: such a token is kept as a candidate until the
colon comes, a new line begins or the token is too far behind.
-/

namespace ProfileAudit.Yaml

/-- A token that may turn out to begin a key. One that stands where only a key may stand
is `required` to do so. -/
structure Candidate where
  required : Bool
  position : Nat
  start : Cursor

/-- A key ends on its line and within 1024 characters. -/
def Candidate.isStale (k : Candidate) (c : Cursor) : Bool :=
  decide (k.start.line < c.line) || decide (k.start.index + 1024 < c.index)

/-- What has been read of a text: the columns of the open blocks, inner ones first, the
candidate on the present level of brackets and those on the outer levels, and the tokens,
the last one first. -/
structure Layout where
  cursor : Cursor
  blocks : List Nat := []
  keyAllowed : Bool := true
  candidate : Option Candidate := none
  outer : List (Option Candidate) := []
  tokens : List Token := []

namespace Layout

/-- The place is between brackets. -/
def inFlow (l : Layout) : Bool := !l.outer.isEmpty

/-- The least column of what is nested in the innermost block. -/
def least (l : Layout) : Nat := (l.blocks.head?.map Nat.succ).getD 0

def put (l : Layout) (t : Token) : Layout := { l with tokens := t :: l.tokens }

/-- Puts a token before those from a position on. -/
def putAt (l : Layout) (position : Nat) (t : Token) : Layout :=
  let n := l.tokens.length - position
  { l with tokens := l.tokens.take n ++ t :: l.tokens.drop n }

/-- Goes on by `n` characters over a token. -/
def putOver (l : Layout) (n : Nat) (t : Token) : Layout :=
  { l with cursor := l.cursor.skip n, tokens := t :: l.tokens }

/-! ## Blocks -/

/-- Closes the blocks that begin at the column `least` or to the right of it. -/
def closeTo (least : Nat) : List Nat → Layout → Layout
  | [], l => { l with blocks := [] }
  | b :: bs, l =>
    if least ≤ b then closeTo least bs (l.put .blockEnd) else { l with blocks := b :: bs }

/-- Closes the blocks that begin to the right of the place. -/
def closeBlocks (l : Layout) : Layout :=
  if l.inFlow then l else closeTo (l.cursor.column + 1) l.blocks l

def closeAll (l : Layout) : Layout := if l.inFlow then l else closeTo 0 l.blocks l

/-- Opens a block at a column, unless the innermost block begins there already. -/
def openBlock (l : Layout) (column : Nat) (position : Nat) (t : Token) : Layout :=
  if !l.inFlow && decide (l.least ≤ column) then
    { l.putAt position t with blocks := column :: l.blocks }
  else l

/-! ## Candidates for keys -/

/-- Drops the candidate of the present level. -/
def forgetKey (l : Layout) : Option Layout :=
  if l.candidate.any (·.required) then none else some { l with candidate := none }

/-- Drops a candidate that is stale. -/
def freshKey (c : Cursor) : Option Candidate → Option (Option Candidate)
  | none => some none
  | some k => if !k.isStale c then some (some k) else if k.required then none else some none

/-- Drops the stale candidates of all levels. -/
def freshKeys (l : Layout) : Option Layout := do
  let candidate ← freshKey l.cursor l.candidate
  let outer ← l.outer.mapM (freshKey l.cursor)
  return { l with candidate, outer }

/-- Makes the next token a candidate where a key may stand. -/
def saveKey (l : Layout) : Option Layout :=
  if l.keyAllowed then do
    let required := !l.inFlow && l.blocks.head? == some l.cursor.column
    let l ← l.forgetKey
    return { l with candidate := some ⟨required, l.tokens.length, l.cursor⟩ }
  else some l

/-! ## Steps -/

/-- Skips white space, comments and line breaks. A tabulator is no white space where a key
may stand. -/
def toNextToken : Nat → Layout → Layout
  | 0, l => l
  | fuel + 1, l =>
    let c := l.cursor
    let c := if c.column == 0 && c.has 0 (· == byteOrderMark) then c.next else c
    let tabs := l.inFlow || !l.keyAllowed
    let c := (c.skipWhile fun d => d == ' ' || (tabs && d == '\t')).skipComment
    if c.has 0 isBreak then
      toNextToken fuel { l with cursor := c.nextLine, keyAllowed := l.keyAllowed || !l.inFlow }
    else { l with cursor := c }

/-- Ends what is open at the end of a document or before a directive. -/
def endDocument (l : Layout) : Option Layout := do
  return { ← l.closeAll.forgetKey with keyAllowed := false }

/-- Puts a token of known text that may begin a key, and where it ends. -/
def putText (l : Layout) (read : Cursor → Option (Token × Cursor)) : Option Layout := do
  let l ← l.saveKey
  let (token, cursor) ← read l.cursor
  return { l.put token with cursor, keyAllowed := false }

def openFlow (l : Layout) (t : Token) : Option Layout := do
  let l ← l.saveKey
  return { l.putOver 1 t with
    outer := l.candidate :: l.outer, candidate := none, keyAllowed := true }

def closeFlow (l : Layout) (t : Token) : Option Layout := do
  let l ← l.forgetKey
  return { l.putOver 1 t with
    outer := l.outer.tail, candidate := l.outer.head?.join, keyAllowed := false }

/-- Puts the mark of an entry, or that of a key that is not simple: it opens a block
unless it stands between brackets. -/
def openWith (l : Layout) (block mark : Token) (keyAllowed : Bool) : Option Layout := do
  if !l.inFlow && !l.keyAllowed then none
  let l ← (l.openBlock l.cursor.column l.tokens.length block).forgetKey
  return { l.putOver 1 mark with keyAllowed }

/-- Puts the mark of a value. What the candidate begins becomes its key. -/
def putValue (l : Layout) : Option Layout :=
  match l.candidate with
  | some k =>
    let l := (l.putAt k.position .key).openBlock k.start.column k.position .blockMapping
    some { l.putOver 1 .value with candidate := none, keyAllowed := false }
  | none => do
    if !l.inFlow && !l.keyAllowed then none
    let l := l.openBlock l.cursor.column l.tokens.length .blockMapping
    return { l.putOver 1 .value with keyAllowed := !l.inFlow }

/-- Puts a block scalar. -/
def putBlockScalar (l : Layout) (literal : Bool) : Option Layout := do
  let l ← l.forgetKey
  let (text, cursor) ← blockScalar literal l.least l.cursor.next
  return { l.put (.scalar (String.ofList text) .block) with cursor, keyAllowed := true }

/-- Puts a quoted scalar. -/
def putQuoted (l : Layout) (single : Bool) : Option Layout :=
  l.putText fun c => do
    let (text, c) ← quotedFrom single c.rest.length.succ c.next
    return (.scalar (String.ofList text) .quoted, c)

/-- A plain scalar may begin here. -/
def startsPlain (l : Layout) : Bool :=
  let c := l.cursor
  if c.gapAt 0 then false
  else if c.has 0 (· == '-') then !c.has 1 isWhite
  else if c.has 0 (fun d => d == '?' || d == ':') then !l.inFlow && !c.gapAt 1
  else !c.has 0 fun d => ",[]\x7b\x7d#&*!|>\x27\"%@\x60".toList.contains d

/-- Puts a plain scalar. A key may follow one that ended with its line. -/
def putPlain (l : Layout) : Option Layout := do
  let l ← l.saveKey
  let s ← plainFrom l.inFlow l.least l.cursor.rest.length.succ [] {} l.cursor
  return { l.put (.scalar (String.ofList s.text) .plain) with
    cursor := s.after, keyAllowed := s.broken }

/-- Puts the token that begins at a character of the line. -/
def putToken (l : Layout) (d : Char) : Option Layout :=
  let c := l.cursor
  let markEnds := l.inFlow || c.gapAt 1
  if c.column == 0 && d == '%' then do
    let l ← l.endDocument
    let (token, cursor) ← directive c.next
    return { l.put token with cursor }
  else if c.marks '-' then do return (← l.endDocument).putOver 3 .documentStart
  else if c.marks '.' then do return (← l.endDocument).putOver 3 .documentEnd
  else match d with
  | '[' => l.openFlow .flowSequence
  | '\x7b' => l.openFlow .flowMapping
  | ']' => l.closeFlow .flowSequenceEnd
  | '\x7d' => l.closeFlow .flowMappingEnd
  | ',' => do return { (← l.forgetKey).putOver 1 .flowEntry with keyAllowed := true }
  | '*' => l.putText fun c => do
    let (name, c) ← anchorName c.next
    return (.alias name, c)
  | '&' => l.putText fun c => do
    let (name, c) ← anchorName c.next
    return (.anchor name, c)
  | '!' => l.putText (tagToken l.inFlow)
  | '\x27' => l.putQuoted true
  | '"' => l.putQuoted false
  | _ =>
    if d == '-' && c.gapAt 1 then l.openWith .blockSequence .blockEntry true
    else if d == '?' && markEnds then l.openWith .blockMapping .key (!l.inFlow)
    else if d == ':' && markEnds then l.putValue
    else if (d == '|' || d == '>') && !l.inFlow then l.putBlockScalar (d == '|')
    else if l.startsPlain then l.putPlain
    else none

/-- Puts the next token. -/
def step (l : Layout) : Option Layout := do
  let l ← (toNextToken l.cursor.rest.length.succ l).freshKeys
  match l.closeBlocks.cursor.peek with
  | some d => l.closeBlocks.putToken d
  | none => return (← l.closeBlocks.endDocument).put .streamEnd

/-- Puts tokens up to the end of the text. -/
def run : Nat → Layout → Option (List Token)
  | 0, _ => none
  | fuel + 1, l => do
    let l ← l.step
    if l.tokens.head? == some .streamEnd then some l.tokens.reverse else run fuel l

end Layout

/-- The tokens of a text. -/
def Token.ofText? (text : String) : Option (List Token) :=
  let chars := text.toList
  if chars.all isAllowed then Layout.run (chars.length + 2) { cursor := { rest := chars } } else none

end ProfileAudit.Yaml
