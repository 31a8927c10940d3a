import ProfileAudit.Text.Hex

/-!
Flat TOML documents: lines of a key and a value, which is a text or a whole number, with
comments and empty lines between them. Documents with tables, arrays and other values are
refused, and so is a key that is given twice.
-/

namespace ProfileAudit.Toml

/-- A value. -/
inductive Value where
  | text (s : String)
  | integer (n : Int)
  deriving DecidableEq, Inhabited

/-- A reader of a part of a document: what it read, and the rest. -/
abbrev Reader (α : Type) := List Char → Option (α × List Char)

/-! ## Characters -/

def isWhite (c : Char) : Bool := c == ' ' || c == '\t'

/-- Characters of a line: no controls but the tabulator. -/
def isInline (c : Char) : Bool := c == '\t' || (' ' ≤ c && c ≤ '~') || '\x7f' < c

/-- Characters of a key without quotes. -/
def isKeyChar (c : Char) : Bool := c.isAlphanum || c == '_' || c == '-'

def skipWhite (s : List Char) : List Char := s.dropWhile isWhite

/-- Takes a line break off a text. -/
def newline? : List Char → Option (List Char)
  | '\n' :: s => some s
  | '\r' :: '\n' :: s => some s
  | _ => none

/-! ## Texts -/

/-- Reads an escape after its backslash. -/
def escape : Reader Char
  | 'b' :: s => some ('\x08', s)
  | 't' :: s => some ('\t', s)
  | 'n' :: s => some ('\n', s)
  | 'f' :: s => some ('\x0c', s)
  | 'r' :: s => some ('\r', s)
  | 'e' :: s => some ('\x1b', s)
  | '"' :: s => some ('"', s)
  | '\\' :: s => some ('\\', s)
  | 'x' :: s => Hex.readCharacter 2 s
  | 'u' :: s => Hex.readCharacter 4 s
  | 'U' :: s => Hex.readCharacter 8 s
  | _ => none

/-- Skips white space and line breaks. -/
def skipLines : Nat → List Char → List Char
  | 0, s => s
  | fuel + 1, s =>
    let s := skipWhite s
    match newline? s with
    | some rest => skipLines fuel rest
    | none => s

/-- Reads a text on one line after its opening quote. A literal text has no escapes. -/
def shortText (quote : Char) (literal : Bool) : Nat → Reader (List Char)
  | 0, _ => none
  | fuel + 1, s =>
    match s with
    | [] => none
    | c :: s =>
      if c = quote then some ([], s)
      else if c = '\\' ∧ literal = false then do
        let (d, s) ← escape s
        let (cs, s) ← shortText quote literal fuel s
        return (d :: cs, s)
      else if isInline c then do
        let (cs, s) ← shortText quote literal fuel s
        return (c :: cs, s)
      else none

/-- Reads a text on several lines after its opening quotes. One or two quotes are part of
the text, also before the three that close it; a backslash at the end of a line joins the
lines. -/
def longText (quote : Char) (literal : Bool) : Nat → Reader (List Char)
  | 0, _ => none
  | fuel + 1, s =>
    let quotes := (s.takeWhile (· == quote)).length
    if 3 ≤ quotes then
      if quotes ≤ 5 then some (List.replicate (quotes - 3) quote, s.drop quotes) else none
    else
      match s with
      | [] => none
      | c :: rest =>
        if c = '\\' ∧ literal = false then
          match newline? (skipWhite rest) with
          | some rest => longText quote literal fuel (skipLines rest.length.succ rest)
          | none => do
            let (d, rest) ← escape rest
            let (cs, rest) ← longText quote literal fuel rest
            return (d :: cs, rest)
        else
          match newline? s with
          | some after => do
            let (cs, rest) ← longText quote literal fuel after
            return (s.take (s.length - after.length) ++ cs, rest)
          | none =>
            if isInline c then do
              let (cs, rest) ← longText quote literal fuel rest
              return (c :: cs, rest)
            else none

/-- Reads a text in its quotes. A line break right after three quotes is no part of it. -/
def quotedText (long : Bool) : Reader String := fun s => do
  let quote ← s.head?
  if quote ≠ '"' ∧ quote ≠ '\x27' then none
  let literal := quote = '\x27'
  let (cs, rest) ←
    if long && s.take 3 == [quote, quote, quote] then
      let body := (newline? (s.drop 3)).getD (s.drop 3)
      longText quote literal body.length.succ body
    else shortText quote literal s.length (s.drop 1)
  return (String.ofList cs, rest)

/-! ## Whole numbers -/

/-- Two underscores stand side by side. -/
def hasDouble : List Char → Bool
  | '_' :: '_' :: _ => true
  | _ :: s => hasDouble s
  | [] => false

/-- The value of digits in some base; an underscore may stand between two digits. -/
def digits? (base : Nat) (s : List Char) : Option Nat :=
  if s.isEmpty || s.head? == some '_' || s.getLast? == some '_' || hasDouble s then none
  else Hex.inBase? base (s.filter (· != '_'))

/-- Decimal digits without a needless zero. -/
def decimal? (s : List Char) : Option Nat :=
  if s.head? == some '0' && decide (1 < s.length) then none else digits? 10 s

/-- A whole number, decimal with an optional sign or in another base without one. -/
def integer? : List Char → Option Int
  | '+' :: s => (decimal? s).map Int.ofNat
  | '-' :: s => (decimal? s).map fun n => -Int.ofNat n
  | '0' :: 'x' :: s => (digits? 16 s).map Int.ofNat
  | '0' :: 'o' :: s => (digits? 8 s).map Int.ofNat
  | '0' :: 'b' :: s => (digits? 2 s).map Int.ofNat
  | s => (decimal? s).map Int.ofNat

/-! ## Documents -/

def value : Reader Value := fun s =>
  match s.head? with
  | some '"' | some '\x27' => (quotedText true s).map fun (t, s) => (.text t, s)
  | _ => do
    let word := s.takeWhile fun c => isKeyChar c || c == '+'
    let n ← integer? word
    return (.integer n, s.drop word.length)

/-- A key: a word, or a text on one line. -/
def key : Reader String := fun s =>
  let word := s.takeWhile isKeyChar
  if word.isEmpty then quotedText false s else some (String.ofList word, s.drop word.length)

/-- Skips a comment and the end of its line. -/
def lineEnd (s : List Char) : Option (List Char) :=
  let s := skipWhite s
  let s := if s.head? == some '#' then s.dropWhile isInline else s
  if s.isEmpty then some [] else newline? s

/-- Reads the members of a document up to its end. -/
def membersFrom : Nat → List Char → Option (List (String × Value))
  | 0, _ => none
  | fuel + 1, s =>
    if s.isEmpty then some []
    else
      match lineEnd s with
      | some rest => membersFrom fuel rest
      | none => do
        let (k, s) ← key (skipWhite s)
        match skipWhite s with
        | '=' :: s => do
          let (v, s) ← value (skipWhite s)
          let ms ← membersFrom fuel (← lineEnd s)
          return (k, v) :: ms
        | _ => none

/-- The members of a document, each key once. -/
def members? (text : String) : Option (List (String × Value)) := do
  let s := match text.toList with
    | '\ufeff' :: s => s
    | s => s
  let ms ← membersFrom s.length.succ s
  if (ms.map (·.1)).eraseDups.length = ms.length then some ms else none

end ProfileAudit.Toml
