import ProfileAudit.Json.Basic
import ProfileAudit.Text.Hex

/-!
Reading a JSON document. The text holds one document and white space around it.
-/

namespace ProfileAudit.Json

/-- The white space of JSON. -/
def isGap (c : Char) : Bool := c == ' ' || c == '\t' || c == '\n' || c == '\r'

def skipGap (s : List Char) : List Char := s.dropWhile isGap

/-- Reads four hexadecimal digits. -/
def fourDigits : List Char → Option (Nat × List Char)
  | a :: b :: c :: d :: s => (Hex.value? [a, b, c, d]).map (·, s)
  | _ => none

/-- Reads the rest of an escape by code unit; a unit of the upper half of a pair needs
one of the lower half after it. -/
def unitEscape (s : List Char) : Option (Char × List Char) := do
  let (high, rest) ← fourDigits s
  if 0xd800 ≤ high ∧ high < 0xdc00 then
    match rest with
    | '\\' :: 'u' :: rest => do
      let (low, rest) ← fourDigits rest
      if 0xdc00 ≤ low ∧ low < 0xe000 then
        some (Char.ofNat (0x10000 + (high - 0xd800) * 0x400 + (low - 0xdc00)), rest)
      else none
    | _ => none
  else if 0xdc00 ≤ high ∧ high < 0xe000 then none
  else some (Char.ofNat high, rest)

/-- Reads a string after its opening quote. `fuel` is at least the length of the text. -/
def readString : Nat → List Char → Option (List Char × List Char)
  | 0, _ => none
  | fuel + 1, s =>
    match s with
    | [] => none
    | '"' :: s => some ([], s)
    | '\\' :: e :: s =>
      let one := fun (c : Char) => (readString fuel s).map fun (cs, rest) => (c :: cs, rest)
      match e with
      | '"' => one '"'
      | '\\' => one '\\'
      | '/' => one '/'
      | 'b' => one '\x08'
      | 'f' => one '\x0c'
      | 'n' => one '\n'
      | 'r' => one '\r'
      | 't' => one '\t'
      | 'u' => do
        let (c, s) ← unitEscape s
        let (cs, rest) ← readString fuel s
        return (c :: cs, rest)
      | _ => none
    | c :: s =>
      if c.toNat < 32 then none
      else (readString fuel s).map fun (cs, rest) => (c :: cs, rest)

/-- Reads the digits and the exponent of a number. -/
def readNumber (s : List Char) : Option (Decimal × List Char) := do
  let (negative, s) := match s with
    | '-' :: s => (true, s)
    | s => (false, s)
  let whole := s.takeWhile Char.isDigit
  let rest := s.dropWhile Char.isDigit
  if whole.isEmpty || (whole.head? == some '0' && whole.length > 1) then none
  let (part, rest) ← match rest with
    | '.' :: rest =>
      let part := rest.takeWhile Char.isDigit
      if part.isEmpty then none else some (part, rest.dropWhile Char.isDigit)
    | rest => some ([], rest)
  let (power, rest) ← match rest with
    | c :: after =>
      if c = 'e' ∨ c = 'E' then
        let (minus, after) := Decimal.sign after
        let digits := after.takeWhile Char.isDigit
        let n : Int := Decimal.ofDigits digits
        if digits.isEmpty then none
        else some (if minus then -n else n, after.dropWhile Char.isDigit)
      else some (0, rest)
    | [] => some (0, rest)
  return (⟨negative, Decimal.ofDigits (whole ++ part), power - part.length⟩, rest)

mutual

/-- Reads a document at the start of a text. `fuel` is at least the length of the text. -/
def readValue : Nat → List Char → Option (Json × List Char)
  | 0, _ => none
  | fuel + 1, s =>
    match s with
    | 'n' :: 'u' :: 'l' :: 'l' :: s => some (null, s)
    | 't' :: 'r' :: 'u' :: 'e' :: s => some (bool true, s)
    | 'f' :: 'a' :: 'l' :: 's' :: 'e' :: s => some (bool false, s)
    | '"' :: s => (readString s.length.succ s).map fun (cs, rest) => (string (String.ofList cs), rest)
    | '[' :: s =>
      match skipGap s with
      | ']' :: s => some (array [], s)
      | s => (readItems fuel s).map fun (items, rest) => (array items, rest)
    | '\x7b' :: s =>
      match skipGap s with
      | '\x7d' :: s => some (object [], s)
      | s => (readMembers fuel s).map fun (members, rest) => (object members, rest)
    | s => (readNumber s).map fun (d, rest) => (number d, rest)

/-- Reads the items of an array to its closing bracket. -/
def readItems : Nat → List Char → Option (List Json × List Char)
  | 0, _ => none
  | fuel + 1, s => do
    let (j, rest) ← readValue fuel s
    match skipGap rest with
    | ']' :: rest => return ([j], rest)
    | ',' :: rest =>
      let (js, rest) ← readItems fuel (skipGap rest)
      return (j :: js, rest)
    | _ => none

/-- Reads the members of an object to its closing brace. -/
def readMembers : Nat → List Char → Option (List (String × Json) × List Char)
  | 0, _ => none
  | fuel + 1, s =>
    match s with
    | '"' :: s => do
      let (key, rest) ← readString s.length.succ s
      match skipGap rest with
      | ':' :: rest =>
        let (j, rest) ← readValue fuel (skipGap rest)
        let member := (String.ofList key, j)
        match skipGap rest with
        | '\x7d' :: rest => return ([member], rest)
        | ',' :: rest =>
          let (members, rest) ← readMembers fuel (skipGap rest)
          return (member :: members, rest)
        | _ => none
      | _ => none
    | _ => none

end

/-- The document that a text holds. -/
def ofText? (text : String) : Option Json := do
  let s := text.toList
  let (j, rest) ← readValue s.length.succ (skipGap s)
  if (skipGap rest).isEmpty then some j else none

end ProfileAudit.Json
