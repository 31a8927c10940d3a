import ProfileAudit.Text.Property

/-!
Quoting for messages: a text between double quotes on one line, in which quotes,
backslashes and every character that would not be seen are written as escapes.
-/

namespace ProfileAudit.Quoted

/-- Characters beyond the first 128 that are seen on their own: neither controls,
formats nor blanks, and no marks that merge with the character before them. -/
def visible : Ranges :=
  .union [Category.letter, Category.spacingMark, Category.number, Category.punctuation,
    Category.symbol]

/-- The character is shown as it is. -/
def isShown (c : Char) : Bool :=
  if c.toNat < 128 then decide (' ' ≤ c) && decide (c ≤ '~')
  else visible.has c && !Property.otherGraphemeExtend.has c

/-- A code point in hexadecimal, without leading zeros. -/
def hexadecimal (n : Nat) : String := String.ofList (Nat.toDigits 16 n)

/-- The written form of one character inside quotes of the given kind. -/
def escape (quote : Char) (c : Char) : String :=
  if c = '\x00' then "\\0"
  else if c = '\t' then "\\t"
  else if c = '\r' then "\\r"
  else if c = '\n' then "\\n"
  else if c = '\\' then "\\\\"
  else if c = quote then "\\" ++ quote.toString
  else if isShown c then c.toString
  else "\\u\x7b" ++ hexadecimal c.toNat ++ "\x7d"

/-- A text in double quotes. -/
def text (s : String) : String :=
  "\"" ++ String.join (s.toList.map (escape '"')) ++ "\""

/-- A character in single quotes. -/
def char (c : Char) : String := "'" ++ escape '\x27' c ++ "'"

/-- An optional text, with a word for its presence. -/
def optional : Option String → String
  | none => "None"
  | some s => "Some(" ++ text s ++ ")"

end ProfileAudit.Quoted
