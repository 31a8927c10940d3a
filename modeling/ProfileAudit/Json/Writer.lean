import ProfileAudit.Json.Basic

/-!
Writing a JSON document on one line without blanks.
-/

namespace ProfileAudit.Json

/-- The written form of a character inside a string. -/
def escape (c : Char) : String :=
  match c with
  | '"' => "\\\""
  | '\\' => "\\\\"
  | '\x08' => "\\b"
  | '\x0c' => "\\f"
  | '\n' => "\\n"
  | '\r' => "\\r"
  | '\t' => "\\t"
  | c =>
    if c.toNat < 32 then
      "\\u00" ++ (if c.toNat < 16 then "0" else "") ++ String.ofList (Nat.toDigits 16 c.toNat)
    else c.toString

def quote (s : String) : String := "\"" ++ String.join (s.toList.map escape) ++ "\""

/-- A number by its digits and an exponent. -/
def writeNumber (d : Decimal) : String :=
  (if d.negative then "-" else "") ++ toString d.digits ++
    (if d.exponent = 0 then "" else "e" ++ toString d.exponent)

/-- The text of a document. -/
def write : Json → String
  | null => "null"
  | bool true => "true"
  | bool false => "false"
  | number d => writeNumber d
  | string s => quote s
  | array items => "[" ++ ",".intercalate (writeItems items) ++ "]"
  | object members => "\x7b" ++ ",".intercalate (writeMembers members) ++ "\x7d"
where
  writeItems : List Json → List String
    | [] => []
    | j :: js => write j :: writeItems js
  writeMembers : List (String × Json) → List String
    | [] => []
    | (key, j) :: js => (quote key ++ ":" ++ write j) :: writeMembers js

end ProfileAudit.Json
