import ProfileAudit.Text.Split
import ProfileAudit.Url.Percent

/-!
Forms: named values in the query of a URL.
-/

namespace ProfileAudit.Form

/-- Characters that stand for themselves. -/
def isPlain (c : Char) : Bool := c.isAlphanum || "*-._".toList.contains c

/-- A name or a value; a space is a plus sign. -/
def component (s : String) : List Char :=
  s.toList.flatMap fun c =>
    if c = ' ' then ['+']
    else if isPlain c then [c]
    else (String.utf8EncodeChar c).flatMap Percent.byte

/-- Named values, joined. -/
def encode (fields : List (String × String)) : String :=
  "&".intercalate (fields.map fun (name, value) =>
    String.ofList (component name ++ '=' :: component value))

/-- The text of a name or a value. Bytes that are no text stay as they are written. -/
def decodeComponent (cs : List Char) : String :=
  (Percent.decodeText? (cs.map fun c => if c = '+' then ' ' else c)).getD (String.ofList cs)

/-- The named values of a query. -/
def decode (query : String) : List (String × String) :=
  ((partsBetween (· == '&') query.toList).filter (!·.isEmpty)).map fun part =>
    let name := part.takeWhile (· != '=')
    (decodeComponent name, decodeComponent (part.drop (name.length + 1)))

end ProfileAudit.Form
