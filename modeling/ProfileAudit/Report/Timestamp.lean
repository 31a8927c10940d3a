import ProfileAudit.Path

/-!
Names of reports. A report's name holds the time at which it was made, in a form that
sorts by time.
-/

namespace ProfileAudit

/-- A local time. -/
structure Timestamp where
  year : Int
  month : Nat
  day : Nat
  hour : Nat
  minute : Nat
  second : Nat
  deriving DecidableEq, Inhabited

namespace Timestamp

/-- A number with zeros before it up to a number of digits. -/
def padded (digits n : Nat) : String :=
  let text := Nat.toDigits 10 n
  String.ofList (List.replicate (digits - text.length) '0' ++ text)

/-- A year of four digits; outside of these it has a sign. -/
def yearText (year : Int) : String :=
  let digits := padded 4 year.natAbs
  if year < 0 then "-" ++ digits
  else if year > 9999 then "+" ++ digits
  else digits

/-- Date and time in one word. -/
def text (t : Timestamp) : String :=
  yearText t.year ++ padded 2 t.month ++ padded 2 t.day ++ "T" ++ padded 2 t.hour ++
    padded 2 t.minute ++ padded 2 t.second

end Timestamp

/-- The path of a report that is made at this time. -/
def reportPath (dir stem extension : String) (time : Timestamp) : String :=
  Path.join dir s!"{stem}-{time.text}.{extension}"

end ProfileAudit
