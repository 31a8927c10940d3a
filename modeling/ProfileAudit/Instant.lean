import ProfileAudit.Report.Timestamp

/-!
Instants, in whole seconds since the beginning of 1970 and nanoseconds, and what the
calendar and the clock show then.
-/

namespace ProfileAudit

/-- An instant. -/
structure Instant where
  seconds : Int
  nanos : Nat := 0
  deriving DecidableEq, Inhabited

namespace Instant

/-- The instant some nanoseconds later. -/
def later (t : Instant) (duration : Nat) : Instant :=
  let total := t.nanos + duration
  ⟨t.seconds + Int.ofNat (total / Nat.pow 10 9), total % Nat.pow 10 9⟩

/-- The year, month and day of a number of days since the beginning of 1970. Years are
counted from the first of March here, and in eras of four hundred of them. -/
def civil (days : Int) : Int × Nat × Nat :=
  let days := days + 719468
  let day := (days % 146097).toNat
  let year := (day - day / 1460 + day / 36524 - day / 146096) / 365
  let ofYear := day - (365 * year + year / 4 - year / 100)
  let month := (5 * ofYear + 2) / 153
  let ofMonth := ofYear - (153 * month + 2) / 5 + 1
  let year := Int.ofNat year + days / 146097 * 400
  if month < 10 then (year, month + 3, ofMonth) else (year + 1, month - 9, ofMonth)

/-- What the calendar and the clock show. -/
def timestamp (t : Instant) : Timestamp :=
  let (year, month, day) := civil (t.seconds / 86400)
  let second := (t.seconds % 86400).toNat
  { year, month, day, hour := second / 3600, minute := second / 60 % 60, second := second % 60 }

/-- The part of a second, in as few groups of three digits as possible. -/
def fraction (nanos : Nat) : String :=
  if nanos = 0 then ""
  else if nanos % Nat.pow 10 6 = 0 then "." ++ Timestamp.padded 3 (nanos / Nat.pow 10 6)
  else if nanos % Nat.pow 10 3 = 0 then "." ++ Timestamp.padded 6 (nanos / Nat.pow 10 3)
  else "." ++ Timestamp.padded 9 nanos

/-- The text of an instant, without an offset from universal time. -/
def text (t : Instant) : String :=
  let s := t.timestamp
  let two := Timestamp.padded 2
  s!"{Timestamp.yearText s.year}-{two s.month}-{two s.day}T" ++
    s!"{two s.hour}:{two s.minute}:{two s.second}{fraction t.nanos}+00:00"

end Instant

end ProfileAudit
