import ProfileAudit.Query.Token
import ProfileAudit.Decimal
import ProfileAudit.Text.Hex

/-!
Numbers and durations as a query writes them. Numbers are decimal, hexadecimal after
`0x`, or octal after a leading zero; a duration counts years down to milliseconds.
-/

namespace ProfileAudit.Query

/-- A stretch of time. -/
inductive Extent where
  | milliseconds (n : Nat)
  | seconds (x : Float)
  deriving Inhabited

/-- The value of some digits in a base, if it fits into 63 bits. -/
def integer? (base : Nat) (digits : List Char) : Option Nat := do
  if digits.isEmpty then none
  let value ← Hex.inBase? base digits
  if value < Nat.pow 2 63 then some value else none

/-- The value of a number. -/
def number (text : String) : Except Fault Float :=
  let lower := text.toList.map Char.toLower
  let integer := fun (base : Nat) (digits : List Char) =>
    match integer? base digits with
    | some n => .ok (Float.ofNat n)
    | none => .error (.integerRange text)
  if lower.contains 'x' then integer 16 (lower.drop 2)
  else if lower.head? = some '0' ∧ lower.length > 1 ∧
      !(lower.any fun c => c == '.' || c == '8' || c == '9') then integer 8 lower
  else
    match Decimal.float? (String.ofList lower) with
    | some x => .ok x
    | none => .error (.floatSyntax text)

/-- The units of a duration, from the largest on, in milliseconds. -/
def durationUnits : List (String × Nat) :=
  [("y", 365 * 86400000), ("w", 7 * 86400000), ("d", 86400000), ("h", 3600000), ("m", 60000),
    ("s", 1000), ("ms", 1)]

/-- Reads the parts of a duration: each unit once at most, the larger before the smaller.
A part that does not fit into 32 bits counts nothing. -/
def durationParts (s : List Char) : List (String × Nat) → Option Nat
  | [] => if s.isEmpty then some 0 else none
  | (unit, size) :: units =>
    let digits := s.takeWhile Char.isDigit
    let rest := s.dropWhile Char.isDigit
    if !digits.isEmpty && String.ofList (rest.takeWhile Char.isAlpha) == unit then do
      let n := Decimal.ofDigits digits
      let more ← durationParts (rest.dropWhile Char.isAlpha) units
      return (if n < Nat.pow 2 32 then n * size else 0) + more
    else durationParts s units

/-- The value of a duration, which is not zero. -/
def duration (text : String) : Except Fault Extent :=
  match durationParts text.toList durationUnits with
  | none => .error (.badDuration text)
  | some 0 => .error .zeroDuration
  | some n => .ok (.milliseconds n)

/-- A duration as a number of seconds. -/
def Extent.toSeconds : Extent → Float
  | milliseconds n => Float.ofNat n / 1000
  | seconds x => x

/-- The extent that a token gives: a duration, or a number of seconds. -/
def Token.extent? : Token → Option (Except Fault Extent)
  | .duration text => some (Query.duration text)
  | .number text => some ((Query.number text).map .seconds)
  | _ => none

/-- The number that a token gives: a number, or the seconds of a duration. -/
def Token.number? : Token → Option (Except Fault Float)
  | .number text => some (Query.number text)
  | .duration text => some ((Query.duration text).map Extent.toSeconds)
  | _ => none

end ProfileAudit.Query
