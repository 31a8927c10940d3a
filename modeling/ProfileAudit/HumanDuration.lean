import ProfileAudit.Context
import ProfileAudit.Text.Blank

/-!
Durations as people write them: numbers with units, one after another, which add up.
White space may stand anywhere but inside a unit. A fraction has to be exact, in
nanoseconds for the units up to a minute and in seconds for the longer ones, and no
intermediate result may be longer than 64 bits.
-/

namespace ProfileAudit.HumanDuration

/-- A unit of time: so many times its grain, in which fractions are counted. -/
structure Unit where
  names : List String
  count : Nat
  /-- The length of a grain in nanoseconds. -/
  grain : Nat

/-- All units. A month is the twelfth part of a year of 365.25 days, to two decimals of a
day. -/
def units : List Unit :=
  [⟨["ns", "nsec", "nanos"], 1, 1⟩,
    ⟨["us", "usec", "µs"], 1000, 1⟩,
    ⟨["ms", "msec", "millis"], 1000000, 1⟩,
    ⟨["s", "sec", "secs", "second", "seconds"], 1, second⟩,
    ⟨["m", "min", "mins", "minute", "minutes"], 60, second⟩,
    ⟨["h", "hr", "hrs", "hour", "hours"], 3600, second⟩,
    ⟨["d", "day", "days"], 86400, second⟩,
    ⟨["w", "wk", "wks", "week", "weeks"], 604800, second⟩,
    ⟨["M", "month", "months"], 2630016, second⟩,
    ⟨["y", "yr", "yrs", "year", "years"], 31557600, second⟩]

/-- The unit of that name. -/
def unit? (name : List Char) : Option Unit :=
  units.find? fun u => u.names.contains (String.ofList name)

/-- A number of at most 64 bits. -/
def word? (n : Nat) : Option Nat := if n < Nat.pow 2 64 then some n else none

/-- The number of grains in a fraction of a unit, and the length of a grain there. A
nanosecond has no fractions. -/
def Unit.fraction (u : Unit) : Option (Nat × Nat) :=
  if u.count * u.grain = 1 then none
  else if u.count * u.grain ≤ 60 * second then some (u.count * u.grain, 1)
  else some (u.count, u.grain)

/-- Adds a number of grains to a duration. -/
def add (total count grain : Nat) : Option Nat := do
  let n ← word? count
  let carried ← if grain = 1 then word? (total % second + n) else some (total % second)
  let seconds := total / second + (if grain = 1 then 0 else n)
  let whole ← word? (seconds + carried / second)
  return whole * second + carried % second

/-- A fraction: its digits as a number, and the power of ten that they are divided by. -/
structure Fraction where
  digits : Nat
  scale : Nat

/-- Adds a number of units to a duration. -/
def Unit.add (u : Unit) (total n : Nat) (fraction : Option Fraction) : Option Nat := do
  let total ← HumanDuration.add total (n * u.count) u.grain
  match fraction with
  | none => return total
  | some f =>
    let (count, grain) ← u.fraction
    let product ← word? (f.digits * count)
    if product % f.scale ≠ 0 then none
    HumanDuration.add total (product / f.scale) grain

/-! ## Reading -/

/-- Characters of the names of units. -/
def isUnitChar (c : Char) : Bool := c.isAlpha || c == 'µ'

/-- Reads digits with white space between them, which extend a number. -/
def digits (n : Nat) : List Char → Option (Nat × List Char)
  | [] => some (n, [])
  | c :: s =>
    if c.isDigit then do digits (← word? (n * 10 + (c.toNat - '0'.toNat))) s
    else if isBlank c then digits n s
    else some (n, c :: s)

/-- Reads the digits of a fraction, which are at least one. -/
def fractionFrom (f : Fraction) : List Char → Option (Fraction × List Char)
  | [] => if f.scale = 1 then none else some (f, [])
  | c :: s =>
    if c.isDigit then do
      let digits ← word? (f.digits * 10 + (c.toNat - '0'.toNat))
      let scale ← word? (f.scale * 10)
      fractionFrom ⟨digits, scale⟩ s
    else if isBlank c then fractionFrom f s
    else if f.scale = 1 then none
    else some (f, c :: s)

/-- Reads a number with its fraction. -/
def number (s : List Char) : Option (Nat × Option Fraction × List Char) := do
  if !s.head?.any Char.isDigit then none
  match ← digits 0 s with
  | (n, '.' :: s) => do
    let (f, s) ← fractionFrom ⟨0, 1⟩ s
    return (n, some f, s)
  | (n, s) => return (n, none, s)

/-- Reads numbers with units and adds them to a duration. -/
def sumFrom : Nat → Nat → List Char → Option Nat
  | 0, _, _ => none
  | fuel + 1, total, s =>
    let s := s.dropWhile isBlank
    if s.isEmpty then some total
    else do
      let (n, fraction, s) ← number s
      let name := s.takeWhile isUnitChar
      let total ← (← unit? name).add total n fraction
      sumFrom fuel total (s.drop name.length)

/-- The duration that a text names, in nanoseconds. Only a lone zero has no unit. -/
def ofText? (text : String) : Option Nat :=
  if text = "0" then some 0
  else if Blank.isAll text then none
  else sumFrom (text.length + 1) 0 text.toList

end ProfileAudit.HumanDuration
