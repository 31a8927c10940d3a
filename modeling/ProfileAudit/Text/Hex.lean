/-!
Hexadecimal digits: their values, and the characters whose code points they write.
-/

namespace ProfileAudit.Hex

/-- The value of a digit, in letters of either case. -/
def digit? (c : Char) : Option Nat :=
  if c.isDigit then some (c.toNat - '0'.toNat)
  else if 'a' ≤ c ∧ c ≤ 'f' then some (c.toNat - 'a'.toNat + 10)
  else if 'A' ≤ c ∧ c ≤ 'F' then some (c.toNat - 'A'.toNat + 10)
  else none

/-- The value of digits in some base of at most sixteen. -/
def inBase? (base : Nat) (cs : List Char) : Option Nat :=
  cs.foldlM (fun v c => do
    let d ← digit? c
    if d < base then some (v * base + d) else none) 0

/-- The value of digits. -/
def value? (cs : List Char) : Option Nat := inBase? 16 cs

/-- The character of a code point, if it is one. -/
def character? (point : Nat) : Option Char :=
  if h : point.isValidChar then some (Char.ofNatAux point h) else none

/-- Reads the character that exactly `n` digits write. -/
def readCharacter (n : Nat) (s : List Char) : Option (Char × List Char) := do
  let digits := s.take n
  if digits.length ≠ n then none
  return (← character? (← value? digits), s.drop n)

/-- A number in at least `width` digits. -/
def digits (width n : Nat) : List Char :=
  let ds := (Nat.toDigits 16 n).map Char.toUpper
  List.replicate (width - ds.length) '0' ++ ds

end ProfileAudit.Hex
