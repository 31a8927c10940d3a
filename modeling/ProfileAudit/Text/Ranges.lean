/-!
Sets of code points given by closed intervals, and the written form in which the
tables of this library hold them: intervals in hexadecimal, blanks between them, such
as `41-5a b5`.
-/

namespace ProfileAudit

/-- A set of code points, as closed intervals. -/
structure Ranges where
  intervals : Array (Nat × Nat)
  deriving Inhabited, BEq, Repr

namespace Ranges

/-- The code point lies in one of the intervals. -/
def contains (r : Ranges) (point : Nat) : Bool :=
  r.intervals.any fun (lo, hi) => decide (lo ≤ point) && decide (point ≤ hi)

/-- The character lies in one of the intervals. -/
def has (r : Ranges) (c : Char) : Bool := r.contains c.toNat

def empty : Ranges := ⟨#[]⟩

/-- All members of two sets. -/
def append (r s : Ranges) : Ranges := ⟨r.intervals ++ s.intervals⟩

instance : Append Ranges := ⟨append⟩

/-- All members of several sets. -/
def union (sets : List Ranges) : Ranges := sets.foldl append empty

/-! ## The written form -/

/-- The value of one lower-case hexadecimal digit; other characters count nothing. -/
def digitValue (c : Char) : Nat :=
  if c.isDigit then c.toNat - '0'.toNat
  else if 'a' ≤ c ∧ c ≤ 'f' then c.toNat - 'a'.toNat + 10
  else 0

/-- What is known while a table is read: the finished intervals, the lower end of
the present one if its upper end is being read, and the digits so far. -/
structure Reading where
  intervals : Array (Nat × Nat) := #[]
  lower : Option Nat := none
  digits : Option Nat := none

/-- The present interval, if there is one, is finished. -/
def Reading.close (r : Reading) : Reading :=
  match r.digits with
  | none => { r with lower := none }
  | some n => ⟨r.intervals.push (r.lower.getD n, n), none, none⟩

def Reading.step (r : Reading) (c : Char) : Reading :=
  if c = ' ' ∨ c = '\n' then r.close
  else if c = '-' then { r with lower := r.digits, digits := none }
  else { r with digits := some (r.digits.getD 0 * 16 + digitValue c) }

/-- The set that a table's text stands for. -/
def ofText (text : String) : Ranges :=
  ⟨((text.toList.foldl Reading.step {}).close).intervals⟩

end Ranges

end ProfileAudit
