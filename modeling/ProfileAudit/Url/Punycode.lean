import ProfileAudit.Text.Hex

/-!
Labels of domain names in ASCII. The characters that are not ASCII are taken out, and
their code points, in ascending order, are written as distances in a number system whose
digits have changing bounds.
-/

namespace ProfileAudit.Punycode

/-- The letter or digit of a value below thirty-six. -/
def digitChar (d : Nat) : Char :=
  if d < 26 then Char.ofNat ('a'.toNat + d) else Char.ofNat ('0'.toNat + (d - 26))

def digitValue? (c : Char) : Option Nat :=
  if 'a' ≤ c ∧ c ≤ 'z' then some (c.toNat - 'a'.toNat)
  else if 'A' ≤ c ∧ c ≤ 'Z' then some (c.toNat - 'A'.toNat)
  else if c.isDigit then some (c.toNat - '0'.toNat + 26)
  else none

/-- The bound of the digit at a place. -/
def threshold (place bias : Nat) : Nat := min 26 (max 1 (place - bias))

theorem threshold_pos (place bias : Nat) : 1 ≤ threshold place bias := by
  unfold threshold; omega

/-- Brings a distance down, and tells by how many places. -/
def reduce (delta places : Nat) : Nat × Nat :=
  if 455 < delta then reduce (delta / 35) (places + 36) else (delta, places)
termination_by delta
decreasing_by exact Nat.div_lt_self (by omega) (by omega)

/-- The bias after a distance, for the next one. -/
def adapt (delta points : Nat) (first : Bool) : Nat :=
  let d := if first then delta / 700 else delta / 2
  let (d, places) := reduce (d + d / points) 0
  places + 36 * d / (d + 38)

/-! ## Writing -/

/-- A distance in digits, the lowest first. -/
def distance (bias place q : Nat) : List Char :=
  let t := threshold place bias
  if q < t then [digitChar q]
  else digitChar (t + (q - t) % (36 - t)) :: distance bias (place + 36) ((q - t) / (36 - t))
termination_by q
decreasing_by
  have h1 := threshold_pos place bias
  exact Nat.lt_of_le_of_lt (Nat.div_le_self _ _) (by omega)

/-- Where writing stands: the digits so far, the distance to the next character, the bias,
and how many characters are written. -/
structure Writing where
  digits : List Char
  delta : Nat
  bias : Nat
  written : Nat

/-- Passes a character of the label on the way to those with the code point `point`. -/
def Writing.pass (plain point : Nat) (w : Writing) (c : Char) : Writing :=
  if c.toNat < point then { w with delta := w.delta + 1 }
  else if c.toNat = point then
    { digits := w.digits ++ distance w.bias 36 w.delta, delta := 0,
      bias := adapt w.delta (w.written + 1) (w.written == plain), written := w.written + 1 }
  else w

/-- Writes the characters of some code points, which lie in ascending order above `next`. -/
def Writing.run (label : List Char) (plain : Nat) : List Nat → Nat → Writing → Writing
  | [], _, w => w
  | point :: points, next, w =>
    let w := { w with delta := w.delta + (point - next) * (w.written + 1) }
    let w := label.foldl (Writing.pass plain point) w
    Writing.run label plain points (point + 1) { w with delta := w.delta + 1 }

/-- The ASCII form of a label. -/
def encode (label : List Char) : List Char :=
  let (plain, others) := label.partition (·.toNat < 0x80)
  let points := (others.map Char.toNat).eraseDups.mergeSort (· ≤ ·)
  let start : Writing := ⟨[], 0, 72, plain.length⟩
  plain ++ (if plain.isEmpty then [] else ['-']) ++
    (Writing.run label plain.length points 0x80 start).digits

/-! ## Reading -/

/-- Reads a distance, and the characters after it. -/
def readDistance (bias : Nat) : List Char → Nat → Nat → Nat → Option (Nat × List Char)
  | [], _, _, _ => none
  | c :: cs, place, weight, sum => do
    let d ← digitValue? c
    let t := threshold place bias
    if d < t then return (sum + d * weight, cs)
    else readDistance bias cs (place + 36) (weight * (36 - t)) (sum + d * weight)

/-- Reads characters into a label, at most `fuel` many. -/
def readPoints : Nat → Nat → Nat → Nat → List Char → List Char → Option (List Char)
  | _, _, _, _, label, [] => some label
  | 0, _, _, _, _, _ => none
  | fuel + 1, bias, point, place, label, cs => do
    let (sum, cs) ← readDistance bias cs 36 1 place
    let size := label.length + 1
    let point := point + sum / size
    let c ← Hex.character? point
    let bias := adapt (sum - place) size (place == 0)
    readPoints fuel bias point (sum % size + 1) (label.insertIdx (sum % size) c) cs

/-- The label of an ASCII form: what stands before the last dash is plain. -/
def decode? (cs : List Char) : Option (List Char) :=
  let others := (cs.reverse.takeWhile (· != '-')).reverse
  let plain := cs.take (cs.length - others.length - 1)
  if plain.all (·.toNat < 0x80) then readPoints others.length 72 0x80 0 plain others else none

end ProfileAudit.Punycode
