/-!
Decimal numbers: reading one as the nearest binary number, and writing a binary number
with the fewest digits that read back.
-/

namespace ProfileAudit

/-- The number `digits · 10 ^ exponent`, or its negative. -/
structure Decimal where
  negative : Bool
  digits : Nat
  exponent : Int
  deriving DecidableEq, Inhabited

namespace Decimal

/-- The value of a run of decimal digits. -/
def ofDigits (cs : List Char) : Nat := cs.foldl (fun v c => v * 10 + (c.toNat - '0'.toNat)) 0

/-- The nearest binary number. Beyond the range it is infinite or zero. -/
def toFloat (d : Decimal) : Float :=
  let size : Int := (Nat.toDigits 10 d.digits).length + d.exponent
  let magnitude : Float :=
    if d.digits = 0 ∨ size < -330 then 0
    else if size > 320 then 1 / 0
    else Float.ofScientific d.digits (d.exponent < 0) d.exponent.natAbs
  if d.negative then -magnitude else magnitude

/-! ## Reading -/

/-- Takes a sign off a text. -/
def sign : List Char → Bool × List Char
  | '-' :: s => (true, s)
  | '+' :: s => (false, s)
  | s => (false, s)

/-- Reads digits with an optional point and exponent and no sign. There are digits on one
side of the point at least. -/
def unsigned? (s : List Char) : Option Decimal :=
  let whole := s.takeWhile Char.isDigit
  let rest := s.dropWhile Char.isDigit
  let (part, rest) := match rest with
    | '.' :: rest => (rest.takeWhile Char.isDigit, rest.dropWhile Char.isDigit)
    | rest => ([], rest)
  if whole.isEmpty && part.isEmpty then none
  else
    let digits := ofDigits (whole ++ part)
    match rest with
    | [] => some ⟨false, digits, -part.length⟩
    | c :: rest =>
      if c = 'e' ∨ c = 'E' then
        let (negative, power) := sign rest
        if power.isEmpty || !power.all Char.isDigit then none
        else
          let n : Int := ofDigits power
          some ⟨false, digits, (if negative then -n else n) - part.length⟩
      else none

/-- Reads a number with an optional sign, or one of the words for infinity and for what
is no number. -/
def float? (text : String) : Option Float :=
  let (negative, s) := sign text.toList
  match String.ofList (s.map Char.toLower) with
  | "inf" | "infinity" => some (if negative then -1 / 0 else 1 / 0)
  | "nan" => some (0 / 0)
  | _ => (unsigned? s).map fun d => { d with negative }.toFloat

/-! ## Writing -/

/-- A finite positive number as `m · 2 ^ q`. -/
def binary (x : Float) : Nat × Int :=
  let bits := x.toBits.toNat
  let exponent : Nat := bits / Nat.pow 2 52 % Nat.pow 2 11
  let fraction : Nat := bits % Nat.pow 2 52
  if exponent = 0 then (fraction, -1074) else (fraction + Nat.pow 2 52, (exponent : Int) - 1075)

/-- The fraction `n · b ^ e`. -/
def scaled (n b : Nat) (e : Int) : Nat × Nat :=
  if 0 ≤ e then (n * Nat.pow b e.toNat, 1) else (n, Nat.pow b e.natAbs)

/-- The number of decimal digits before the point, less one; negative for a number below
one. -/
def magnitude (num den : Nat) : Int :=
  let guess : Int := (Nat.toDigits 10 num).length - (Nat.toDigits 10 den).length
  let (n, d) := scaled den 10 guess
  if n ≤ num * d then guess else guess - 1

/-- The fewest digits that read back as `m · 2 ^ q`, the nearest of these, and of two
equally near the even ones. -/
def shortestOf (m : Nat) (q : Int) : Decimal :=
  let narrow := decide (m = Nat.pow 2 52) && decide (q > -1074)
  let at4 := fun (n : Nat) => scaled n 2 (q - 2)
  let (v, den) := at4 (4 * m)
  let low := (at4 (4 * m - (if narrow then 1 else 2))).1
  let high := (at4 (4 * m + 2)).1
  let inside := fun (n d : Nat) =>
    if m % 2 = 0 then decide (low * d ≤ n * den) && decide (n * den ≤ high * d)
    else decide (low * d < n * den) && decide (n * den < high * d)
  let top := magnitude v den
  let candidate := fun (count : Nat) =>
    let k : Int := top - count + 1
    let (one, per) := scaled 1 10 k
    let below := v * per / (den * one)
    let fits := fun (n : Nat) => inside (n * one) per
    let down := v * per - below * one * den
    let up := (below + 1) * one * den - v * per
    match fits below, fits (below + 1) with
    | true, true =>
      some ((if down < up ∨ (down = up ∧ below % 2 = 0) then below else below + 1), k)
    | true, false => some (below, k)
    | false, true => some (below + 1, k)
    | false, false => none
  match (List.range 17).findSome? fun i => candidate (i + 1) with
  | some (n, k) => ⟨false, n, k⟩
  | none => ⟨false, 0, 0⟩

/-- The text of `digits · 10 ^ exponent` with no exponent in it. -/
def positional (d : Decimal) : String :=
  let digits := Nat.toDigits 10 d.digits
  let body :=
    if 0 ≤ d.exponent then digits ++ List.replicate d.exponent.toNat '0'
    else
      let places := d.exponent.natAbs
      let padded := List.replicate (places + 1 - digits.length) '0' ++ digits
      padded.take (padded.length - places) ++ '.' :: padded.drop (padded.length - places)
  (if d.negative then "-" else "") ++ String.ofList body

/-- A number in positional notation with the fewest digits that read back. -/
def ofFloat (x : Float) : String :=
  if x.isNaN then "NaN"
  else
    let minus := if x.toBits.toNat ≥ Nat.pow 2 63 then "-" else ""
    if x.isInf then minus ++ "inf"
    else if x == 0 then minus ++ "0"
    else
      let (m, q) := binary x.abs
      minus ++ (shortestOf m q).positional

end Decimal

end ProfileAudit
