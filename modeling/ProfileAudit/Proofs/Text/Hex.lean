import Mathlib.Algebra.Ring.Nat
import Mathlib.Data.List.Basic
import ProfileAudit.Text.Hex

/-!
# Hexadecimal digits read back

The digits of a number have it for their value, however many zeros stand before them
(`value?_digits`), so the character is read back whose code point they write
(`readCharacter_digits`).
-/

namespace ProfileAudit.Hex

/-- The digit of a number below sixteen. -/
def upperDigit (n : Nat) : Char := n.digitChar.toUpper

theorem digit?_upperDigit : ∀ n < 16, digit? (upperDigit n) = some n := by decide

/-- Takes in one more digit. -/
def extend (base v : Nat) (c : Char) : Option Nat :=
  (digit? c).bind fun d => if d < base then some (v * base + d) else none

theorem inBase?_eq (base : Nat) (cs : List Char) :
    inBase? base cs = cs.foldlM (extend base) 0 := rfl

theorem extend_upperDigit {d : Nat} (fits : d < 16) (v : Nat) :
    extend 16 v (upperDigit d) = some (v * 16 + d) := by
  rw [extend, digit?_upperDigit d fits, Option.bind_some, if_pos fits]

theorem foldlM_toDigits (n : Nat) :
    ((Nat.toDigits 16 n).map Char.toUpper).foldlM (extend 16) 0 = some n := by
  induction n using Nat.strongRecOn with
  | ind n ih =>
      rcases Nat.lt_or_ge n 16 with small | large
      · rw [Nat.toDigits_of_lt_base small]
        have last := extend_upperDigit small 0
        simpa [upperDigit] using last
      · have low : n % 16 < 16 := Nat.mod_lt n (by decide)
        have last := extend_upperDigit low (n / 16)
        rw [Nat.toDigits_of_base_le (by decide) large, List.map_append, List.foldlM_append,
          ih (n / 16) (by omega)]
        simpa [upperDigit, Nat.div_add_mod'] using last

theorem foldlM_zeros (k : Nat) : (List.replicate k '0').foldlM (extend 16) 0 = some 0 := by
  induction k with
  | zero => rfl
  | succ k ih =>
      have zero : extend 16 0 '0' = some 0 := by decide
      rw [List.replicate_succ, List.foldlM_cons, zero]
      exact ih

theorem value?_digits (width n : Nat) : value? (digits width n) = some n := by
  rw [value?, inBase?_eq, digits, List.foldlM_append, foldlM_zeros]
  exact foldlM_toDigits n

theorem length_digits {width n : Nat} (some : 0 < width) (fits : n < 16 ^ width) :
    (digits width n).length = width := by
  have short := (Nat.length_toDigits_le_iff (by decide) some).mpr fits
  simp only [digits, List.length_append, List.length_replicate, List.length_map]
  omega

/-- Only digits are written. -/
theorem isSome_digit?_of_mem {width n : Nat} {c : Char} (member : c ∈ digits width n) :
    (digit? c).isSome = true := by
  have all (cs : List Char) (v w : Nat) (read : cs.foldlM (extend 16) v = some w) :
      ∀ c ∈ cs, (digit? c).isSome = true := by
    induction cs generalizing v with
    | nil => nofun
    | cons d cs ih =>
        rw [List.foldlM_cons] at read
        obtain ⟨v', first, rest⟩ := Option.bind_eq_some_iff.mp read
        obtain ⟨d', digit, -⟩ := Option.bind_eq_some_iff.mp first
        exact List.forall_mem_cons.mpr ⟨by rw [digit]; rfl, ih v' rest⟩
  exact all _ 0 n (value?_digits width n) c member

theorem character?_toNat (c : Char) : character? c.toNat = some c := by
  have valid : c.toNat.isValidChar := c.valid
  rw [character?, dif_pos valid]
  rfl

/-- **The character is read back** whose code point the digits write. -/
theorem readCharacter_digits {width : Nat} {c : Char} (some : 0 < width)
    (fits : c.toNat < 16 ^ width) (t : List Char) :
    readCharacter width (digits width c.toNat ++ t) = .some (c, t) := by
  have length := length_digits some fits
  have first : (digits width c.toNat ++ t).take width = digits width c.toNat := by
    rw [List.take_append_of_le_length (Nat.le_of_eq length.symm), List.take_of_length_le
      (Nat.le_of_eq length)]
  have rest : (digits width c.toNat ++ t).drop width = t := by
    rw [List.drop_append_of_le_length (Nat.le_of_eq length.symm), List.drop_of_length_le
      (Nat.le_of_eq length), List.nil_append]
  simp [readCharacter, first, rest, length, value?_digits, character?_toNat]

example : digits 4 0xfeff = ['F', 'E', 'F', 'F'] := by decide

end ProfileAudit.Hex
