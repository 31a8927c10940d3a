import ProfileAudit.HumanDuration

/-!
# Durations read back

A number of nanoseconds that is written in decimal digits before its unit is the duration of this
text (`ofText?_nanoseconds`). There is such a text for every duration of 64 bits.
-/

namespace ProfileAudit.HumanDuration

/-- A number of nanoseconds with its unit. -/
def nanoseconds (n : Nat) : String := String.ofList (Nat.toDigits 10 n ++ ['n', 's'])

theorem word?_of_lt {n : Nat} (fits : n < Nat.pow 2 64) : word? n = some n := if_pos fits

theorem digitChar_isDigit : ∀ d < 10, (Nat.digitChar d).isDigit = true := by decide

theorem digitChar_visible : ∀ d < 10, isBlank (Nat.digitChar d) = false := by decide

theorem digitChar_value : ∀ d < 10, (Nat.digitChar d).toNat - '0'.toNat = d := by decide

theorem digits_cons {d : Nat} (digit : d < 10) (n : Nat) (t : List Char) :
    digits n (d.digitChar :: t) = (word? (n * 10 + d)).bind fun m => digits m t := by
  rw [digits, if_pos (digitChar_isDigit d digit), digitChar_value d digit]
  rfl

/-- The digits of a number are read as this number. -/
theorem digits_toDigits {n : Nat} (fits : n < Nat.pow 2 64) (t : List Char) :
    digits 0 (Nat.toDigits 10 n ++ t) = digits n t := by
  induction n using Nat.strongRecOn generalizing t with
  | ind n ih =>
      rcases Nat.lt_or_ge n 10 with small | large
      · rw [Nat.toDigits_of_lt_base small, List.singleton_append, digits_cons small,
          Nat.zero_mul, Nat.zero_add, word?_of_lt fits]
        rfl
      · have less : n / 10 < n := by omega
        have low : n % 10 < 10 := by omega
        have whole : n / 10 * 10 + n % 10 = n := by omega
        rw [Nat.toDigits_of_base_le (by decide) large, List.append_assoc,
          ih (n / 10) less (Nat.lt_trans less fits), List.singleton_append, digits_cons low, whole,
          word?_of_lt fits]
        rfl

/-- A number in digits begins with one. -/
theorem exists_toDigits (n : Nat) : ∃ d < 10, ∃ cs, Nat.toDigits 10 n = d.digitChar :: cs := by
  induction n using Nat.strongRecOn with
  | ind n ih =>
      rcases Nat.lt_or_ge n 10 with small | large
      · exact ⟨n, small, [], Nat.toDigits_of_lt_base small⟩
      · obtain ⟨d, digit, cs, written⟩ := ih (n / 10) (by omega)
        refine ⟨d, digit, cs ++ [(n % 10).digitChar], ?_⟩
        rw [Nat.toDigits_of_base_le (by decide) large, written, List.cons_append]

theorem number_nanoseconds {n : Nat} (fits : n < Nat.pow 2 64) :
    number (Nat.toDigits 10 n ++ ['n', 's']) = some (n, none, ['n', 's']) := by
  obtain ⟨d, digit, cs, written⟩ := exists_toDigits n
  have first : (Nat.toDigits 10 n ++ ['n', 's']).head?.any Char.isDigit = true := by
    rw [written]
    exact digitChar_isDigit d digit
  have stops : digits n ['n', 's'] = some (n, ['n', 's']) := rfl
  rw [number, first, digits_toDigits fits, stops]
  rfl

/-- Nanoseconds are the unit in which durations are counted. -/
theorem add_nanoseconds {n : Nat} (fits : n < Nat.pow 2 64) : add 0 n 1 = some n := by
  have small : n / second < Nat.pow 2 64 := Nat.lt_of_le_of_lt (Nat.div_le_self ..) fits
  have whole : n / second * second + n % second = n := Nat.div_add_mod' ..
  simp [add, word?_of_lt fits, word?_of_lt small, whole]

theorem sumFrom_nanoseconds {n : Nat} (fits : n < Nat.pow 2 64) (fuel : Nat) :
    sumFrom (fuel + 2) 0 (Nat.toDigits 10 n ++ ['n', 's']) = some n := by
  obtain ⟨d, digit, cs, written⟩ := exists_toDigits n
  have begins : (Nat.toDigits 10 n ++ ['n', 's']).dropWhile isBlank =
      Nat.toDigits 10 n ++ ['n', 's'] := by
    rw [written, List.cons_append, List.dropWhile_cons_of_neg]
    rw [digitChar_visible d digit]
    exact Bool.false_ne_true
  have more : (Nat.toDigits 10 n ++ ['n', 's']).isEmpty = false := by simp
  have unit : unit? ['n', 's'] = some ⟨["ns", "nsec", "nanos"], 1, 1⟩ := by rfl
  have name : (['n', 's'] : List Char).takeWhile isUnitChar = ['n', 's'] := by decide
  rw [sumFrom, begins, more, number_nanoseconds fits]
  simp only [Bool.false_eq_true, if_false, Option.bind_eq_bind, Option.bind_some, name, unit,
    Unit.add, Nat.mul_one, add_nanoseconds fits]
  rfl

/-- **A number of nanoseconds is read back.** -/
theorem ofText?_nanoseconds {n : Nat} (fits : n < Nat.pow 2 64) :
    ofText? (nanoseconds n) = some n := by
  have text : (nanoseconds n).toList = Nat.toDigits 10 n ++ ['n', 's'] := String.toList_ofList
  have unit : 'n' ∈ (nanoseconds n).toList := by simp [text]
  have other : nanoseconds n ≠ "0" := by
    intro is
    rw [is] at unit
    cases List.mem_singleton.mp unit
  have visible : ¬ Blank.isAll (nanoseconds n) = true := by
    intro blank
    cases List.all_eq_true.mp blank 'n' unit
  obtain ⟨fuel, length⟩ : ∃ fuel, (nanoseconds n).length = fuel + 1 := by
    refine Nat.exists_eq_succ_of_ne_zero fun none => ?_
    rw [← String.length_toList, text] at none
    simp at none
  rw [ofText?, if_neg other, if_neg visible, length, text, sumFrom_nanoseconds fits]

end ProfileAudit.HumanDuration
