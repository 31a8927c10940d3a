import Mathlib.Algebra.Order.BigOperators.Group.List
import ProfileAudit.Proofs.Names
import ProfileAudit.Proofs.Text.Hex
import ProfileAudit.Toml

/-!
# Documents read back

A document of lines, each with a key and its value, has these keys and values for its members
(`members?_document`). A text is written with an escape for every character of it, so that what it
holds makes no difference, and a whole number by its hexadecimal digits.
-/

namespace ProfileAudit.Toml

/-! ## Texts -/

/-- A character by the eight digits of its code point. -/
def escaped (c : Char) : List Char := '\\' :: 'U' :: Hex.digits 8 c.toNat

/-- A text in quotes, with an escape for every character. -/
def quoted (s : List Char) : List Char := '"' :: (s.flatMap escaped ++ ['"'])

theorem toNat_lt_digits (c : Char) : c.toNat < 16 ^ 8 := by
  rcases c.valid with low | ⟨-, high⟩
  · exact Nat.lt_trans low (by decide)
  · exact Nat.lt_trans high (by decide)

theorem escape_escaped (c : Char) (t : List Char) :
    escape ('U' :: (Hex.digits 8 c.toNat ++ t)) = some (c, t) :=
  Hex.readCharacter_digits (by decide) (toNat_lt_digits c) t

theorem length_escaped (c : Char) : (escaped c).length = 10 := by
  rw [escaped, List.length_cons, List.length_cons,
    Hex.length_digits (by decide) (toNat_lt_digits c)]

theorem shortText_escaped (s t : List Char) {fuel : Nat} (enough : s.length < fuel) :
    shortText '"' false fuel (s.flatMap escaped ++ '"' :: t) = some (s, t) := by
  induction s generalizing fuel with
  | nil =>
      obtain ⟨fuel, rfl⟩ := Nat.exists_eq_add_of_lt enough
      rw [List.flatMap_nil, List.nil_append, shortText]
      simp
  | cons c s ih =>
      obtain ⟨fuel, rfl⟩ : ∃ n, fuel = n + 1 := Nat.exists_eq_succ_of_ne_zero (by omega)
      have text : (c :: s).flatMap escaped ++ '"' :: t =
          '\\' :: 'U' :: (Hex.digits 8 c.toNat ++ (s.flatMap escaped ++ '"' :: t)) := by
        simp [escaped]
      have rest : shortText '"' false fuel (s.flatMap escaped ++ '"' :: t) = some (s, t) :=
        ih (by simpa using enough)
      rw [text, shortText]
      simp [escape_escaped, rest]

theorem quotedText_quoted (s : List Char) {t : List Char} (apart : t.head? ≠ some '"') :
    quotedText true (quoted s ++ t) = some (String.ofList s, t) := by
  have single : (quoted s ++ t).take 3 ≠ ['"', '"', '"'] := by
    cases s with
    | nil =>
        cases t with
        | nil => decide
        | cons c t => simpa [quoted] using apart
    | cons c s => simp [quoted, escaped]
  have text : (quoted s ++ t).drop 1 = s.flatMap escaped ++ '"' :: t := by simp [quoted]
  have enough : s.length < (quoted s ++ t).length := by
    simp only [quoted, List.length_append, List.length_cons, List.length_flatMap, length_escaped,
      List.map_const', List.sum_replicate_nat]
    omega
  unfold quotedText
  have head : (quoted s ++ t).head? = some '"' := rfl
  simp only [head, text]
  simp [single, shortText_escaped s t (List.length_append ▸ enough)]

/-! ## Whole numbers -/

theorem hasDouble_eq_false {s : List Char} (whole : '_' ∉ s) : hasDouble s = false := by
  fun_induction hasDouble s with
  | case1 => simp at whole
  | case2 c s _ ih => exact ih fun member => whole (List.mem_cons_of_mem c member)
  | case3 => rfl

theorem isKeyChar_of_digit? {c : Char} (digit : (Hex.digit? c).isSome = true) :
    isKeyChar c = true := by
  unfold Hex.digit? at digit
  split at digit
  · next decimal => simp [isKeyChar, Char.isAlphanum, decimal]
  · split at digit
    · next small =>
        have bounded : c ≤ 'z' := Char.le_trans small.2 (by decide)
        have lower : c.isLower = true :=
          Bool.and_eq_true_iff.mpr ⟨decide_eq_true small.1, decide_eq_true bounded⟩
        have alpha : c.isAlpha = true := Bool.or_eq_true_iff.mpr (.inr lower)
        simp [isKeyChar, Char.isAlphanum, alpha]
    · split at digit
      · next capital =>
          have bounded : c ≤ 'Z' := Char.le_trans capital.2 (by decide)
          have upper : c.isUpper = true := decide_eq_true ⟨capital.1, bounded⟩
          have alpha : c.isAlpha = true := Bool.or_eq_true_iff.mpr (.inl upper)
          simp [isKeyChar, Char.isAlphanum, alpha]
      · cases digit

theorem integer?_digits (n : Nat) : integer? ('0' :: 'x' :: Hex.digits 1 n) = some (n : Int) := by
  have digits : ∀ c ∈ Hex.digits 1 n, (c == '_') = false := by
    intro c member
    refine beq_false_of_ne fun is => ?_
    subst is
    cases Hex.isSome_digit?_of_mem member
  have whole : '_' ∉ Hex.digits 1 n := fun member => by cases digits _ member
  have written : (Hex.digits 1 n).isEmpty = false := by
    simp [Hex.digits, Nat.toDigits_ne_nil]
  have first : ((Hex.digits 1 n).head? == some '_') = false :=
    beq_false_of_ne fun is => whole (List.mem_of_mem_head? is)
  have last : ((Hex.digits 1 n).getLast? == some '_') = false :=
    beq_false_of_ne fun is => whole (List.mem_of_getLast? is)
  have kept : (Hex.digits 1 n).filter (· != '_') = Hex.digits 1 n :=
    List.filter_eq_self.mpr fun c member => by rw [bne, digits c member]; rfl
  have value : Hex.inBase? 16 (Hex.digits 1 n) = some n := Hex.value?_digits 1 n
  change (digits? 16 (Hex.digits 1 n)).map Int.ofNat = _
  rw [digits?, written, first, last, hasDouble_eq_false whole, kept, value]
  rfl

/-! ## Values -/

/-- How a value is written. -/
def written : Value → List Char
  | .text s => quoted s.toList
  | .integer n => '0' :: 'x' :: Hex.digits 1 n.toNat

/-- A text, or a number that is not negative. -/
def Unsigned : Value → Prop
  | .text _ => True
  | .integer n => 0 ≤ n

theorem value_written {v : Value} (unsigned : Unsigned v) (t : List Char) :
    value (written v ++ '\n' :: t) = some (v, '\n' :: t) := by
  cases v with
  | text s =>
      have read := quotedText_quoted s.toList (t := '\n' :: t) (by simp)
      have head : (written (.text s) ++ '\n' :: t).head? = some '"' := rfl
      unfold value
      rw [head]
      dsimp only
      rw [written, read, String.ofList_toList]
      rfl
  | integer n =>
      have keys : ∀ c ∈ written (.integer n), (isKeyChar c || c == '+') = true := by
        have digits : ∀ c ∈ Hex.digits 1 n.toNat, (isKeyChar c || c == '+') = true :=
          fun c member => by
            rw [isKeyChar_of_digit? (Hex.isSome_digit?_of_mem member)]
            rfl
        exact List.forall_mem_cons.mpr ⟨by decide, List.forall_mem_cons.mpr ⟨by decide, digits⟩⟩
      have word : (written (.integer n) ++ '\n' :: t).takeWhile
          (fun c => isKeyChar c || c == '+') = written (.integer n) := by
        rw [List.takeWhile_append_of_pos keys]
        simp [isKeyChar]
      have head : (written (.integer n) ++ '\n' :: t).head? = some '0' := rfl
      unfold value
      rw [head]
      dsimp only
      rw [word, written, integer?_digits, Int.toNat_of_nonneg unsigned]
      simp

/-! ## Documents -/

/-- A line with a key and a value. -/
def line (m : String × Value) : List Char :=
  m.1.toList ++ ' ' :: '=' :: ' ' :: (written m.2 ++ ['\n'])

/-- A document with these members, each on a line. -/
def document (members : List (String × Value)) : String := String.ofList (members.flatMap line)

/-- A key that needs no quotes. -/
def IsWord (key : String) : Prop := key ≠ "" ∧ ∀ c ∈ key.toList, isKeyChar c = true

variable {k : String} {v : Value} {t : List Char}

theorem IsWord.exists_cons (word : IsWord k) : ∃ c cs, k.toList = c :: cs ∧ isKeyChar c = true := by
  obtain ⟨named, chars⟩ := word
  cases text : k.toList with
  | nil => exact absurd (String.toList_eq_nil_iff.mp text) named
  | cons c cs => exact ⟨c, cs, rfl, chars c (text ▸ List.mem_cons_self)⟩

/-- No character of a key is skipped. -/
theorem ne_of_isKeyChar {c d : Char} (word : isKeyChar c = true) (other : isKeyChar d = false) :
    c ≠ d := by
  intro is
  rw [is, other] at word
  cases word

theorem skipWhite_cons {c : Char} (word : isKeyChar c = true) (s : List Char) :
    skipWhite (c :: s) = c :: s := by
  have solid : isWhite c = false := by
    simp [isWhite, ne_of_isKeyChar word (d := ' ') rfl, ne_of_isKeyChar word (d := '\t') rfl]
  rw [skipWhite, List.dropWhile_cons_of_neg (by rw [solid]; exact Bool.false_ne_true)]

/-- A line does not end where a key begins. -/
theorem lineEnd_cons {c : Char} (word : isKeyChar c = true) (s : List Char) :
    lineEnd (c :: s) = none := by
  have comment : ((c :: s).head? == some '#') = false := by
    simpa using ne_of_isKeyChar word (d := '#') rfl
  have line : newline? (c :: s) = none := by
    unfold newline?
    split
    · next is => cases is; cases word
    · next is => cases is; cases word
    · rfl
  rw [lineEnd, skipWhite_cons word, comment]
  exact line

theorem key_word (word : IsWord k) (s : List Char) :
    key (k.toList ++ ' ' :: s) = some (k, ' ' :: s) := by
  have taken : (k.toList ++ ' ' :: s).takeWhile isKeyChar = k.toList := by
    rw [List.takeWhile_append_of_pos word.2]
    simp [isKeyChar]
  have named : k.toList.isEmpty = false := by simpa using word.1
  unfold key
  simp only [taken, named]
  simp

/-- A line adds its member to those of the lines that follow. -/
theorem membersFrom_line (word : IsWord k) (unsigned : Unsigned v) (fuel : Nat) (t : List Char) :
    membersFrom (fuel + 1) (line (k, v) ++ t) = (membersFrom fuel t).map ((k, v) :: ·) := by
  obtain ⟨c, cs, text, first⟩ := word.exists_cons
  have whole : line (k, v) ++ t = k.toList ++ ' ' :: '=' :: ' ' :: (written v ++ '\n' :: t) := by
    simp [line]
  have begins : line (k, v) ++ t = c :: (cs ++ ' ' :: '=' :: ' ' :: (written v ++ '\n' :: t)) := by
    rw [whole, text]
    rfl
  have some : (line (k, v) ++ t).isEmpty = false := by rw [begins]; rfl
  have starts : lineEnd (line (k, v) ++ t) = none := by rw [begins, lineEnd_cons first]
  have keyed : key (skipWhite (line (k, v) ++ t)) =
      .some (k, ' ' :: '=' :: ' ' :: (written v ++ '\n' :: t)) := by
    rw [begins, skipWhite_cons first, ← begins, whole, key_word word]
  have solid : skipWhite (' ' :: (written v ++ '\n' :: t)) = written v ++ '\n' :: t := by
    cases v <;> rfl
  have ends : lineEnd ('\n' :: t) = .some t := rfl
  rw [membersFrom, some, starts, keyed]
  have equals : skipWhite (' ' :: '=' :: ' ' :: (written v ++ '\n' :: t)) =
      '=' :: ' ' :: (written v ++ '\n' :: t) := rfl
  simp only [Bool.false_eq_true, if_false, Option.bind_eq_bind, Option.bind_some, equals, solid,
    value_written unsigned, ends]
  cases membersFrom fuel t <;> rfl

theorem membersFrom_document {members : List (String × Value)}
    (words : ∀ m ∈ members, IsWord m.1) (unsigned : ∀ m ∈ members, Unsigned m.2) {fuel : Nat}
    (enough : members.length < fuel) : membersFrom fuel (members.flatMap line) = some members := by
  induction members generalizing fuel with
  | nil =>
      obtain ⟨fuel, rfl⟩ := Nat.exists_eq_add_of_lt enough
      rfl
  | cons m members ih =>
      obtain ⟨fuel, rfl⟩ : ∃ n, fuel = n + 1 := Nat.exists_eq_succ_of_ne_zero (by omega)
      obtain ⟨word, words⟩ := List.forall_mem_cons.mp words
      obtain ⟨natural, unsigned⟩ := List.forall_mem_cons.mp unsigned
      rw [List.flatMap_cons, membersFrom_line word natural,
        ih words unsigned (Nat.lt_of_succ_lt_succ enough)]
      rfl

theorem length_le_flatMap_line (members : List (String × Value)) :
    members.length ≤ (members.flatMap line).length := by
  have long : ∀ n ∈ members.map fun m => (line m).length, 1 ≤ n := by
    intro n member
    obtain ⟨m, -, rfl⟩ := List.mem_map.mp member
    simp only [line, List.length_append, List.length_cons]
    omega
  have bound := List.length_le_sum_of_one_le _ long
  rw [List.length_map] at bound
  rwa [List.length_flatMap]

/-- A document does not begin with a byte order mark, which would be taken off it. -/
theorem flatMap_line_ne_mark {members : List (String × Value)}
    (words : ∀ m ∈ members, IsWord m.1) (s : List Char) :
    members.flatMap line ≠ '\ufeff' :: s := by
  intro marked
  cases members with
  | nil => cases marked
  | cons m members =>
      obtain ⟨c, cs, text, first⟩ := (words m List.mem_cons_self).exists_cons
      rw [List.flatMap_cons, line, text] at marked
      cases marked
      cases first

/-- **A document has the members that were written into it.** -/
theorem members?_document {members : List (String × Value)}
    (words : ∀ m ∈ members, IsWord m.1) (unsigned : ∀ m ∈ members, Unsigned m.2)
    (once : (members.map (·.1)).Nodup) : members? (document members) = some members := by
  have read := membersFrom_document words unsigned
    (Nat.lt_succ_of_le (length_le_flatMap_line members))
  have distinct : (members.map (·.1)).eraseDups.length = members.length := by
    rw [(length_eraseDups_eq_iff _).mpr once, List.length_map]
  unfold members?
  rw [document, String.toList_ofList]
  split
  · next s text => exact absurd text (flatMap_line_ne_mark words s)
  · dsimp only
    rw [read]
    exact if_pos distinct

end ProfileAudit.Toml
