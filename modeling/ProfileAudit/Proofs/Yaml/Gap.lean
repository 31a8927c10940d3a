import Mathlib.Data.List.Basic
import Mathlib.Data.List.TakeWhile
import ProfileAudit.Yaml.Writer

/-!
# Words and gaps

A scalar is read word by word, and what stands between two words is a gap: white space, or line
breaks with the indentation behind them. White space on one line is kept, and of the breaks that can
be printed so are all but line feeds (`Gap.read_white`, `Gap.read_breaks`). What is shown of a text
by its words and gaps is shown of every text (`words_induction`).
-/

namespace ProfileAudit.Yaml

variable {c d : Char} {s t u w : List Char} {i l k fuel : Nat}

/-! ## Characters -/

theorem le_iff_toNat_le : c ≤ d ↔ c.toNat ≤ d.toNat := by
  rw [Char.le_def, UInt32.le_iff_toNat_le]
  rfl

theorem lt_iff_toNat_lt : c < d ↔ c.toNat < d.toNat := by
  rw [Char.lt_def, UInt32.lt_iff_toNat_lt]
  rfl

theorem isPrintable_iff : isPrintable c = true ↔ c.toNat = 0xa ∨
    (0x20 ≤ c.toNat ∧ c.toNat ≤ 0x7e) ∨
    (0xa0 ≤ c.toNat ∧ c.toNat ≤ 0xfffd ∧ c.toNat ≠ 0xfeff) ∨ 0xffff < c.toNat := by
  simp [isPrintable, byteOrderMark, le_iff_toNat_le, lt_iff_toNat_lt, ← Char.toNat_inj, or_assoc,
    and_assoc]

theorem isAllowed_iff : isAllowed c = true ↔ c.toNat = 9 ∨ c.toNat = 0xa ∨ c.toNat = 0xd ∨
    (0x20 ≤ c.toNat ∧ c.toNat ≤ 0x7e) ∨ c.toNat = 0x85 ∨
    (0xa0 ≤ c.toNat ∧ c.toNat ≤ 0xfffd) ∨ 0xffff < c.toNat := by
  simp [isAllowed, le_iff_toNat_le, lt_iff_toNat_lt, ← Char.toNat_inj, or_assoc]

theorem isBreak_iff : isBreak c = true ↔ c.toNat = 0xa ∨ c.toNat = 0xd ∨ c.toNat = 0x85 ∨
    c.toNat = 0x2028 ∨ c.toNat = 0x2029 := by
  simp [isBreak, ← Char.toNat_inj, or_assoc]

theorem isWhite_iff : isWhite c = true ↔ c.toNat = 0x20 ∨ c.toNat = 9 := by
  simp [isWhite, ← Char.toNat_inj]

/-- White space or a line break, which ends a word of a scalar. -/
def isSpacing (c : Char) : Bool := isWhite c || isBreak c

theorem isSpacing_eq_false_iff :
    isSpacing c = false ↔ isWhite c = false ∧ isBreak c = false := Bool.or_eq_false_iff

theorem isWhite_of_isBreak (own : isBreak c = true) : isWhite c = false := by
  have p := isBreak_iff.mp own
  rw [Bool.eq_false_iff, Ne, isWhite_iff]
  omega

/-- The line breaks that can be printed. -/
theorem cases_of_isBreak (printable : isPrintable c = true) (own : isBreak c = true) :
    c = '\n' ∨ c = '\u2028' ∨ c = '\u2029' := by
  have p := isPrintable_iff.mp printable
  have b := isBreak_iff.mp own
  simp only [← Char.toNat_inj]
  change c.toNat = 0xa ∨ c.toNat = 0x2028 ∨ c.toNat = 0x2029
  omega

theorem isWhite_of_isPrintable (printable : isPrintable c = true) (ink : c ≠ ' ') :
    isWhite c = false := by
  have p := isPrintable_iff.mp printable
  have blank : c.toNat ≠ 0x20 := fun is => ink (Char.toNat_inj.mp is)
  rw [Bool.eq_false_iff, Ne, isWhite_iff]
  omega

/-- What can be printed of a gap is blanks and line breaks. -/
theorem blank_or_break_of_isPrintable (printable : isPrintable c = true)
    (spacing : isSpacing c = true) : c = ' ' ∨ isBreak c = true := by
  rcases Bool.or_eq_true_iff.mp spacing with white | own
  · refine .inl (Decidable.byContradiction fun ink => ?_)
    cases white.symm.trans (isWhite_of_isPrintable printable ink)
  · exact .inr own

/-! ## Places -/

namespace Cursor

theorem gapAt_zero_cons : gapAt ⟨c :: t, i, l, k⟩ 0 = isSpacing c := rfl

theorem has_zero_cons {p : Char → Bool} : has ⟨c :: t, i, l, k⟩ 0 p = p c := rfl
theorem has_one_cons {p : Char → Bool} : has ⟨c :: d :: t, i, l, k⟩ 1 p = p d := rfl

theorem next_cons : next ⟨c :: t, i, l, k⟩ = ⟨t, i + 1, l, k + 1⟩ := rfl

theorem skip_append : skip ⟨s ++ t, i, l, k⟩ s.length =
    ⟨t, i + s.length, l, k + s.length⟩ := by
  rw [skip, List.drop_left]

theorem atDocumentMark_of_pos (inside : 0 < k) : atDocumentMark ⟨t, i, l, k⟩ = false := by
  simp [atDocumentMark, marks, Nat.ne_of_gt inside]

theorem nextLine_cons (printable : isPrintable c = true) (own : isBreak c = true) :
    nextLine ⟨c :: t, i, l, k⟩ = ⟨t, i + 1, l + 1, 0⟩ := by
  rcases cases_of_isBreak printable own with rfl | rfl | rfl <;> rfl

theorem breakChar_cons (printable : isPrintable c = true) (own : isBreak c = true) :
    breakChar ⟨c :: t, i, l, k⟩ = c := by
  rcases cases_of_isBreak printable own with rfl | rfl | rfl <;> rfl

end Cursor

/-! ## Gaps -/

namespace Gap

variable {g : Gap} {tabsFrom : Nat}

theorem read_end (ends : t.head?.all (!isSpacing ·) = true) :
    read tabsFrom fuel g ⟨t, i, l, k⟩ = some (g, ⟨t, i, l, k⟩) := by
  cases fuel with
  | zero => rfl
  | succ n =>
      cases t with
      | nil => rfl
      | cons c t =>
          have spacing : isSpacing c = false := by simpa using ends
          obtain ⟨white, line⟩ := isSpacing_eq_false_iff.mp spacing
          simp only [read, Cursor.has_zero_cons, white, line]
          rfl

theorem read_white (unbroken : g.broken = false) (white : ∀ c ∈ w, isWhite c = true)
    (ends : t.head?.all (!isSpacing ·) = true) (enough : w.length ≤ fuel) :
    read tabsFrom fuel g ⟨w ++ t, i, l, k⟩ =
      some ({ g with white := g.white ++ w }, ⟨t, i + w.length, l, k + w.length⟩) := by
  induction w generalizing g fuel i k with
  | nil =>
      rw [List.append_nil]
      exact read_end ends
  | cons c w ih =>
      obtain ⟨own, white⟩ := List.forall_mem_cons.mp white
      obtain ⟨n, rfl⟩ := Nat.exists_eq_add_one.mpr (Nat.zero_lt_of_lt enough)
      obtain ⟨broken, before, first, further⟩ := g
      cases unbroken
      simp only [List.cons_append, read, Cursor.has_zero_cons, own, Cursor.next_cons,
        Bool.false_and, if_true, Bool.false_eq_true, if_false]
      rw [ih rfl white (Nat.le_of_succ_le_succ enough)]
      simp [Cursor.peek, Nat.add_assoc, Nat.add_comm 1]

/-- White space behind a break is left out. -/
theorem read_indent (broken : g.broken = true) (white : ∀ c ∈ w, isWhite c = true)
    (ends : t.head?.all (!isSpacing ·) = true) (enough : w.length ≤ fuel) :
    read 0 fuel g ⟨w ++ t, i, l, k⟩ = some (g, ⟨t, i + w.length, l, k + w.length⟩) := by
  induction w generalizing fuel i k with
  | nil => exact read_end ends
  | cons c w ih =>
      obtain ⟨own, white⟩ := List.forall_mem_cons.mp white
      obtain ⟨n, rfl⟩ := Nat.exists_eq_add_one.mpr (Nat.zero_lt_of_lt enough)
      simp only [List.cons_append, read, Cursor.has_zero_cons, own, broken, Cursor.next_cons,
        Nat.not_lt_zero, decide_false, Bool.and_false, Bool.false_and, if_true, Bool.false_eq_true,
        if_false]
      rw [ih white (Nat.le_of_succ_le_succ enough)]
      simp [Nat.add_assoc, Nat.add_comm 1]

/-- Further breaks are kept as they are. -/
theorem read_further {bs : List Char} (broken : g.broken = true)
    (breaks : ∀ b ∈ bs, isPrintable b = true ∧ isBreak b = true)
    (white : ∀ c ∈ w, isWhite c = true) (ends : t.head?.all (!isSpacing ·) = true)
    (enough : (bs ++ w).length ≤ fuel) :
    read 0 fuel g ⟨bs ++ (w ++ t), i, l, 0⟩ = some ({ g with further := g.further ++ bs },
      ⟨t, i + bs.length + w.length, l + bs.length, w.length⟩) := by
  induction bs generalizing g fuel i l with
  | nil =>
      have indent := read_indent (i := i) (l := l) (k := 0) broken white ends enough
      simpa using indent
  | cons b bs ih =>
      obtain ⟨⟨printable, own⟩, breaks⟩ := List.forall_mem_cons.mp breaks
      obtain ⟨n, rfl⟩ := Nat.exists_eq_add_one.mpr (Nat.zero_lt_of_lt enough)
      simp only [List.cons_append, read, Cursor.has_zero_cons, isWhite_of_isBreak own, own, broken,
        if_true, Bool.false_eq_true, if_false, Cursor.nextLine_cons printable own,
        Cursor.breakChar_cons printable own]
      rw [ih rfl breaks (Nat.le_of_succ_le_succ enough)]
      simp [Nat.add_assoc, Nat.add_comm 1]

/-- Breaks and the indentation behind them are read as the breaks. -/
theorem read_breaks {b : Char} {bs : List Char}
    (breaks : ∀ d ∈ b :: bs, isPrintable d = true ∧ isBreak d = true)
    (white : ∀ c ∈ w, isWhite c = true) (ends : t.head?.all (!isSpacing ·) = true)
    (enough : (b :: bs ++ w).length ≤ fuel) :
    read 0 fuel {} ⟨b :: bs ++ (w ++ t), i, l, k⟩ =
      some ({ broken := true, first := [b], further := bs },
        ⟨t, i + 1 + bs.length + w.length, l + 1 + bs.length, w.length⟩) := by
  obtain ⟨⟨printable, own⟩, further⟩ := List.forall_mem_cons.mp breaks
  obtain ⟨n, rfl⟩ := Nat.exists_eq_add_one.mpr (Nat.zero_lt_of_lt enough)
  simp only [List.cons_append, read, Cursor.has_zero_cons, isWhite_of_isBreak own, own,
    if_true, Bool.false_eq_true, if_false, Cursor.nextLine_cons printable own,
    Cursor.breakChar_cons printable own]
  exact read_further rfl further white ends (Nat.le_of_succ_le_succ enough)

/-- A scalar does not go on behind a line feed, where the line is not indented. -/
theorem read_feed {n : Nat} (ends : t.head?.all (!isSpacing ·) = true) :
    read n (fuel + 1) {} ⟨'\n' :: t, i, l, k⟩ =
      some ({ broken := true, first := ['\n'] }, ⟨t, i + 1, l + 1, 0⟩) := by
  have stop : read n fuel { broken := true, first := ['\n'] } ⟨t, i + 1, l + 1, 0⟩ = _ :=
    read_end ends
  exact stop

end Gap

/-! ## Words behind gaps -/

theorem length_behind_lt {g : List Char} (some : g ≠ []) : u.length < (w ++ (g ++ u)).length := by
  have positive := List.length_pos_iff.mpr some
  simp only [List.length_append]
  omega

/-- If a text does not end in a gap, there is another word behind each gap. -/
theorem exists_word_behind {spacing : Char → Bool} {g : List Char} (some : g ≠ [])
    (isGap : ∀ c ∈ g, spacing c = true)
    (last : ∀ c ∈ (w ++ (g ++ u)).getLast?, spacing c = false) :
    ∃ d v, u = d :: v ∧ (w ++ (g ++ u)).getLast? = u.getLast? := by
  cases u with
  | nil =>
      obtain ⟨e, ends⟩ := Option.isSome_iff_exists.mp (List.getLast?_isSome.mpr some)
      rw [List.append_nil, List.getLast?_append_of_ne_nil _ some] at last
      cases (isGap e (List.mem_of_getLast? ends)).symm.trans (last e ends)
  | cons d u =>
      refine ⟨d, u, rfl, ?_⟩
      rw [List.getLast?_append_of_ne_nil _ (by simp), List.getLast?_append_of_ne_nil _ (by simp)]

/-! ## Induction -/

/-- A text is one word, or a word and a gap before another text. -/
theorem words_induction {motive : List Char → Prop} (spacing : Char → Bool)
    (word : ∀ w, (∀ c ∈ w, spacing c = false) → motive w)
    (gap : ∀ w g u, (∀ c ∈ w, spacing c = false) → g ≠ [] → (∀ c ∈ g, spacing c = true) →
      u.head?.all (!spacing ·) = true → motive u → motive (w ++ (g ++ u))) (s : List Char) :
    motive s := by
  have leading (p : Char → Bool) (s : List Char) : ∀ c ∈ s.takeWhile p, p c = true :=
    fun c member => List.mem_takeWhile_imp member
  have next (p : Char → Bool) (s : List Char) : (s.dropWhile p).head?.all (!p ·) = true := by
    have stops := List.head?_dropWhile_not p s
    cases h : (s.dropWhile p).head? with
    | none => rfl
    | some c => simpa [h] using stops
  induction length : s.length using Nat.strongRecOn generalizing s with
  | ind n ih =>
      have split : s.takeWhile (!spacing ·) ++ s.dropWhile (!spacing ·) = s :=
        List.takeWhile_append_dropWhile
      have isWord : ∀ c ∈ s.takeWhile (!spacing ·), spacing c = false := fun c member => by
        simpa using leading _ s c member
      have start := next (!spacing ·) s
      generalize s.takeWhile (!spacing ·) = w at split isWord
      generalize s.dropWhile (!spacing ·) = v at split start
      cases v with
      | nil =>
          rw [← split, List.append_nil]
          exact word w isWord
      | cons c v =>
          have first : spacing c = true := by simpa using start
          have split' : (c :: v).takeWhile spacing ++ (c :: v).dropWhile spacing = c :: v :=
            List.takeWhile_append_dropWhile
          have some : (c :: v).takeWhile spacing ≠ [] := by
            rw [List.takeWhile_cons_of_pos first]
            exact List.cons_ne_nil _ _
          have isGap := leading spacing (c :: v)
          have start := next spacing (c :: v)
          generalize (c :: v).takeWhile spacing = g at split' some isGap
          generalize (c :: v).dropWhile spacing = u at split' start
          rw [← split, ← split'] at length ⊢
          have shorter : u.length < n := length ▸ length_behind_lt some
          exact gap w g u isWord some isGap start (ih u.length shorter u rfl)

end ProfileAudit.Yaml
