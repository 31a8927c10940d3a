import Mathlib.Data.List.Chain
import ProfileAudit.Proofs.Text.Hex
import ProfileAudit.Proofs.Yaml.Gap

/-!
# Quoted scalars read back

In either style of quotes what is written for a character is read as that character (`Reads`), and
gaps are kept: blanks as they are, and breaks other than line feeds with an indentation behind them.
So double quotes keep every text (`quotedFrom_double`), and single quotes keep a text that has no
line feed if its gaps are of one kind each (`quotedFrom_single`).
-/

namespace ProfileAudit.Yaml

variable {c d : Char} {s t u w : List Char} {i l k fuel : Nat}

/-! ## Words -/

section

/-- A character has been read before what follows it. -/
def behind (c : Char) : Option (List Char × Bool × Cursor) → Option (List Char × Bool × Cursor) :=
  Option.map fun r => (c :: r.1, r.2)

variable {single : Bool}

theorem quotedWord_char (spacing : isSpacing c = false)
    (unmarked : (single = true → c ≠ '\x27') ∧ (single = false → c ≠ '"' ∧ c ≠ '\\')) :
    quotedWord single (fuel + 1) ⟨c :: t, i, l, k⟩ =
      behind c (quotedWord single fuel ⟨t, i + 1, l, k + 1⟩) := by
  rw [quotedWord, Cursor.gapAt_zero_cons, spacing]
  cases single with
  | true =>
      have quote : (c == '\x27') = false := beq_false_of_ne (unmarked.1 rfl)
      simp only [Cursor.has_zero_cons, quote, Cursor.next_cons]
      cases quotedWord true fuel ⟨t, i + 1, l, k + 1⟩ <;> rfl
  | false =>
      obtain ⟨quote, backslash⟩ := unmarked.2 rfl
      simp only [Cursor.has_zero_cons, beq_false_of_ne quote, beq_false_of_ne backslash,
        Cursor.next_cons]
      cases quotedWord false fuel ⟨t, i + 1, l, k + 1⟩ <;> rfl

theorem quotedWord_twice : quotedWord true (fuel + 1) ⟨'\x27' :: '\x27' :: t, i, l, k⟩ =
    behind '\x27' (quotedWord true fuel ⟨t, i + 2, l, k + 2⟩) := by
  rw [quotedWord]
  change Option.bind (quotedWord true fuel ⟨t, i + 2, l, k + 2⟩) _ = _
  cases quotedWord true fuel ⟨t, i + 2, l, k + 2⟩ <;> rfl

theorem quotedWord_escape (line : isBreak d = false) :
    quotedWord false (fuel + 1) ⟨'\\' :: d :: t, i, l, k⟩ =
      (escape ⟨d :: t, i + 1, l, k + 1⟩).bind fun r => behind r.1 (quotedWord false fuel r.2) := by
  have spacing : isSpacing '\\' = false := by decide
  rw [quotedWord, Cursor.gapAt_zero_cons, spacing, Cursor.has_one_cons (p := isBreak), line]
  change Option.bind (escape ⟨d :: t, i + 1, l, k + 1⟩) _ = _
  cases escape ⟨d :: t, i + 1, l, k + 1⟩ with
  | none => rfl
  | some r =>
      change Option.bind (quotedWord false fuel r.2) _ = behind r.1 (quotedWord false fuel r.2)
      cases quotedWord false fuel r.2 <;> rfl

end

/-- A character is read back from what is written for it in quotes. -/
structure Reads (single : Bool) (write : Char → List Char) (c : Char) : Prop where
  some : 0 < (write c).length
  reads : ∀ fuel t i l k, quotedWord single (fuel + 1) ⟨write c ++ t, i, l, k⟩ =
    behind c (quotedWord single fuel ⟨t, i + (write c).length, l, k + (write c).length⟩)

/-- A word ends here. -/
def EndsWord (single : Bool) (t : List Char) : Prop :=
  ∀ fuel i l k, quotedWord single (fuel + 1) ⟨t, i, l, k⟩ = some ([], false, ⟨t, i, l, k⟩)

theorem length_le_flatMap {write : Char → List Char} (some : ∀ c ∈ w, 0 < (write c).length) :
    w.length ≤ (w.flatMap write).length := by
  induction w with
  | nil => exact Nat.le_refl 0
  | cons c w ih =>
      obtain ⟨own, some⟩ := List.forall_mem_cons.mp some
      have more := ih some
      rw [List.flatMap_cons, List.length_append, List.length_cons]
      omega

theorem quotedWord_of_reads {single : Bool} {write : Char → List Char}
    (reads : ∀ c ∈ w, Reads single write c) (ends : EndsWord single t) (enough : w.length < fuel) :
    quotedWord single fuel ⟨w.flatMap write ++ t, i, l, k⟩ = some (w, false,
      ⟨t, i + (w.flatMap write).length, l, k + (w.flatMap write).length⟩) := by
  induction w generalizing fuel i k with
  | nil =>
      obtain ⟨n, rfl⟩ := Nat.exists_eq_add_one.mpr enough
      exact ends n i l k
  | cons c w ih =>
      obtain ⟨n, rfl⟩ := Nat.exists_eq_add_one.mpr (Nat.zero_lt_of_lt enough)
      obtain ⟨own, reads⟩ := List.forall_mem_cons.mp reads
      rw [List.flatMap_cons, List.append_assoc, own.reads, ih reads (Nat.lt_of_succ_lt_succ enough)]
      simp [behind, Nat.add_assoc]

/-- The fuel that a quoted scalar gives for a word. -/
theorem quotedWord_written {single : Bool} {write : Char → List Char}
    (reads : ∀ c ∈ w, Reads single write c) (ends : EndsWord single t) (i l k : Nat) :
    quotedWord single (w.flatMap write ++ t).length.succ ⟨w.flatMap write ++ t, i, l, k⟩ =
      some (w, false, ⟨t, i + (w.flatMap write).length, l, k + (w.flatMap write).length⟩) := by
  apply quotedWord_of_reads reads ends
  have long := length_le_flatMap fun c member => (reads c member).some
  rw [List.length_append]
  omega

theorem endsWord_of_isSpacing {single : Bool} (spacing : isSpacing c = true) :
    EndsWord single (c :: t) := by
  intro fuel i l k
  rw [quotedWord, Cursor.gapAt_zero_cons, spacing]
  rfl

/-! ## Words with their gaps -/

section

variable {single : Bool} {c : Cursor} {after : Cursor} {text : List Char} {q : Char}

/-- The sign that closes a scalar. -/
def closing (single : Bool) : Char := if single then '\x27' else '"'

theorem not_closing_of_isSpacing (spacing : isSpacing d = true) :
    Cursor.has ⟨d :: t, i, l, k⟩ 0 (· == closing single) = false := by
  rw [Cursor.has_zero_cons, beq_eq_false_iff_ne]
  rintro rfl
  cases single <;> cases spacing

theorem quotedFrom_word {i' l' k' : Nat} (inside : 0 < k) (some : s ≠ [])
    (word : quotedWord single s.length.succ ⟨s, i, l, k⟩ =
      .some (w, false, ⟨closing single :: t, i', l', k'⟩)) :
    quotedFrom single (fuel + 1) ⟨s, i, l, k⟩ = .some (w, ⟨t, i' + 1, l', k' + 1⟩) := by
  have filled : Cursor.atEnd ⟨s, i, l, k⟩ = false := List.isEmpty_eq_false_iff.mpr some
  rw [quotedFrom, Cursor.atDocumentMark_of_pos inside, filled]
  change Option.bind (quotedWord single s.length.succ ⟨s, i, l, k⟩) _ = _
  rw [word]
  cases single <;> rfl

theorem quotedFrom_gap {g : Gap} (inside : 0 < k) (some : s ≠ [])
    (word : quotedWord single s.length.succ ⟨s, i, l, k⟩ = .some (w, false, c))
    (open_ : c.has 0 (· == closing single) = false)
    (gap : Gap.read 0 c.rest.length.succ {} c = .some (g, after)) :
    quotedFrom single (fuel + 1) ⟨s, i, l, k⟩ =
      (quotedFrom single fuel after).map fun r => (w ++ (g.text ++ r.1), r.2) := by
  have filled : Cursor.atEnd ⟨s, i, l, k⟩ = false := List.isEmpty_eq_false_iff.mpr some
  rw [quotedFrom, Cursor.atDocumentMark_of_pos inside, filled]
  change Option.bind (quotedWord single s.length.succ ⟨s, i, l, k⟩) _ = _
  rw [word, Option.bind_some]
  change (if c.has 0 (· == closing single) then _ else
    (Gap.read 0 c.rest.length.succ {} c).bind _) = _
  rw [open_, if_neg (by decide), gap]
  change (quotedFrom single fuel after).bind _ = _
  cases quotedFrom single fuel after with
  | none => rfl
  | some r => simp [List.append_assoc]

end

/-- A word and white space are read back, and what follows them is read. -/
theorem quotedFrom_white {write : Char → List Char} {single : Bool} {g : List Char}
    (inside : 0 < k) (reads : ∀ c ∈ w, Reads single write c) (some : g ≠ [])
    (white : ∀ c ∈ g, isWhite c = true) (ends : t.head?.all (!isSpacing ·) = true) :
    quotedFrom single (fuel + 1) ⟨w.flatMap write ++ (g ++ t), i, l, k⟩ =
      (quotedFrom single fuel ⟨t, i + (w.flatMap write).length + g.length, l,
        k + (w.flatMap write).length + g.length⟩).map fun r => (w ++ (g ++ r.1), r.2) := by
  obtain ⟨c, g, rfl⟩ := List.exists_cons_of_ne_nil some
  have own : isWhite c = true := white c List.mem_cons_self
  have spacing : isSpacing c = true := by rw [isSpacing, own, Bool.true_or]
  have word := quotedWord_written reads (endsWord_of_isSpacing (t := g ++ t) spacing) i l k
  rw [List.cons_append, quotedFrom_gap inside (by simp) word (not_closing_of_isSpacing spacing)
    (Gap.read_white (w := c :: g) rfl white ends (by simp; omega))]
  rfl

/-- A word and line breaks are read back, and what follows them and the indentation is read. -/
theorem quotedFrom_breaks {write : Char → List Char} {single : Bool} {b : Char} {bs : List Char}
    (inside : 0 < k) (reads : ∀ c ∈ w, Reads single write c)
    (breaks : ∀ d ∈ b :: bs, isPrintable d = true ∧ isBreak d = true) (feed : b ≠ '\n')
    (ends : t.head?.all (!isSpacing ·) = true) :
    quotedFrom single (fuel + 1) ⟨w.flatMap write ++ (b :: bs ++ (scalarIndent ++ t)), i, l, k⟩ =
      (quotedFrom single fuel ⟨t, i + (w.flatMap write).length + 1 + bs.length + 2,
        l + 1 + bs.length, 2⟩).map fun r => (w ++ (b :: bs ++ r.1), r.2) := by
  have own := (breaks b List.mem_cons_self).2
  have spacing : isSpacing b = true := by rw [isSpacing, own, Bool.or_true]
  have word := quotedWord_written reads
    (endsWord_of_isSpacing (t := bs ++ (scalarIndent ++ t)) spacing) i l k
  rw [List.cons_append, quotedFrom_gap inside (by simp) word (not_closing_of_isSpacing spacing)
    (Gap.read_breaks breaks (List.all_eq_true.mp rfl) ends (by simp [scalarIndent]))]
  simp [Gap.text, feed, scalarIndent]

/-! ## Double quotes -/

/-- Characters that stand for themselves in double quotes. -/
def standsDouble (c : Char) : Bool := isPrintable c && !isBreak c && c != '"' && c != '\\'

theorem doubleQuotedChar_of_stands (stands : standsDouble c = true) : doubleQuotedChar c = [c] :=
  if_pos stands

theorem isSpacing_of_stands (stands : standsDouble c = true) (ink : c ≠ ' ') :
    isSpacing c = false := by
  simp only [standsDouble, Bool.and_eq_true, Bool.not_eq_true'] at stands
  rw [isSpacing, isWhite_of_isPrintable stands.1.1.1 ink, stands.1.1.2]
  rfl

theorem reads_of_stands (stands : standsDouble c = true) (ink : c ≠ ' ') :
    Reads false doubleQuotedChar c := by
  have spacing := isSpacing_of_stands stands ink
  have written := doubleQuotedChar_of_stands stands
  simp only [standsDouble, Bool.and_eq_true, bne_iff_ne] at stands
  refine ⟨by simp [written], fun fuel t i l k => ?_⟩
  rw [written]
  exact quotedWord_char spacing ⟨nofun, fun _ => ⟨stands.1.2, stands.2⟩⟩

/-- What stands for a character behind a backslash: it is in one line, a document may hold it, and
it is read back. -/
structure ReadsEscape (e : List Char) (c : Char) : Prop where
  inLine : e.head?.any (!isBreak ·) = true
  allowed : ∀ d ∈ e, isAllowed d = true
  reads : ∀ t i l k, escape ⟨e ++ t, i, l, k⟩ = some (c, ⟨t, i + e.length, l, k + e.length⟩)

theorem readsEscape_simple {e : Char} (simple : simpleEscape? e = some c)
    (plain : e ≠ 'x' ∧ e ≠ 'u' ∧ e ≠ 'U') (inLine : isBreak e = false)
    (allowed : isAllowed e = true) : ReadsEscape [e] c := by
  refine ⟨by simp [inLine], List.forall_mem_singleton.mpr allowed, fun t i l k => ?_⟩
  obtain ⟨x, u, U⟩ := plain
  simp only [escape, Cursor.peek, List.singleton_append, List.head?_cons]
  simp [simple, Cursor.next]

theorem isAllowed_of_digit? (digit : (Hex.digit? c).isSome = true) : isAllowed c = true := by
  unfold Hex.digit? at digit
  rw [isAllowed_iff]
  split at digit
  · next decimal =>
      simp only [Char.isDigit, Bool.and_eq_true, decide_eq_true_eq, ge_iff_le,
        UInt32.le_iff_toNat_le] at decimal
      change 48 ≤ c.toNat ∧ c.toNat ≤ 57 at decimal
      omega
  · split at digit
    · next lower =>
        simp only [le_iff_toNat_le] at lower
        change 97 ≤ c.toNat ∧ c.toNat ≤ 102 at lower
        omega
    · split at digit
      · next upper =>
          simp only [le_iff_toNat_le] at upper
          change 65 ≤ c.toNat ∧ c.toNat ≤ 70 at upper
          omega
      · cases digit

theorem readsEscape_digits {n : Nat} (some : 0 < n) (fits : c.toNat < 16 ^ n) {mark : Char}
    (plain : isBreak mark = false ∧ isAllowed mark = true)
    (marks : ∀ t i l k, escape ⟨mark :: t, i, l, k⟩ = escapedPoint n ⟨t, i + 1, l, k + 1⟩) :
    ReadsEscape (mark :: Hex.digits n c.toNat) c := by
  refine ⟨by simp [plain.1], List.forall_mem_cons.mpr ⟨plain.2, fun d member => ?_⟩,
    fun t i l k => ?_⟩
  · exact isAllowed_of_digit? (Hex.isSome_digit?_of_mem member)
  · rw [List.cons_append, marks, escapedPoint, Hex.readCharacter_digits some fits]
    simp [Cursor.skip, Hex.length_digits some fits]
    omega

theorem exists_escape (c : Char) (marked : standsDouble c = false) :
    ∃ e, doubleQuotedChar c = '\\' :: e ∧ ReadsEscape e c := by
  have unmarked : ¬ standsDouble c = true := by simp [marked]
  unfold doubleQuotedChar
  unfold standsDouble at unmarked
  rw [if_neg unmarked]
  refine ⟨_, rfl, ?_⟩
  split
  iterate 14 next => exact readsEscape_simple rfl (by decide) (by decide) (by decide)
  next =>
    split
    · next short => exact readsEscape_digits (by decide) (by omega) (by decide) fun _ _ _ _ => rfl
    · split
      · next long => exact readsEscape_digits (by decide) (by omega) (by decide) fun _ _ _ _ => rfl
      · have point : c.toNat < 0x110000 := by
          rcases c.valid with low | ⟨-, high⟩
          · exact Nat.lt_trans low (by decide)
          · exact high
        exact readsEscape_digits (by decide) (by omega) (by decide) fun _ _ _ _ => rfl

theorem length_le_doubleQuoted (s : List Char) : s.length ≤ (s.flatMap doubleQuotedChar).length :=
  length_le_flatMap fun c _ => by
    cases stands : standsDouble c with
    | true => simp [doubleQuotedChar_of_stands stands]
    | false =>
        obtain ⟨e, written, -⟩ := exists_escape c stands
        simp [written]

theorem isAllowed_of_isPrintable (printable : isPrintable c = true) : isAllowed c = true := by
  have p := isPrintable_iff.mp printable
  rw [isAllowed_iff]
  omega

theorem isAllowed_of_mem_doubleQuotedChar (member : d ∈ doubleQuotedChar c) :
    isAllowed d = true := by
  cases stands : standsDouble c with
  | true =>
      rw [doubleQuotedChar_of_stands stands, List.mem_singleton] at member
      simp only [standsDouble, Bool.and_eq_true] at stands
      exact member ▸ isAllowed_of_isPrintable stands.1.1.1
  | false =>
      obtain ⟨e, written, escapes⟩ := exists_escape c stands
      rw [written] at member
      rcases List.mem_cons.mp member with rfl | member
      · decide
      · exact escapes.allowed d member

theorem reads_doubleQuotedChar (ink : c ≠ ' ') : Reads false doubleQuotedChar c := by
  cases stands : standsDouble c with
  | true => exact reads_of_stands stands ink
  | false =>
      obtain ⟨e, written, inLine, -, read⟩ := exists_escape c stands
      refine ⟨by simp [written], fun fuel t i l k => ?_⟩
      obtain ⟨d, e, rfl⟩ : ∃ d e', e = d :: e' := by
        cases e with
        | nil => cases inLine
        | cons d e => exact ⟨d, e, rfl⟩
      have line : isBreak d = false := by simpa using inLine
      rw [written, List.cons_append, List.cons_append, quotedWord_escape line, ← List.cons_append,
        read, Option.bind_some]
      simp [Nat.add_assoc, Nat.add_comm 1]

theorem endsWord_double {e : Char} (ends : e = ' ' ∨ e = '"') : EndsWord false (e :: t) := by
  intro fuel i l k
  rcases ends with rfl | rfl <;> rfl

/-- What is written for a text in double quotes begins with no gap unless the text does. -/
theorem head?_doubleQuoted (ends : s.head?.all (!(· == ' ') ·) = true) :
    (s.flatMap doubleQuotedChar ++ '"' :: t).head?.all (!isSpacing ·) = true := by
  cases s with
  | nil => rfl
  | cons c s =>
      have ink : c ≠ ' ' := by simpa using ends
      cases stands : standsDouble c with
      | true => simp [doubleQuotedChar_of_stands stands, isSpacing_of_stands stands ink]
      | false =>
          obtain ⟨e, written, -⟩ := exists_escape c stands
          rw [List.flatMap_cons, written]
          rfl

theorem flatMap_of_blank {write : Char → List Char} (stands : write ' ' = [' ']) {g : List Char}
    (blank : ∀ c ∈ g, (c == ' ') = true) : g.flatMap write = g := by
  induction g with
  | nil => rfl
  | cons c g ih =>
      obtain ⟨own, blank⟩ := List.forall_mem_cons.mp blank
      rw [List.flatMap_cons, ih blank, beq_iff_eq.mp own, stands]
      rfl

/-- **Double quotes keep every text.** -/
theorem quotedFrom_double (s t : List Char) (l : Nat) (inside : 0 < k) (enough : s.length < fuel) :
    ∃ after : Cursor, quotedFrom false fuel ⟨s.flatMap doubleQuotedChar ++ '"' :: t, i, l, k⟩ =
      some (s, after) ∧ after.rest = t := by
  have reads {w : List Char} (isWord : ∀ c ∈ w, (c == ' ') = false) :
      ∀ c ∈ w, Reads false doubleQuotedChar c := fun c member =>
    reads_doubleQuotedChar (beq_eq_false_iff_ne.mp (isWord c member))
  induction s using words_induction (· == ' ') generalizing fuel i k with
  | word w isWord =>
      obtain ⟨n, rfl⟩ := Nat.exists_eq_add_one.mpr (Nat.zero_lt_of_lt enough)
      have word := quotedWord_written (reads isWord) (endsWord_double (t := t) (.inr rfl)) i l k
      exact ⟨_, quotedFrom_word inside (by simp) word, rfl⟩
  | gap w g u isWord some isGap start ih =>
      obtain ⟨n, rfl⟩ := Nat.exists_eq_add_one.mpr (Nat.zero_lt_of_lt enough)
      have blank : g.flatMap doubleQuotedChar = g := flatMap_of_blank (by decide) isGap
      have white : ∀ c ∈ g, isWhite c = true := fun c member => by
        rw [beq_iff_eq.mp (isGap c member)]
        rfl
      have less : u.length < n :=
        Nat.lt_of_lt_of_le (length_behind_lt some) (Nat.le_of_lt_succ enough)
      rw [List.flatMap_append, List.flatMap_append, blank, List.append_assoc, List.append_assoc,
        quotedFrom_white inside (reads isWord) some white (head?_doubleQuoted start)]
      obtain ⟨after, read, rest⟩ := ih (i := i + (w.flatMap doubleQuotedChar).length + g.length)
        (k := k + (w.flatMap doubleQuotedChar).length + g.length) (by omega) less
      exact ⟨after, by rw [read]; rfl, rest⟩

/-! ## Single quotes -/

/-- A character in single quotes. -/
def singleQuotedChar (c : Char) : List Char := if c == '\x27' then ['\x27', '\x27'] else [c]

theorem singleQuotedChar_of_ne (other : c ≠ '\x27') : singleQuotedChar c = [c] :=
  if_neg (by simpa using other)

theorem reads_singleQuotedChar (spacing : isSpacing c = false) :
    Reads true singleQuotedChar c := by
  by_cases quote : c = '\x27'
  · subst quote
    exact ⟨by decide, fun fuel t i l k => quotedWord_twice⟩
  · have written := singleQuotedChar_of_ne quote
    refine ⟨by simp [written], fun fuel t i l k => ?_⟩
    rw [written]
    exact quotedWord_char spacing ⟨fun _ => quote, nofun⟩

theorem endsWord_single {e : Char} (ends : e ≠ '\x27') : EndsWord true ('\x27' :: e :: t) := by
  intro fuel i l k
  have other : (e == '\x27') = false := beq_false_of_ne ends
  have spacing : isSpacing '\x27' = false := by decide
  rw [quotedWord, Cursor.gapAt_zero_cons, spacing, Cursor.has_one_cons, other]
  rfl

theorem singleQuoted_line (inLine : ∀ c ∈ w, isBreak c = false) :
    singleQuoted false (w ++ t) = w.flatMap singleQuotedChar ++ singleQuoted false t := by
  induction w with
  | nil => rfl
  | cons c w ih =>
      obtain ⟨own, inLine⟩ := List.forall_mem_cons.mp inLine
      rw [List.cons_append, singleQuoted, own, ih inLine]
      simp [singleQuotedChar]

theorem singleQuoted_breaks {bs : List Char} {broken : Bool} (some : broken = true ∨ bs ≠ [])
    (breaks : ∀ b ∈ bs, isBreak b = true) (ends : t.head?.all (!isBreak ·) = true) :
    singleQuoted broken (bs ++ t) = bs ++ (scalarIndent ++ singleQuoted false t) := by
  induction bs generalizing broken with
  | nil =>
      obtain rfl : broken = true := some.resolve_right (· rfl)
      cases t with
      | nil => rfl
      | cons c t =>
          have own : isBreak c = false := by simpa using ends
          simp [singleQuoted, own]
  | cons b bs ih =>
      obtain ⟨own, breaks⟩ := List.forall_mem_cons.mp breaks
      rw [List.cons_append, singleQuoted, own, if_pos rfl, ih (.inl rfl) breaks]
      rfl

theorem length_le_singleQuoted (broken : Bool) (s : List Char) :
    s.length ≤ (singleQuoted broken s).length := by
  fun_induction singleQuoted broken s with
  | case1 | case2 => exact Nat.zero_le _
  | case3 broken c s own ih => exact Nat.succ_le_succ ih
  | case4 broken c s own indent written ih =>
      have some : 0 < written.length := by
        unfold written
        split <;> exact Nat.succ_pos _
      simp only [List.length_append, List.length_cons]
      omega

/-- White space and breaks do not stand side by side. -/
def SortedGaps (s : List Char) : Prop :=
  s.IsChain fun a b => ¬ (a = ' ' ∧ isBreak b = true) ∧ ¬ (isBreak a = true ∧ b = ' ')

theorem gap_cases {g : List Char} (sorted : SortedGaps g)
    (gap : ∀ c ∈ g, c = ' ' ∨ isBreak c = true) :
    (∀ c ∈ g, c = ' ') ∨ ∀ c ∈ g, isBreak c = true := by
  induction g with
  | nil => exact .inl (List.forall_mem_nil _)
  | cons c g ih =>
      obtain ⟨own, gap⟩ := List.forall_mem_cons.mp gap
      cases g with
      | nil => exact own.imp List.forall_mem_singleton.mpr List.forall_mem_singleton.mpr
      | cons d g =>
          obtain ⟨⟨blankFirst, breakFirst⟩, sorted⟩ := List.isChain_cons_cons.mp sorted
          rcases ih sorted gap with blank | breaks
          · have next : d = ' ' := blank d List.mem_cons_self
            refine .inl (List.forall_mem_cons.mpr ⟨own.resolve_right fun is => ?_, blank⟩)
            exact breakFirst ⟨is, next⟩
          · have next : isBreak d = true := breaks d List.mem_cons_self
            refine .inr (List.forall_mem_cons.mpr ⟨own.resolve_left fun is => ?_, breaks⟩)
            exact blankFirst ⟨is, next⟩

theorem head?_singleQuoted (ends : s.head?.all (!isSpacing ·) = true) :
    (singleQuoted false s ++ '\x27' :: t).head?.all (!isSpacing ·) = true := by
  cases s with
  | nil => rfl
  | cons c s =>
      have spacing : isSpacing c = false := by simpa using ends
      have own : isBreak c = false := (isSpacing_eq_false_iff.mp spacing).2
      have one := singleQuoted_line (w := [c]) (t := s) (List.forall_mem_singleton.mpr own)
      rw [List.singleton_append, List.flatMap_singleton] at one
      rw [one, singleQuotedChar]
      split
      · rfl
      · exact ends

/-- **Single quotes keep a text** that can be printed, has no line feed and has no gaps of blanks
and breaks together. -/
theorem quotedFrom_single (s t : List Char) {e : Char} (l : Nat) (inside : 0 < k)
    (enough : s.length < fuel) (ends : e ≠ '\x27') (printable : ∀ c ∈ s, isPrintable c = true)
    (feedless : '\n' ∉ s) (sorted : SortedGaps s) :
    ∃ after : Cursor, quotedFrom true fuel ⟨singleQuoted false s ++ '\x27' :: e :: t, i, l, k⟩ =
      some (s, after) ∧ after.rest = e :: t := by
  have reads {w : List Char} (isWord : ∀ c ∈ w, isSpacing c = false) :
      ∀ c ∈ w, Reads true singleQuotedChar c := fun c member =>
    reads_singleQuotedChar (isWord c member)
  have lines {w : List Char} (isWord : ∀ c ∈ w, isSpacing c = false) :
      ∀ c ∈ w, isBreak c = false := fun c member =>
    (isSpacing_eq_false_iff.mp (isWord c member)).2
  induction s using words_induction isSpacing generalizing fuel i l k with
  | word w isWord =>
      obtain ⟨n, rfl⟩ := Nat.exists_eq_add_one.mpr (Nat.zero_lt_of_lt enough)
      have word := quotedWord_written (reads isWord) (endsWord_single (t := t) ends) i l k
      have written : singleQuoted false w = w.flatMap singleQuotedChar := by
        have line := singleQuoted_line (t := []) (lines isWord)
        rwa [List.append_nil, singleQuoted, if_neg (by decide), List.append_nil] at line
      rw [written]
      exact ⟨_, quotedFrom_word inside (by simp) word, rfl⟩
  | gap w g u isWord some isGap start ih =>
      obtain ⟨n, rfl⟩ := Nat.exists_eq_add_one.mpr (Nat.zero_lt_of_lt enough)
      have less : u.length < n :=
        Nat.lt_of_lt_of_le (length_behind_lt some) (Nat.le_of_lt_succ enough)
      obtain ⟨-, behindWord⟩ := List.forall_mem_append.mp printable
      obtain ⟨inGap, behindGap⟩ := List.forall_mem_append.mp behindWord
      obtain ⟨-, sortedBehind, -⟩ := List.isChain_append.mp sorted
      obtain ⟨sortedGap, sortedRest, -⟩ := List.isChain_append.mp sortedBehind
      simp only [List.mem_append, not_or] at feedless
      obtain ⟨-, feeds, feedsBehind⟩ := feedless
      have both : ∀ c ∈ g, c = ' ' ∨ isBreak c = true := fun c member =>
        blank_or_break_of_isPrintable (inGap c member) (isGap c member)
      have next := head?_singleQuoted (t := e :: t) start
      rw [singleQuoted_line (lines isWord), List.append_assoc]
      rcases gap_cases sortedGap both with blank | breaks
      · have blanks : ∀ c ∈ g, (c == ' ') = true := fun c member => beq_iff_eq.mpr (blank c member)
        have white : ∀ c ∈ g, isWhite c = true := fun c member => blank c member ▸ rfl
        have inLine : ∀ c ∈ g, isBreak c = false := fun c member => blank c member ▸ rfl
        rw [singleQuoted_line inLine, flatMap_of_blank rfl blanks, List.append_assoc,
          quotedFrom_white inside (reads isWord) some white next]
        obtain ⟨after, read, rest⟩ := ih (i := i + (w.flatMap singleQuotedChar).length + g.length)
          (k := k + (w.flatMap singleQuotedChar).length + g.length) l (by omega) less behindGap
          feedsBehind sortedRest
        exact ⟨after, by rw [read]; rfl, rest⟩
      · obtain ⟨b, bs, rfl⟩ := List.exists_cons_of_ne_nil some
        have feed : b ≠ '\n' := fun is => feeds (is ▸ List.mem_cons_self)
        have unbroken : u.head?.all (!isBreak ·) = true := by
          cases u with
          | nil => rfl
          | cons c u =>
              have spacing : isSpacing c = false := by simpa using start
              simp [(isSpacing_eq_false_iff.mp spacing).2]
        rw [singleQuoted_breaks (.inr some) breaks unbroken, List.append_assoc, List.append_assoc,
          quotedFrom_breaks inside (reads isWord)
            (fun c member => ⟨inGap c member, breaks c member⟩) feed next]
        obtain ⟨after, read, rest⟩ := ih
          (i := i + (w.flatMap singleQuotedChar).length + 1 + bs.length + 2) (k := 2)
          (l + 1 + bs.length) (by decide) less behindGap feedsBehind sortedRest
        exact ⟨after, by rw [read]; rfl, rest⟩

end ProfileAudit.Yaml
