import Mathlib.Data.List.Basic
import ProfileAudit.Proofs.Yaml.Gap

/-!
# Literal blocks read back

The lines of a literal block are written with an indentation of two blanks, but for the empty ones.
The first line shows how deep the indentation is, so if it begins with no blank all lines are read
back, with the breaks between them (`blockScalar_written`).
-/

namespace ProfileAudit.Yaml

variable {c d : Char} {s t u w : List Char} {i l k fuel : Nat}

theorem literalLines_line (inLine : ∀ c ∈ w, isBreak c = false) :
    literalLines false (w ++ t) = w ++ literalLines false t := by
  induction w with
  | nil => rfl
  | cons c w ih =>
      obtain ⟨own, inLine⟩ := List.forall_mem_cons.mp inLine
      rw [List.cons_append, literalLines, own, ih inLine]
      rfl

theorem literalLines_breaks {bs : List Char} {broken : Bool} (some : broken = true ∨ bs ≠ [])
    (breaks : ∀ b ∈ bs, isBreak b = true) (own : isBreak d = false) :
    literalLines broken (bs ++ d :: t) = bs ++ (scalarIndent ++ literalLines false (d :: t)) := by
  induction bs generalizing broken with
  | nil =>
      obtain rfl : broken = true := some.resolve_right (· rfl)
      simp [literalLines, own]
  | cons b bs ih =>
      obtain ⟨first, breaks⟩ := List.forall_mem_cons.mp breaks
      rw [List.cons_append, literalLines, first, if_pos rfl, ih (.inl rfl) breaks]
      rfl

theorem takeWhile_of_isBreak (own : isBreak c = true) : (c :: t).takeWhile (· == ' ') = [] := by
  refine List.takeWhile_cons_of_neg fun blank => ?_
  rw [beq_iff_eq.mp blank] at own
  cases own

theorem blockBreaks_stop {indent : Nat} (deepest : Nat) (own : isBreak d = false)
    (ink : isWhite d = false) : ∃ deep, blockBreaks indent (fuel + 1) deepest ⟨d :: t, i, l, k⟩ =
      some ([], deep, ⟨d :: t, i, l, k⟩) := by
  obtain ⟨blank, tab⟩ : d ≠ ' ' ∧ d ≠ '\t' := by
    constructor <;> rintro rfl <;> cases ink
  have none : (d :: t).takeWhile (· == ' ') = [] :=
    List.takeWhile_cons_of_neg (by simpa using blank)
  refine ⟨max deepest k, ?_⟩
  rw [blockBreaks]
  simp only [none, List.length_nil, Nat.zero_min, ite_self, Cursor.skip, List.drop_zero,
    Nat.add_zero]
  simp only [Cursor.has_zero_cons, own, beq_false_of_ne tab]
  simp

theorem length_le_literalLines (broken : Bool) (s : List Char) :
    s.length ≤ (literalLines broken s).length := by
  induction s generalizing broken with
  | nil => exact Nat.zero_le _
  | cons c s ih =>
      rw [literalLines]
      split
      · exact Nat.succ_le_succ (ih true)
      · have more := ih false
        simp only [List.length_append, List.length_cons]
        omega

/-- Indentation is skipped up to its column. -/
theorem blockBreaks_indent {indent : Nat} (deepest : Nat)
    (two : indent = 2 ∨ indent = 0 ∧ d ≠ ' ') (own : isBreak d = false) (tab : d ≠ '\t') :
    ∃ deep, blockBreaks indent (fuel + 1) deepest ⟨scalarIndent ++ d :: t, i, l, 0⟩ =
      some ([], deep, ⟨d :: t, i + 2, l, 2⟩) ∧ (deepest = 0 → deep = 2) := by
  have skips : (if indent = 0 then ((scalarIndent ++ d :: t).takeWhile (· == ' ')).length
      else min ((scalarIndent ++ d :: t).takeWhile (· == ' ')).length (indent - 0)) = 2 := by
    rcases two with rfl | ⟨rfl, blank⟩
    · simp [scalarIndent]
    · simp [scalarIndent, blank]
  refine ⟨max deepest 2, ?_, by rintro rfl; rfl⟩
  rw [blockBreaks]
  simp only [skips]
  have on : Cursor.skip ⟨scalarIndent ++ d :: t, i, l, 0⟩ 2 = ⟨d :: t, i + 2, l, 2⟩ := rfl
  simp only [on, Cursor.has_zero_cons, own, beq_false_of_ne tab]
  simp

theorem blockBreaks_written {bs : List Char} (deepest : Nat)
    (breaks : ∀ b ∈ bs, isPrintable b = true ∧ isBreak b = true) (own : isBreak d = false)
    (tab : d ≠ '\t') (enough : bs.length < fuel) :
    ∃ deep, blockBreaks 2 fuel deepest ⟨bs ++ (scalarIndent ++ d :: t), i, l, 0⟩ =
      some (bs, deep, ⟨d :: t, i + bs.length + 2, l + bs.length, 2⟩) := by
  induction bs generalizing fuel deepest i l with
  | nil =>
      obtain ⟨n, rfl⟩ := Nat.exists_eq_add_one.mpr enough
      obtain ⟨deep, read, -⟩ := blockBreaks_indent deepest (.inl rfl) own tab
      exact ⟨deep, read⟩
  | cons b bs ih =>
      obtain ⟨n, rfl⟩ := Nat.exists_eq_add_one.mpr (Nat.zero_lt_of_lt enough)
      obtain ⟨⟨printable, first⟩, breaks⟩ := List.forall_mem_cons.mp breaks
      have tab : b ≠ '\t' := by
        rintro rfl
        cases first
      obtain ⟨deep, read⟩ := ih (max deepest 0) (i := i + 1) (l := l + 1) breaks
        (Nat.lt_of_succ_lt_succ enough)
      refine ⟨deep, ?_⟩
      rw [List.cons_append, blockBreaks]
      simp only [takeWhile_of_isBreak first, List.length_nil, Nat.zero_min, ite_self, Cursor.skip,
        List.drop_zero, Nat.add_zero]
      simp only [Cursor.has_zero_cons, first, beq_false_of_ne tab,
        Cursor.nextLine_cons printable first, Cursor.breakChar_cons printable first, read]
      simp [Nat.add_assoc, Nat.add_comm 1]

/-- A line is read, and the breaks and the indentation behind it. -/
theorem blockLines_line {b : BlockText} {breaks : List Char} {deep : Nat} {after : Cursor}
    (isWord : ∀ e ∈ w, isBreak e = false) (printable : isPrintable c = true)
    (own : isBreak c = true)
    (behind : blockBreaks 2 (c :: t).length.succ 0 ⟨t, i + w.length + 1, l + 1, 0⟩ =
      some (breaks, deep, after)) :
    ∃ white, blockLines true 2 (fuel + 1) b ⟨w ++ c :: t, i, l, 2⟩ =
      blockLines true 2 fuel ⟨b.text ++ b.last ++ b.breaks ++ w, [c], breaks, white⟩ after := by
  have taken : (w ++ c :: t).takeWhile (!isBreak ·) = w := by
    rw [List.takeWhile_append_of_pos fun e member => by rw [isWord e member]; rfl,
      List.takeWhile_cons_of_neg (by simp [own]), List.append_nil]
  have filled : Cursor.atEnd ⟨w ++ c :: t, i, l, 2⟩ = false := by
    simp [Cursor.atEnd]
  refine ⟨Cursor.has ⟨w ++ c :: t, i, l, 2⟩ 0 isWhite, ?_⟩
  rw [blockLines, if_neg (by simp [filled])]
  simp only [Cursor.takeWhile, taken, Cursor.skip_append]
  change (blockBreaks 2 (c :: t).length.succ 0
    (Cursor.nextLine ⟨c :: t, i + w.length, l, 2 + w.length⟩)).bind _ = _
  rw [Cursor.nextLine_cons printable own, behind, Option.bind_some,
    Cursor.breakChar_cons printable own]
  rfl

/-- The lines of a literal block are read up to the line that is not indented. -/
theorem blockLines_written {s : List Char} {a : Char} (b : BlockText) (i l : Nat)
    (enough : s.length < fuel) (printable : ∀ c ∈ s, isPrintable c = true)
    (last : s.getLast?.all (!isBreak ·) = true) (line : isBreak a = false)
    (ink : isWhite a = false) :
    ∃ (r : BlockText) (after : Cursor),
      blockLines true 2 fuel b ⟨literalLines false s ++ '\n' :: a :: t, i, l, 2⟩ = some (r, after) ∧
        r.text = b.text ++ b.last ++ b.breaks ++ s ∧ after.rest = a :: t ∧ after.column = 0 := by
  induction s using words_induction isBreak generalizing fuel b i l with
  | word w isWord =>
      obtain ⟨n, rfl⟩ := Nat.exists_eq_add_one.mpr (Nat.zero_lt_of_lt enough)
      have written := literalLines_line (t := []) isWord
      rw [List.append_nil, literalLines, List.append_nil] at written
      obtain ⟨deep, behind⟩ := blockBreaks_stop 0 line ink
      obtain ⟨white, read⟩ := blockLines_line (b := b) (c := '\n') isWord (by decide) rfl behind
      rw [written, read]
      cases n with
      | zero => exact ⟨_, _, rfl, rfl, rfl, rfl⟩
      | succ n => exact ⟨_, _, if_pos (.inl (show 0 ≠ 2 by decide)), rfl, rfl, rfl⟩
  | gap w g u isWord some isGap next ih =>
      obtain ⟨n, rfl⟩ := Nat.exists_eq_add_one.mpr (Nat.zero_lt_of_lt enough)
      have less : u.length < n :=
        Nat.lt_of_lt_of_le (length_behind_lt some) (Nat.le_of_lt_succ enough)
      obtain ⟨d, u, rfl, same⟩ := exists_word_behind some isGap fun c ends => by
        rw [Option.mem_def.mp ends] at last
        simpa using last
      have own : isBreak d = false := by simpa using next
      obtain ⟨-, behindWord⟩ := List.forall_mem_append.mp printable
      obtain ⟨inGap, behindGap⟩ := List.forall_mem_append.mp behindWord
      have tab : d ≠ '\t' := by
        rintro rfl
        cases behindGap _ List.mem_cons_self
      have lastBehind : (d :: u).getLast?.all (!isBreak ·) = true := same ▸ last
      have first : literalLines false (d :: u) = d :: literalLines false u := by
        rw [literalLines, own]
        rfl
      obtain ⟨c, g, rfl⟩ := List.exists_cons_of_ne_nil some
      have breaks : ∀ e ∈ g, isPrintable e = true ∧ isBreak e = true := fun e member =>
        ⟨inGap e (List.mem_cons_of_mem _ member), isGap e (List.mem_cons_of_mem _ member)⟩
      have firstPrintable := inGap c List.mem_cons_self
      have firstOwn := isGap c List.mem_cons_self
      obtain ⟨deep, behind⟩ : ∃ deep, blockBreaks 2 (c :: (g ++ (scalarIndent ++
          d :: (literalLines false u ++ '\n' :: a :: t)))).length.succ 0 _ = .some (g, deep, _) :=
        blockBreaks_written 0 (i := i + w.length + 1) (l := l + 1) breaks own tab (by simp; omega)
      obtain ⟨white, read⟩ := blockLines_line (b := b) (i := i) (l := l) isWord firstPrintable
        firstOwn behind
      obtain ⟨r, after, inner, text, rest, column⟩ :=
        ih ⟨b.text ++ b.last ++ b.breaks ++ w, [c], g, white⟩ (i + w.length + 1 + g.length + 2)
          (l + 1 + g.length) less behindGap lastBehind
      rw [first, List.cons_append] at inner
      refine ⟨r, after, ?_, ?_, rest, column⟩
      · rw [literalLines_line isWord, literalLines_breaks (.inr some) isGap own, first]
        simp only [List.append_assoc, List.cons_append]
        rw [read, inner]
      · rw [text]
        simp

/-- **A literal block keeps a text** that can be printed and neither begins nor ends with a gap, up
to the line that is not indented. -/
theorem blockScalar_written {d a : Char} {s : List Char}
    (printable : ∀ c ∈ d :: s, isPrintable c = true) (first : isSpacing d = false)
    (last : (d :: s).getLast?.all (!isBreak ·) = true) (ends : isSpacing a = false) :
    ∃ after : Cursor, blockScalar true 1
        ⟨'-' :: '\n' :: literalLines true (d :: s) ++ '\n' :: a :: t, i, l, k⟩ =
      some (d :: s, after) ∧ after.rest = a :: t ∧ after.column = 0 := by
  obtain ⟨ink, own⟩ := isSpacing_eq_false_iff.mp first
  obtain ⟨aInk, aOwn⟩ := isSpacing_eq_false_iff.mp ends
  obtain ⟨blank, tab⟩ : d ≠ ' ' ∧ d ≠ '\t' := by
    constructor <;> rintro rfl <;> cases ink
  have written : literalLines true (d :: s) = scalarIndent ++ literalLines false (d :: s) :=
    literalLines_breaks (.inl rfl) (List.forall_mem_nil _) own
  have head : literalLines false (d :: s) = d :: literalLines false s := by
    rw [literalLines, own]
    rfl
  obtain ⟨block, isBlock⟩ : ∃ block, block = literalLines false s ++ '\n' :: a :: t := ⟨_, rfl⟩
  have shape : '-' :: '\n' :: literalLines true (d :: s) ++ '\n' :: a :: t =
      '-' :: '\n' :: (scalarIndent ++ d :: block) := by
    rw [written, head, isBlock]
    simp
  obtain ⟨deep, indent, deepest⟩ : ∃ deep, blockBreaks 0 (scalarIndent ++ d :: block).length.succ 0
      ⟨scalarIndent ++ d :: block, i + 2, l + 1, 0⟩ = some ([], deep, _) ∧ (0 = 0 → deep = 2) :=
    blockBreaks_indent 0 (.inr ⟨rfl, blank⟩) own tab
  obtain rfl : deep = 2 := deepest rfl
  have enough : (d :: s).length < (d :: block).length.succ := by
    have long := length_le_literalLines false s
    simp only [isBlock, List.length_cons, List.length_append]
    omega
  obtain ⟨r, after, lines, text, rest, column⟩ := blockLines_written (t := t) {} (i + 2 + 2) (l + 1)
    enough printable last aOwn aInk
  rw [head, List.cons_append, ← isBlock] at lines
  refine ⟨after, ?_, rest, column⟩
  have header : blockHeader ⟨'-' :: '\n' :: (scalarIndent ++ d :: block), i, l, k⟩ =
      some (.strip, 0, ⟨'\n' :: (scalarIndent ++ d :: block), i + 1, l, k + 1⟩) := rfl
  rw [shape, blockScalar, header]
  change (blockBreaks 0 (scalarIndent ++ d :: block).length.succ 0
    ⟨scalarIndent ++ d :: block, i + 2, l + 1, 0⟩).bind _ = _
  rw [indent]
  change (blockLines true 2 (d :: block).length.succ {}
    ⟨d :: block, i + 2 + 2, l + 1, 2⟩).bind _ = _
  rw [lines]
  exact congrArg (fun kept => some (kept, after)) text

end ProfileAudit.Yaml
