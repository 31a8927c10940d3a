import Mathlib.Data.List.Chain
import ProfileAudit.Proofs.Yaml.Gap

/-!
# Plain scalars read back

A plain scalar goes on over gaps on its line, and ends before the line that is not indented, unless
a colon before a gap or a number sign behind one ends it earlier. A text without those reads back as
it is (`plainFrom_written`).
-/

namespace ProfileAudit.Yaml

variable {c d : Char} {s t u w : List Char} {i l k fuel : Nat}

theorem hasPair_eq_false_iff {p q : Char → Bool} :
    hasPair p q s = false ↔ s.IsChain fun a b => ¬ (p a = true ∧ q b = true) := by
  fun_induction hasPair p q s with
  | case1 a b s ih => rw [List.isChain_cons_cons, Bool.or_eq_false_iff, ih]; simp
  | case2 s short =>
      match s, short with
      | [], _ => simp
      | [c], _ => simp
      | a :: b :: s, short => exact absurd rfl (short a b s)

/-- No word ends behind a colon. -/
def ColonsInside (s : List Char) : Prop := s.IsChain fun a b => ¬ (a = ':' ∧ isSpacing b = true)

theorem plainWord_written {g : Char} (isWord : ∀ c ∈ w, isSpacing c = false)
    (gap : isSpacing g = true) (colons : ColonsInside (w ++ [g])) (enough : w.length < fuel) :
    plainWord false fuel ⟨w ++ g :: t, i, l, k⟩ =
      some (w, ⟨g :: t, i + w.length, l, k + w.length⟩) := by
  induction w generalizing fuel i k with
  | nil =>
      obtain ⟨n, rfl⟩ := Nat.exists_eq_add_one.mpr enough
      rw [List.nil_append, plainWord, Cursor.gapAt_zero_cons, gap]
      rfl
  | cons c w ih =>
      obtain ⟨n, rfl⟩ := Nat.exists_eq_add_one.mpr (Nat.zero_lt_of_lt enough)
      obtain ⟨own, isWord⟩ := List.forall_mem_cons.mp isWord
      obtain ⟨d, behind, first⟩ : ∃ d behind, w ++ g :: t = d :: behind ∧
          ¬ (c = ':' ∧ isSpacing d = true) := by
        cases w with
        | nil => exact ⟨g, t, rfl, (List.isChain_cons_cons.mp colons).1⟩
        | cons d w => exact ⟨d, w ++ g :: t, rfl, (List.isChain_cons_cons.mp colons).1⟩
      have goesOn : endsPlain false ⟨c :: d :: behind, i, l, k⟩ = false := by
        have mark : (c == ':' && isSpacing d) = false := by simpa using first.2
        change (isSpacing c || (c == ':' && isSpacing d) || false) = false
        rw [own, mark]
        rfl
      have inner := ih (i := i + 1) (k := k + 1) isWord colons.of_cons
        (Nat.lt_of_succ_lt_succ enough)
      rw [first.1] at inner
      rw [List.cons_append, first.1, plainWord, Cursor.gapAt_zero_cons, own, goesOn,
        Cursor.next_cons]
      change (plainWord false n _).bind _ = _
      rw [inner]
      simp [Cursor.peek, Nat.add_assoc, Nat.add_comm 1]

theorem plainFrom_word {c c' after : Cursor} {indent : Nat} {text : List Char} {g g' : Gap}
    (start : (c.atDocumentMark || c.has 0 (· == '#')) = false) (some : w ≠ [])
    (word : plainWord false c.rest.length.succ c = .some (w, c'))
    (goesOn : (c'.gapAt 0 && !c'.atEnd) = true)
    (gap : Gap.read indent c'.rest.length.succ {} c' = .some (g', after)) :
    plainFrom false indent (fuel + 1) text g c =
      if after.column < indent then .some ⟨text ++ g.text ++ w, after, g'.broken⟩
      else plainFrom false indent fuel (text ++ g.text ++ w) g' after := by
  have filled : w.isEmpty = false := List.isEmpty_eq_false_iff.mpr some
  rw [plainFrom, start]
  change (plainWord false c.rest.length.succ c).bind _ = _
  rw [word, Option.bind_some]
  simp only [filled, goesOn]
  change (Gap.read indent c'.rest.length.succ {} c').bind _ = _
  rw [gap, Option.bind_some]
  simp

/-- A text that can stand plain: it has its words on one line, begins and ends with one, and neither
a colon nor a number sign in it ends it. -/
structure StandsPlain (s : List Char) : Prop where
  first : s.head?.any (fun c => !isSpacing c && c != '#') = true
  last : s.getLast?.any (!isSpacing ·) = true
  line : ∀ c ∈ s, isBreak c = false
  colons : ColonsInside (s ++ ['\n'])
  signs : s.IsChain fun a b => ¬ (isSpacing a = true ∧ b = '#')

theorem StandsPlain.not_sign {s : List Char} (stands : StandsPlain s) (inside : 0 < k) :
    ((Cursor.mk (s ++ t) i l k).atDocumentMark ||
      (Cursor.mk (s ++ t) i l k).has 0 (· == '#')) = false := by
  cases s with
  | nil => cases stands.first
  | cons c s =>
      have first : isSpacing c = false ∧ c ≠ '#' := by simpa using stands.first
      rw [Cursor.atDocumentMark_of_pos inside]
      exact beq_false_of_ne first.2

theorem StandsPlain.isWhite_of_mem {s : List Char} {c : Char} (stands : StandsPlain s)
    (member : c ∈ s) (spacing : isSpacing c = true) : isWhite c = true :=
  (Bool.or_eq_true_iff.mp spacing).resolve_right (by simp [stands.line c member])

/-- No colon ends the first word, whatever comes behind it. -/
theorem StandsPlain.colonsInside {w u : List Char} {c : Char}
    (stands : StandsPlain (w ++ c :: u)) : ColonsInside (w ++ [c]) := by
  have colons := stands.colons
  have shape : w ++ c :: u ++ ['\n'] = (w ++ [c]) ++ (u ++ ['\n']) := by simp
  rw [shape] at colons
  exact (List.isChain_append.mp colons).1

/-- What stands behind a word and a gap can stand plain too. -/
theorem StandsPlain.behind {w g u : List Char} (stands : StandsPlain (w ++ (g ++ u)))
    (isGap : ∀ c ∈ g, isSpacing c = true) (some : g ≠ [])
    (next : u.head?.all (!isSpacing ·) = true) : StandsPlain u := by
  have last := stands.last
  obtain ⟨d, u, rfl, same⟩ := exists_word_behind some isGap fun c ends => by
    rw [Option.mem_def.mp ends] at last
    simpa using last
  have spacing : isSpacing d = false := by simpa using next
  have signs := (List.isChain_append.mp stands.signs).2.1
  have sign : d ≠ '#' := by
    obtain ⟨e, ends⟩ := List.getLast?_isSome.mpr some |> Option.isSome_iff_exists.mp
    have pair := (List.isChain_append.mp signs).2.2 e ends d rfl
    exact fun is => pair ⟨isGap e (List.mem_of_getLast? ends), is⟩
  refine ⟨by simp [spacing, sign], ?_, ?_, ?_, (List.isChain_append.mp signs).2.1⟩
  · exact same ▸ last
  · exact fun c member => stands.line c (List.mem_append_right _ (List.mem_append_right _ member))
  · have colons := stands.colons
    rw [List.append_assoc, List.append_assoc] at colons
    have behindWord := (List.isChain_append.mp colons).2.1
    exact (List.isChain_append.mp behindWord).2.1

/-- **A plain text is kept** up to the line that is not indented. -/
theorem plainFrom_written {s t text : List Char} {gap : Gap} (inside : 0 < k)
    (enough : s.length < fuel) (ends : t.head?.all (!isSpacing ·) = true) (stands : StandsPlain s) :
    plainFrom false 1 fuel text gap ⟨s ++ '\n' :: t, i, l, k⟩ =
      some ⟨text ++ gap.text ++ s, ⟨t, i + s.length + 1, l + 1, 0⟩, true⟩ := by
  induction s using words_induction isSpacing generalizing fuel i k text gap with
  | word w isWord =>
      obtain ⟨n, rfl⟩ := Nat.exists_eq_add_one.mpr (Nat.zero_lt_of_lt enough)
      have some : w ≠ [] := by
        rintro rfl
        cases stands.first
      have short : w.length < (w ++ '\n' :: t).length.succ := by
        rw [List.length_append]
        omega
      rw [plainFrom_word (stands.not_sign inside) some
        (plainWord_written isWord rfl stands.colons short) rfl (Gap.read_feed ends)]
      exact if_pos Nat.one_pos
  | gap w g u isWord some isGap next ih =>
      obtain ⟨n, rfl⟩ := Nat.exists_eq_add_one.mpr (Nat.zero_lt_of_lt enough)
      have rest := stands.behind isGap some next
      have less : u.length < n :=
        Nat.lt_of_lt_of_le (length_behind_lt some) (Nat.le_of_lt_succ enough)
      have start := stands.not_sign (t := '\n' :: t) (i := i) (l := l) inside
      obtain ⟨c, g, rfl⟩ := List.exists_cons_of_ne_nil some
      have spacing := isGap c List.mem_cons_self
      have wordly : w ≠ [] := by
        rintro rfl
        have first := stands.first
        simp [spacing] at first
      have white : ∀ d ∈ c :: g, isWhite d = true := fun d member =>
        stands.isWhite_of_mem (List.mem_append_right _ (List.mem_append_left _ member))
          (isGap d member)
      have colons : ColonsInside (w ++ [c]) := stands.colonsInside
      have behind : (u ++ '\n' :: t).head?.all (!isSpacing ·) = true := by
        cases u with
        | nil => cases rest.first
        | cons d u => exact next
      have shape : w ++ (c :: g ++ u) ++ '\n' :: t =
          w ++ c :: (g ++ (u ++ '\n' :: t)) := by simp
      rw [shape] at start ⊢
      have read : Gap.read 1 (c :: g ++ (u ++ '\n' :: t)).length.succ {}
          ⟨c :: g ++ (u ++ '\n' :: t), i + w.length, l, k + w.length⟩ = _ :=
        Gap.read_white rfl white behind (by simp; omega)
      have goesOn : ((Cursor.mk (c :: (g ++ (u ++ '\n' :: t))) (i + w.length) l
          (k + w.length)).gapAt 0 && true) = true := by
        rw [Cursor.gapAt_zero_cons, spacing]
        rfl
      have short : w.length < (w ++ c :: (g ++ (u ++ '\n' :: t))).length.succ := by
        rw [List.length_append]
        omega
      rw [plainFrom_word start wordly (plainWord_written isWord spacing colons short)
        goesOn read, if_neg (by simp), ih (by omega) less rest]
      simp [Gap.text]
      omega

end ProfileAudit.Yaml
