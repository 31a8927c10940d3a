import ProfileAudit.Proofs.Yaml.Literal
import ProfileAudit.Proofs.Yaml.Plain
import ProfileAudit.Proofs.Yaml.Quoted

/-!
# Styles

A text is written in one of four styles (`Writes`), with characters that a document may hold.
-/

namespace ProfileAudit.Yaml

variable {c : Char} {s : List Char}

/-! ## Styles -/

/-- The styles in which a text is written. -/
inductive Writes (s : String) : List Char → Prop where
  | plain (fits : fitsPlain s = true) : Writes s s.toList
  | single (feedless : '\n' ∉ s.toList) (fits : fitsSingle s.toList = true) :
      Writes s ('\x27' :: (singleQuoted false s.toList ++ ['\x27']))
  | double : Writes s ('"' :: (s.toList.flatMap doubleQuotedChar ++ ['"']))
  | literal (fits : fitsLiteral s.toList = true) :
      Writes s ('|' :: (literalHints s.toList ++ '\n' :: literalLines true s.toList))

theorem writes_scalarText (s : String) : Writes s (scalarText s).toList := by
  unfold scalarText
  rw [String.toList_ofList]
  split
  · split
    · next fits => exact .literal fits
    · exact .double
  · next feedless =>
      split
      · next fits => exact .plain fits
      · split
        · next fits => exact .single (by simpa using feedless) fits
        · exact .double

/-- A plain scalar can begin with this character. -/
def beginsPlain (c : Char) : Bool :=
  !isSpacing c && !"-.?:,[]\x7b\x7d#&*!|>\x27\"%@\x60".toList.contains c

theorem isSpacing_of_beginsPlain (begins : beginsPlain c = true) : isSpacing c = false := by
  rw [beginsPlain, Bool.and_eq_true] at begins
  exact (Bool.not_eq_true' _).mp begins.1

theorem sortedGaps_of_fitsSingle (fits : fitsSingle s = true) : SortedGaps s := by
  simp only [fitsSingle, needsEscape, Bool.and_eq_true, Bool.not_eq_true', Bool.or_eq_false_iff,
    hasPair_eq_false_iff] at fits
  obtain ⟨⟨-, blankFirst⟩, breakFirst⟩ := fits
  refine List.isChain_iff_getElem.mpr fun n inside => ⟨fun pair => ?_, fun pair => ?_⟩
  · exact blankFirst.getElem n inside ⟨beq_iff_eq.mpr pair.1, pair.2⟩
  · exact breakFirst.getElem n inside ⟨pair.1, beq_iff_eq.mpr pair.2⟩

/-- A text that begins as a plain scalar does and ends with no gap. -/
structure Upright (s : List Char) : Prop where
  first : s.head?.any beginsPlain = true
  last : s.getLast?.any (!isSpacing ·) = true

theorem getLast?_literalLines (broken : Bool) (s : List Char) :
    (literalLines broken s).getLast? = s.getLast? := by
  induction s generalizing broken with
  | nil => rfl
  | cons c s ih =>
      rw [literalLines, List.getLast?_cons, ← ih false]
      split
      · rw [List.getLast?_cons, ih, ih]
      · rw [List.getLast?_append_of_ne_nil _ (List.cons_ne_nil _ _), List.getLast?_cons]

theorem printable_of_needsEscape (escapes : needsEscape s = false) :
    ∀ c ∈ s, isPrintable c = true := by
  obtain ⟨printable, -⟩ := Bool.or_eq_false_iff.mp escapes
  simpa using printable

namespace Upright

theorem exists_first (upright : Upright s) : ∃ c t, s = c :: t ∧ beginsPlain c = true := by
  have first := upright.first
  cases s with
  | nil => cases first
  | cons c t => exact ⟨c, t, rfl, first⟩

theorem exists_last (upright : Upright s) : ∃ e, s.getLast? = some e ∧ isBreak e = false := by
  have last := upright.last
  cases own : s.getLast? with
  | none => rw [own] at last; cases last
  | some e =>
      rw [own] at last
      have spacing : isSpacing e = false := by simpa using last
      exact ⟨e, rfl, (isSpacing_eq_false_iff.mp spacing).2⟩

theorem standsPlain {s : String} (upright : Upright s.toList) (fits : fitsPlain s = true) :
    StandsPlain s.toList := by
  simp only [fitsPlain, Bool.and_eq_true, Bool.not_eq_true'] at fits
  obtain ⟨⟨⟨_, line⟩, _⟩, ends⟩ := fits
  simp only [breaksPlain, Bool.or_eq_false_iff, hasPair_eq_false_iff] at ends
  obtain ⟨⟨colons, colon⟩, signs⟩ := ends
  have gap {c : Char} (spacing : isSpacing c = true) : isGap c = true := by
    rw [isGap, Bool.or_eq_true]
    exact .inl spacing
  refine ⟨?_, upright.last, by simpa using line, ?_, signs.imp fun a b pair held => ?_⟩
  · obtain ⟨c, t, begins, first⟩ := upright.exists_first
    have sign : c ≠ '#' := by
      rintro rfl
      cases first
    simp [begins, isSpacing_of_beginsPlain first, sign]
  · refine List.IsChain.append (colons.imp fun a b pair held => ?_) (List.isChain_singleton _) ?_
    · exact pair ⟨beq_iff_eq.mpr held.1, gap held.2⟩
    · intro a last b _ held
      rw [last, held.1] at colon
      cases colon
  · exact pair ⟨gap held.1, beq_iff_eq.mpr held.2⟩

theorem literalHints_eq (upright : Upright s) : literalHints s = ['-'] := by
  obtain ⟨c, t, rfl, first⟩ := upright.exists_first
  obtain ⟨e, last, line⟩ := upright.exists_last
  obtain ⟨white, own⟩ := isSpacing_eq_false_iff.mp (isSpacing_of_beginsPlain first)
  have blank : (c == ' ') = false := (Bool.or_eq_false_iff.mp white).1
  rw [← List.head?_reverse] at last
  obtain ⟨r, reversed⟩ := List.head?_eq_some_iff.mp last
  rw [literalHints, reversed, List.head?_cons]
  cases r <;> simp [blank, own, line]

/-- Whatever its style is, what is written for the text ends in its last line. -/
theorem scalarLine_eq {s : String} (upright : Upright s.toList) :
    scalarLine s = scalarText s ++ "\n" := by
  obtain ⟨e, own, line⟩ := upright.exists_last
  have last : e ≠ '\n' := by
    rintro rfl
    cases line
  have unbroken : (scalarText s).toList.getLast? ≠ some '\n' := by
    have writes := writes_scalarText s
    generalize (scalarText s).toList = t at writes
    cases writes with
    | plain => rwa [own, Ne, Option.some_inj]
    | single => rw [← List.cons_append, List.getLast?_concat]; decide
    | double => rw [← List.cons_append, List.getLast?_concat]; decide
    | literal =>
        have shape : '|' :: (literalHints s.toList ++ '\n' :: literalLines true s.toList) =
            ('|' :: literalHints s.toList ++ ['\n']) ++ literalLines true s.toList := by simp
        rw [shape, List.getLast?_append, getLast?_literalLines, own]
        simpa using last
  exact if_neg (by simpa using unbroken)

end Upright
/-! ## Characters of a document -/

theorem mem_literalLines {broken : Bool} (member : c ∈ literalLines broken s) :
    c = ' ' ∨ c ∈ s := by
  fun_induction literalLines broken s with
  | case1 broken => cases member
  | case2 broken d s own ih => grind
  | case3 broken d s own ih => grind [scalarIndent]

theorem mem_singleQuoted {broken : Bool} (member : c ∈ singleQuoted broken s) :
    c = ' ' ∨ c ∈ s := by
  fun_induction singleQuoted broken s with
  | case1 => exact .inl (by simpa [scalarIndent] using member)
  | case2 broken => cases member
  | case3 broken d s own ih => grind
  | case4 broken d s own indent written ih => grind [scalarIndent]

theorem isAllowed_of_mem_literalHints (member : c ∈ literalHints s) : isAllowed c = true := by
  have signs : ∀ c ∈ ['2', '-', '+'], isAllowed c = true := List.all_eq_true.mp rfl
  refine signs c ?_
  grind [literalHints]

/-- **A document may hold** what is written for a text. -/
theorem isAllowed_scalarText (s : String) : ∀ c ∈ (scalarText s).toList, isAllowed c = true := by
  have blank : isAllowed ' ' = true := by decide
  have kept {cs : List Char} (escapes : needsEscape cs = false) :
      ∀ c, c = ' ' ∨ c ∈ cs → isAllowed c = true := by
    rintro c (rfl | member)
    · exact blank
    · exact isAllowed_of_isPrintable (printable_of_needsEscape escapes c member)
  have writes := writes_scalarText s
  generalize (scalarText s).toList = t at writes
  cases writes with
  | plain fits =>
      simp only [fitsPlain, Bool.and_eq_true, Bool.not_eq_true'] at fits
      exact fun c member => kept fits.1.1.1.1.2 c (.inr member)
  | single feedless fits =>
      simp only [fitsSingle, Bool.and_eq_true, Bool.not_eq_true'] at fits
      have own : ∀ c ∈ singleQuoted false s.toList, isAllowed c = true := fun c member =>
        kept fits.1 c (mem_singleQuoted member)
      exact List.forall_mem_cons.mpr
        ⟨rfl, List.forall_mem_append.mpr ⟨own, List.forall_mem_singleton.mpr rfl⟩⟩
  | double =>
      have own : ∀ c ∈ s.toList.flatMap doubleQuotedChar, isAllowed c = true := fun c member => by
        obtain ⟨d, -, member⟩ := List.mem_flatMap.mp member
        exact isAllowed_of_mem_doubleQuotedChar member
      exact List.forall_mem_cons.mpr
        ⟨rfl, List.forall_mem_append.mpr ⟨own, List.forall_mem_singleton.mpr rfl⟩⟩
  | literal fits =>
      simp only [fitsLiteral, Bool.and_eq_true, Bool.not_eq_true'] at fits
      have own : ∀ c ∈ literalLines true s.toList, isAllowed c = true := fun c member =>
        kept fits.1 c (mem_literalLines member)
      refine List.forall_mem_cons.mpr ⟨rfl, List.forall_mem_append.mpr ⟨?_, ?_⟩⟩
      · exact fun c member => isAllowed_of_mem_literalHints member
      · exact List.forall_mem_cons.mpr ⟨rfl, own⟩

end ProfileAudit.Yaml
