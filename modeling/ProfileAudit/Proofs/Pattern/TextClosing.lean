import ProfileAudit.Proofs.Pattern.PartClosing

/-!
# Patterns with text around them

A text that is read to its end leaves a reading; in the closed text the same parts are read,
inside the groups that are open around it, and then comes the closing parenthesis
(`readParts_append`). Two things go wrong otherwise, and only these: the text ends with a
comment, which takes the closing parenthesis too, or the text closes a group that it did not
open (`ClosesAround`), which inside more groups is not refused.
-/

namespace ProfileAudit.Pattern

theorem readParts_nil {r : Reading} {s : List Char} (used : r.flags.skip s = []) :
    readParts r s = some r := by
  rw [readParts, used]

/-- Parts are read one after the other. -/
theorem readParts_cons {r : Reading} {s rest : List Char} {c : Char}
    (found : r.flags.skip s = c :: rest) :
    readParts r s = (readPart r c rest).bind fun p => readParts p.1 p.2 := by
  have shorter := r.flags.length_skip_le s
  rw [found, List.length_cons] at shorter
  rw [readParts, found]
  dsimp only
  cases took : readPart r c rest with
  | none => rfl
  | some p =>
      have suffix := (readPart_suffix took).length_le
      exact if_pos (by omega)

/-- What is shown of a text without parts, and of one by what its first part leaves, is shown of
every text that is read. -/
theorem readParts_induction {motive : Reading → List Char → Prop}
    (stop : ∀ r s, r.flags.skip s = [] → motive r s)
    (part : ∀ r s c rest, r.flags.skip s = c :: rest →
      (∀ r' behind, readPart r c rest = some (r', behind) → motive r' behind) → motive r s)
    (r : Reading) (s : List Char) : motive r s := by
  induction n : s.length using Nat.strongRecOn generalizing r s with
  | ind n ih =>
      subst n
      cases found : r.flags.skip s with
      | nil => exact stop r s found
      | cons c rest =>
          refine part r s c rest found fun r' behind took => ih behind.length ?_ r' behind rfl
          have shorter := r.flags.length_skip_le s
          rw [found, List.length_cons] at shorter
          have suffix := (readPart_suffix took).length_le
          omega

theorem skip_closing (f : Flags) (t : List Char) : f.skip (')' :: t) = ')' :: t := by
  unfold Flags.skip
  split <;> rfl

/-- A part of the text is a boundary before a hanging brace. -/
def HangingPart (f : Flags) (c : Char) (s : List Char) : Prop :=
  c = '\\' ∧ ∃ u, s = 'b' :: u ∧ Hanging f u

/-- A closing parenthesis outside of all groups is refused. -/
theorem readParts_unopened {r : Reading} {s rest : List Char} (outermost : r.outer = [])
    (found : r.flags.skip s = ')' :: rest) : readParts r s = none := by
  have part : readPart r ')' rest = none := by
    simp only [readPart, closeGroup?_eq_none r outermost, Option.map_none]
  rw [readParts_cons found, part]
  rfl

theorem readPart_alike {r : Reading} {c : Char} {s : List Char}
    (stands : ¬ HangingPart r.flags c s) :
    Alike s (readPart r c s) fun t => readPart r c (s ++ ')' :: t) := by
  by_cases escaped : c = '\\'
  · subst escaped
    exact readPart_escape_alike fun u same hanging => stands ⟨rfl, u, same, hanging⟩
  · exact tame_readPart escaped s _ (.append s)

/-- Before a hanging brace the closed text is refused too, one part later. -/
theorem readParts_hanging {r : Reading} {c : Char} {s : List Char}
    (hangs : HangingPart r.flags c s) :
    readPart r c s = none ∧ ∀ around t, Ending t →
      ((readPart r c (s ++ ')' :: t)).bind fun p => readParts (p.1.below around) p.2) = none := by
  obtain ⟨rfl, u, rfl, hanging⟩ := hangs
  obtain ⟨refused, closed⟩ := boundaryEscape_hanging hanging
  constructor
  · have escaped : escape r.flags ('b' :: u) = none := refused
    simp only [readPart, escaped]
    rfl
  · intro around t ending
    refine Option.bind_eq_none_iff.mpr fun p took => ?_
    obtain ⟨⟨e, rest⟩, begun, took⟩ := Option.bind_eq_some_iff.mp took
    obtain ⟨_, _, same⟩ := Option.map_eq_some_iff.mp took
    cases same
    obtain ⟨-, more, rfl, brace⟩ := closed t ending e rest begun
    have found : r.flags.skip ('\x7b' :: more) = '\x7b' :: more := by
      unfold Flags.skip
      split <;> rfl
    have range : repeatRange r.flags more = none := repeatRange_closing brace
    have part (q : Reading) (same : q.flags = r.flags) : readPart q '\x7b' more = none := by
      simp only [readPart, same, range]
      rfl
    have flags (q : Reading) (same : q.flags = r.flags) :
        readParts q ('\x7b' :: more) = none := by
      rw [readParts_cons (same ▸ found), part q same]
      rfl
    exact flags _ rfl

/-- The parts of a text come to a closing parenthesis where none of its own groups is open. -/
inductive ClosesAround : Reading → List Char → Prop
  | here {r : Reading} {s rest : List Char} :
    r.outer = [] → r.flags.skip s = ')' :: rest → ClosesAround r s
  | later {r r' : Reading} {s between rest : List Char} {c : Char} :
    r.flags.skip s = c :: between → readPart r c between = some (r', rest) →
    ClosesAround r' rest → ClosesAround r s

/-- The next part, inside more groups. -/
theorem readParts_below {r : Reading} {s rest : List Char} {c : Char}
    (found : r.flags.skip s = c :: rest) (own : c = ')' → r.outer ≠ [])
    (around : List (Level × Flags)) : readParts (r.below around) s =
      (readPart r c rest).bind fun p => readParts (p.1.below around) p.2 := by
  have flags : (r.below around).flags.skip s = c :: rest := found
  rw [readParts_cons flags, readPart_below r around c rest own, Option.bind_map]
  rfl

/-- A part that is a closing parenthesis closes a group. -/
theorem ne_nil_of_part {r r' : Reading} {c : Char} {s rest : List Char}
    (took : readPart r c s = some (r', rest)) : c = ')' → r.outer ≠ [] := by
  rintro rfl outermost
  obtain ⟨_, same, -⟩ := Option.map_eq_some_iff.mp took
  rw [closeGroup?_eq_none r outermost] at same
  cases same

/-- A text that is read to its end is read the same way inside more groups. -/
theorem readParts_inside {r r' : Reading} {s : List Char} (read : readParts r s = some r')
    (around : List (Level × Flags)) : readParts (r.below around) s = some (r'.below around) := by
  induction r, s using readParts_induction with
  | stop r s found =>
      rw [readParts_nil found] at read
      cases read
      exact readParts_nil found
  | part r s c rest found ih =>
      rw [readParts_cons found] at read
      obtain ⟨⟨r₁, rest₁⟩, took, read⟩ := Option.bind_eq_some_iff.mp read
      rw [readParts_below found (ne_nil_of_part took), took, Option.bind_some]
      exact ih r₁ rest₁ took read

/-- Behind the last part of a text comes the closing parenthesis, unless a comment takes it. -/
theorem readParts_end {r : Reading} {s : List Char} (used : r.flags.skip s = []) :
    (∀ around t, Ending t →
      readParts (r.below around) (s ++ ')' :: t) = readParts (r.below around) (')' :: t)) ∨
    (∀ around t, Ending t →
      readParts (r.below around) (s ++ ')' :: t) = some (r.below around)) := by
  have behind := (Behind.append s).skip r.flags
  rw [used] at behind
  cases behind with
  | closed h =>
      refine .inl fun around t _ => ?_
      have opened : (r.below around).flags.skip (s ++ ')' :: t) = ')' :: t := h t
      have closed : (r.below around).flags.skip (')' :: t) = ')' :: t := skip_closing r.flags t
      rw [readParts_cons opened, readParts_cons closed]
  | comment _ h => exact .inr fun around t ending => readParts_nil (h t ending)

/-- **A text that is read to its end is read the same way before a closing parenthesis**,
which comes next, unless a comment takes it. -/
theorem readParts_append {r r' : Reading} {s : List Char} (read : readParts r s = some r') :
    (∀ around t, Ending t →
      readParts (r.below around) (s ++ ')' :: t) = readParts (r'.below around) (')' :: t)) ∨
    (∀ around t, Ending t →
      readParts (r.below around) (s ++ ')' :: t) = some (r'.below around)) := by
  induction r, s using readParts_induction with
  | stop r s found =>
      rw [readParts_nil found] at read
      cases read
      exact readParts_end found
  | part r s c rest found ih =>
      rw [readParts_cons found] at read
      obtain ⟨⟨r₁, rest₁⟩, took, read⟩ := Option.bind_eq_some_iff.mp read
      have stands : ¬ HangingPart r.flags c rest := by
        intro hangs
        rw [(readParts_hanging hangs).1] at took
        cases took
      have next (around : List (Level × Flags)) (t : List Char) :=
        readParts_below (skip_append found t) (ne_nil_of_part took) around
      have alike := readPart_alike stands
      rw [took] at alike
      obtain ⟨rest', behind, same⟩ := alike.exists_rest
      cases behind with
      | closed h =>
          rcases ih r₁ rest₁ took read with closing | comment
          · refine .inl fun around t ending => ?_
            rw [next, same t ending, Option.bind_some, h t]
            exact closing around t ending
          · refine .inr fun around t ending => ?_
            rw [next, same t ending, Option.bind_some, h t]
            exact comment around t ending
      | comment empty h =>
          subst empty
          rw [readParts_nil (Flags.skip_nil _)] at read
          cases read
          refine .inr fun around t ending => ?_
          rw [next, same t ending, Option.bind_some, h t ending]
          exact readParts_nil (Flags.skip_nil _)

/-- **A text that is refused is refused before a closing parenthesis**, or what comes behind
it is still read inside the groups around, unless the text closes one of them. -/
theorem readParts_refused {r : Reading} {s : List Char} (refused : readParts r s = none)
    (own : ¬ ClosesAround r s) {around : List (Level × Flags)} {t : List Char}
    (ending : Ending t) {last : Reading}
    (read : readParts (r.below around) (s ++ ')' :: t) = some last) :
    ∃ q rest, rest <:+ t ∧ readParts (Reading.below q around) rest = some last := by
  induction r, s using readParts_induction with
  | stop r s found =>
      rw [readParts_nil found] at refused
      cases refused
  | part r s c rest found ih =>
      have inside : c = ')' → r.outer ≠ [] := by
        rintro rfl outermost
        exact own (.here outermost found)
      rw [readParts_below (skip_append found t) inside] at read
      by_cases hangs : HangingPart r.flags c rest
      · rw [(readParts_hanging hangs).2 around t ending] at read
        cases read
      · obtain ⟨⟨r₁, rest₁⟩, took, read⟩ := Option.bind_eq_some_iff.mp read
        have alike := readPart_alike hangs
        rw [readParts_cons found] at refused
        cases first : readPart r c rest with
        | none =>
            rw [first] at alike
            exact ⟨r₁, rest₁, alike.beyond ending took, read⟩
        | some p =>
            obtain ⟨r₂, rest₂⟩ := p
            rw [first] at alike refused
            rw [Option.bind_some] at refused
            obtain ⟨rest', behind, same⟩ := alike.exists_rest
            rw [same t ending] at took
            cases took
            cases behind with
            | closed h =>
                rw [h t] at read
                exact ih r₁ rest₂ first refused
                  (fun closes => own (.later found first closes)) read
            | comment empty =>
                subst empty
                rw [readParts_nil (Flags.skip_nil _)] at refused
                cases refused

end ProfileAudit.Pattern
