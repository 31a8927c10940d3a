import Mathlib.Data.List.DropRight
import ProfileAudit.Text.Blank
import ProfileAudit.Text.Split

/-!
# Lines and their ends

A text whose lines are all ended has these lines, and after the last one nothing
(`partsBetween_ended`). Which characters end a line is left open: the newline does, a blank does
not (`LineBreaks`). Trimming a line takes blanks from its end only, and it makes no difference how
many of them a line is extended with before a piece of it is cut out and trimmed
(`trimEnd_take_drop_append`).
-/

namespace ProfileAudit

/-- Some characters break lines: the newline among them, the plain blank not. -/
structure LineBreaks (breaks : Char → Bool) : Prop where
  newline : breaks '\n' = true
  space : breaks ' ' = false

/-- The text stands on one line. -/
def OnOneLine (breaks : Char → Bool) (s : List Char) : Prop := ∀ c ∈ s, breaks c = false

variable {breaks : Char → Bool} {s t blanks : List Char}

theorem onOneLine_append : OnOneLine breaks (s ++ t) ↔ OnOneLine breaks s ∧ OnOneLine breaks t :=
  List.forall_mem_append

theorem partsBetween_cons_of_not {c : Char} (stays : breaks c = false) {part : List Char}
    {parts : List (List Char)} (rest : partsBetween breaks s = part :: parts) :
    partsBetween breaks (c :: s) = (c :: part) :: parts := by
  rw [partsBetween, if_neg (by simp [stays]), rest]

/-- A line is the first part of a text that begins with it. -/
theorem partsBetween_line (ends : LineBreaks breaks) (line : OnOneLine breaks s) (t : List Char) :
    partsBetween breaks (s ++ '\n' :: t) = s :: partsBetween breaks t := by
  induction s with
  | nil => rw [List.nil_append, partsBetween, if_pos ends.newline]
  | cons c s ih =>
      obtain ⟨stays, line⟩ := List.forall_mem_cons.mp line
      exact partsBetween_cons_of_not stays (ih line)

/-- A text of ended lines has these lines, and nothing after the last one. -/
theorem partsBetween_ended (ends : LineBreaks breaks) {lines : List (List Char)}
    (all : ∀ line ∈ lines, OnOneLine breaks line) (t : List Char) :
    partsBetween breaks (lines.flatMap (· ++ ['\n']) ++ t) = lines ++ partsBetween breaks t := by
  induction lines with
  | nil => rfl
  | cons line lines ih =>
      obtain ⟨first, all⟩ := List.forall_mem_cons.mp all
      have split : (line :: lines).flatMap (· ++ ['\n']) ++ t =
          line ++ '\n' :: (lines.flatMap (· ++ ['\n']) ++ t) := by simp
      rw [split, partsBetween_line ends first, ih all, List.cons_append]

/-! ## Trimming -/

namespace Blank

theorem trimEnd_eq (s : List Char) : trimEnd s = s.rdropWhile isBlank := rfl

theorem trimEnd_append (blank : ∀ c ∈ blanks, isBlank c = true) (s : List Char) :
    trimEnd (s ++ blanks) = trimEnd s := by
  have reversed : ∀ c ∈ blanks.reverse, isBlank c = true :=
    fun c member => blank c (List.mem_reverse.mp member)
  rw [trimEnd, List.reverse_append, List.dropWhile_append_of_pos reversed]
  rfl

/-- What is trimmed are blanks. -/
theorem exists_trimmed (s : List Char) :
    ∃ blanks, s = trimEnd s ++ blanks ∧ ∀ c ∈ blanks, isBlank c = true := by
  refine ⟨s.rtakeWhile isBlank, ?_, fun c member => ?_⟩
  · rw [trimEnd_eq, List.rdropWhile_append_rtakeWhile]
  · exact List.mem_rtakeWhile_imp member

theorem mem_of_mem_trimEnd {c : Char} (member : c ∈ trimEnd s) : c ∈ s :=
  (List.rdropWhile_prefix isBlank s).subset member

/-- A piece of a line is the same, once trimmed, whatever blanks the line is extended with. -/
theorem trimEnd_take_drop_append (blank : ∀ c ∈ blanks, isBlank c = true) (s : List Char)
    (d k : Nat) :
    trimEnd (((s ++ blanks).drop d).take k) = trimEnd ((s.drop d).take k) := by
  rw [List.drop_append, List.take_append]
  apply trimEnd_append
  intro c member
  exact blank c (List.mem_of_mem_drop (List.mem_of_mem_take member))

theorem trimEnd_drop_append (blank : ∀ c ∈ blanks, isBlank c = true) (s : List Char) (d : Nat) :
    trimEnd ((s ++ blanks).drop d) = trimEnd (s.drop d) := by
  rw [List.drop_append]
  apply trimEnd_append
  intro c member
  exact blank c (List.mem_of_mem_drop member)

/-! ## Words on one line -/

theorem not_isBlank_of_mem_wordsFrom {word piece : List Char}
    (inked : ∀ c ∈ word, isBlank c = false) (listed : piece ∈ wordsFrom word s) :
    ∀ c ∈ piece, isBlank c = false := by
  have reversed (word : List Char) (inked : ∀ c ∈ word, isBlank c = false) :
      ∀ c ∈ word.reverse, isBlank c = false :=
    fun c member => inked c (List.mem_reverse.mp member)
  fun_induction wordsFrom word s with
  | case1 word => cases listed
  | case2 word more =>
      rw [List.mem_singleton.mp listed]
      exact reversed word inked
  | case3 word c s blank none ih => exact ih (fun d => nofun) listed
  | case4 word c s blank some ih =>
      rcases List.mem_cons.mp listed with rfl | behind
      · exact reversed word inked
      · exact ih (fun d => nofun) behind
  | case5 word c s ink ih =>
      exact ih (List.forall_mem_cons.mpr ⟨Bool.not_eq_true _ ▸ ink, inked⟩) listed

theorem mem_intercalate {α : Type} {sep : List α} {parts : List (List α)} {a : α}
    (member : a ∈ sep.intercalate parts) : a ∈ sep ∨ ∃ part ∈ parts, a ∈ part := by
  induction parts with
  | nil => cases member
  | cons part parts ih =>
      cases parts with
      | nil =>
          rw [List.intercalate_singleton] at member
          exact .inr ⟨part, List.mem_cons_self, member⟩
      | cons next parts =>
          rw [List.intercalate_cons_cons, List.append_assoc] at member
          rcases List.mem_append.mp member with own | member
          · exact .inr ⟨part, List.mem_cons_self, own⟩
          · rcases List.mem_append.mp member with between | behind
            · exact .inl between
            · refine (ih behind).imp_right fun ⟨other, listed, inside⟩ => ?_
              exact ⟨other, List.mem_cons_of_mem _ listed, inside⟩

/-- Nothing blank is left of a text but the blanks between its words. -/
theorem mem_onOneLine {text : String} {c : Char} (member : c ∈ (onOneLine text).toList) :
    c = ' ' ∨ isBlank c = false := by
  rw [onOneLine, String.toList_intercalate, List.map_map] at member
  rcases mem_intercalate member with gap | ⟨part, listed, inside⟩
  · exact .inl (List.mem_singleton.mp gap)
  · obtain ⟨word, found, rfl⟩ := List.mem_map.mp listed
    rw [Function.comp_apply, String.toList_ofList] at inside
    exact .inr (not_isBlank_of_mem_wordsFrom (List.forall_mem_nil _) found c inside)

end Blank

end ProfileAudit
