import ProfileAudit.Proofs.Text.Lines
import ProfileAudit.Text.Quoted

/-!
# What a quoted text is made of

A character is quoted as itself or as an escape of plain characters, those that can be typed and
seen. So nothing that would not be seen is in a quoted text, and it stands on one line
(`LineEnds.text`). So do the words of a text with blanks between them (`LineEnds.words`).
-/

namespace ProfileAudit

/-- Characters that can be typed and seen. -/
def isPlain (c : Char) : Bool := decide (32 ≤ c.toNat) && decide (c.toNat ≤ 126)

theorem isPlain_digitChar (n : Nat) : isPlain n.digitChar = true := by
  by_cases digit : n < 16
  · exact (by decide : ∀ n < 16, isPlain n.digitChar = true) n digit
  · have star : n.digitChar = '*' := by
      unfold Nat.digitChar
      repeat rw [if_neg (by omega)]
    rw [star]
    rfl

theorem isPlain_of_mem_toDigits {base n : Nat} (many : 1 < base) {c : Char}
    (member : c ∈ Nat.toDigits base n) : isPlain c = true := by
  induction n using Nat.strongRecOn with
  | ind n ih =>
      rw [Nat.toDigits_eq_if many] at member
      split at member
      · rw [List.mem_singleton.mp member]
        exact isPlain_digitChar n
      · next large =>
          rcases List.mem_append.mp member with before | last
          · exact ih (n / base) (Nat.div_lt_self (by omega) many) before
          · rw [List.mem_singleton.mp last]
            exact isPlain_digitChar _

namespace Quoted

variable {quote c d : Char} {s : String}

/-- A literal text is plain if its characters are. -/
theorem isPlain_of_mem_ofList {cs : List Char} (plain : cs.all isPlain = true)
    (member : d ∈ (String.ofList cs).toList) : isPlain d = true := by
  rw [String.toList_ofList] at member
  exact List.all_eq_true.mp plain d member

/-- A character is quoted as itself if it is shown, and by plain characters otherwise. -/
theorem mem_escape (plain : isPlain quote = true) (member : d ∈ (escape quote c).toList) :
    isPlain d = true ∨ d = c ∧ isShown c = true := by
  unfold escape at member
  repeat' split at member
  · exact .inl (isPlain_of_mem_ofList rfl member)
  · exact .inl (isPlain_of_mem_ofList rfl member)
  · exact .inl (isPlain_of_mem_ofList rfl member)
  · exact .inl (isPlain_of_mem_ofList rfl member)
  · exact .inl (isPlain_of_mem_ofList rfl member)
  · rw [String.toList_append] at member
    rcases List.mem_append.mp member with slash | own
    · exact .inl (isPlain_of_mem_ofList rfl slash)
    · have same : d = quote := by simpa using own
      exact .inl (same ▸ plain)
  · next shown =>
      refine .inr ⟨?_, shown⟩
      simpa using member
  · simp only [String.toList_append, List.mem_append] at member
    rcases member with (opening | digit) | closing
    · exact .inl (isPlain_of_mem_ofList rfl opening)
    · rw [hexadecimal, String.toList_ofList] at digit
      exact .inl (isPlain_of_mem_toDigits (by decide) digit)
    · exact .inl (isPlain_of_mem_ofList rfl closing)

/-- What stands in a quoted text is plain, or it is shown as it is. -/
theorem mem_text (member : d ∈ (text s).toList) :
    isPlain d = true ∨ isShown d = true := by
  simp only [text, String.toList_append, List.mem_append, String.toList_join, List.mem_flatMap,
    List.mem_map] at member
  rcases member with (opening | ⟨piece, ⟨c, -, rfl⟩, inside⟩) | closing
  · exact .inl (isPlain_of_mem_ofList rfl opening)
  · rcases mem_escape rfl inside with plain | ⟨rfl, shown⟩
    · exact .inl plain
    · exact .inr shown
  · exact .inl (isPlain_of_mem_ofList rfl closing)

/-- What stands in a quoted character is plain, or it is the character. -/
theorem mem_char (member : d ∈ (char c).toList) : isPlain d = true ∨ d = c := by
  simp only [char, String.toList_append, List.mem_append] at member
  rcases member with (opening | inside) | closing
  · exact .inl (isPlain_of_mem_ofList rfl opening)
  · exact (mem_escape rfl inside).imp_right And.left
  · exact .inl (isPlain_of_mem_ofList rfl closing)

end Quoted

/-! ## On one line -/

/-- What breaks a line are blanks that are not shown, and the newline is one of them. -/
structure LineEnds (breaks : Char → Bool) : Prop where
  newline : breaks '\n' = true
  blank : ∀ c, breaks c = true → isBlank c = true
  hidden : ∀ c, breaks c = true → Quoted.isShown c = false

namespace LineEnds

variable {breaks : Char → Bool} {c : Char} {s : String}

theorem of_isShown (ends : LineEnds breaks) (shown : Quoted.isShown c = true) :
    breaks c = false := by
  by_contra broken
  rw [ends.hidden c (Bool.not_eq_false _ ▸ broken)] at shown
  cases shown

theorem of_isPlain (ends : LineEnds breaks) (plain : isPlain c = true) : breaks c = false := by
  apply ends.of_isShown
  have low : c.toNat < 128 := by
    rw [isPlain, Bool.and_eq_true, decide_eq_true_eq, decide_eq_true_eq] at plain
    omega
  rw [Quoted.isShown, if_pos low]
  exact plain

theorem lineBreaks (ends : LineEnds breaks) : LineBreaks breaks :=
  ⟨ends.newline, ends.of_isPlain rfl⟩

/-- A text of plain characters stands on one line. -/
theorem literal (ends : LineEnds breaks) (plain : s.toList.all isPlain = true) :
    OnOneLine breaks s.toList :=
  fun c member => ends.of_isPlain (List.all_eq_true.mp plain c member)

theorem text (ends : LineEnds breaks) (s : String) : OnOneLine breaks (Quoted.text s).toList := by
  intro c member
  rcases Quoted.mem_text member with plain | shown
  · exact ends.of_isPlain plain
  · exact ends.of_isShown shown

theorem words (ends : LineEnds breaks) (s : String) :
    OnOneLine breaks (Blank.onOneLine s).toList := by
  intro c member
  rcases Blank.mem_onOneLine member with rfl | ink
  · exact ends.of_isPlain rfl
  · by_contra broken
    rw [ends.blank c (Bool.not_eq_false _ ▸ broken)] at ink
    cases ink

theorem number (ends : LineEnds breaks) (n : Nat) : OnOneLine breaks n.repr.toList := by
  intro c member
  rw [Nat.repr, String.toList_ofList] at member
  exact ends.of_isPlain (isPlain_of_mem_toDigits (by omega) member)

end LineEnds

/-- The breaks of lines and pages that plain texts have. -/
def endsLine (c : Char) : Bool := ['\n', '\x0b', '\x0c', '\r'].contains c

theorem lineEnds_endsLine : LineEnds endsLine := by
  have each (c : Char) (ending : endsLine c = true) :
      isBlank c = true ∧ Quoted.isShown c = false := by
    simp only [endsLine, List.contains_iff_mem, List.mem_cons, List.not_mem_nil,
      or_false] at ending
    rcases ending with rfl | rfl | rfl | rfl
    all_goals exact ⟨by decide, by decide⟩
  exact ⟨rfl, fun c ending => (each c ending).1, fun c ending => (each c ending).2⟩

end ProfileAudit
