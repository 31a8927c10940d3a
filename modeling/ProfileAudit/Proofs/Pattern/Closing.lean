import ProfileAudit.Pattern.Flags

/-!
# Texts that are closed

A pattern is put into a group by writing a closing parenthesis behind its text, and perhaps
more parentheses and a dollar sign. This module says what it means for a reader not to mind:
`Tame`. What a tame reader takes from a text it takes from the closed text too, and the rest
is the rest of the text, closed. There is one exception: a comment at the end of the text
goes on to the end of the line, and so it takes what was to close the text (`Behind`). And
where a tame reader refuses a text and yet takes something from the closed one, it has taken
the closing parenthesis.
-/

namespace ProfileAudit.Pattern

variable {α β : Type}

/-- What may follow the parenthesis that closes a text. -/
def Ending (t : List Char) : Prop := ∀ c ∈ t, c = ')' ∨ c = '$'

/-- `s'` is the text `s` when it is closed: either the closing parenthesis and the ending
stand behind it, or both are used up, by a comment. -/
inductive Behind (s : List Char) (s' : List Char → List Char) : Prop
  | closed : (∀ t, s' t = s ++ ')' :: t) → Behind s s'
  | comment : s = [] → (∀ t, Ending t → s' t = []) → Behind s s'

/-- `x` is read from `s`, and `y` is what is read when the text is closed. -/
inductive Alike (s : List Char) :
    Option (α × List Char) → (List Char → Option (α × List Char)) → Prop
  | taken {a : α} {rest : List Char} {rest' : List Char → List Char}
      {y : List Char → Option (α × List Char)} :
    rest <:+ s → Behind rest rest' → (∀ t, Ending t → y t = some (a, rest' t)) →
    Alike s (some (a, rest)) y
  | refused {y : List Char → Option (α × List Char)} :
    (∀ t, Ending t → ∀ a rest, y t = some (a, rest) → rest <:+ t) → Alike s none y

/-- A reader that takes from a closed text what it takes from the text. -/
def Tame (read : List Char → Option (α × List Char)) : Prop :=
  ∀ s s', Behind s s' → Alike s (read s) fun t => read (s' t)

theorem Behind.append (s : List Char) : Behind s fun t => s ++ ')' :: t := .closed fun _ => rfl

/-! ## Composing -/

namespace Alike

variable {s : List Char} {x : Option (α × List Char)} {y y' : List Char → Option (α × List Char)}

theorem congr (alike : Alike s x y) (same : ∀ t, Ending t → y' t = y t) : Alike s x y' := by
  cases alike with
  | taken shorter behind took => exact .taken shorter behind fun t h => (same t h).trans (took t h)
  | refused beyond =>
      refine .refused fun t h a rest took => ?_
      rw [same t h] at took
      exact beyond t h a rest took

theorem of_suffix {s₀ : List Char} (alike : Alike s x y) (suffix : s <:+ s₀) : Alike s₀ x y := by
  cases alike with
  | taken shorter behind took => exact .taken (shorter.trans suffix) behind took
  | refused beyond => exact .refused beyond

theorem suffix {a : α} {rest : List Char} (alike : Alike s (some (a, rest)) y) : rest <:+ s := by
  cases alike with
  | taken shorter _ _ => exact shorter

/-- What is taken from the closed text where something is taken from the text. -/
theorem exists_rest {a : α} {rest : List Char} (alike : Alike s (some (a, rest)) y) :
    ∃ rest', Behind rest rest' ∧ ∀ t, Ending t → y t = some (a, rest' t) := by
  cases alike with
  | taken _ behind took => exact ⟨_, behind, took⟩

/-- What is left of the closed text where nothing is taken from the text. -/
theorem beyond {t : List Char} {a : α} {rest : List Char} (alike : Alike s .none y)
    (ending : Ending t) (took : y t = some (a, rest)) : rest <:+ t := by
  cases alike with
  | refused beyond => exact beyond t ending a rest took

theorem pure {a : α} {s' : List Char → List Char} (behind : Behind s s') :
    Alike s (some (a, s)) fun t => some (a, s' t) :=
  .taken (List.suffix_refl s) behind fun _ _ => rfl

theorem none : Alike s (.none : Option (α × List Char)) fun _ => .none :=
  .refused fun _ _ _ _ took => nomatch took

/-- A text that is used up is read the same way once it is closed by nothing. -/
theorem of_behind (read : List Char → Option (α × List Char)) {s' : List Char → List Char}
    (alike : Alike s (read s) fun t => read (s ++ ')' :: t)) (behind : Behind s s') :
    Alike s (read s) fun t => read (s' t) := by
  cases behind with
  | closed h => exact alike.congr fun t _ => by rw [h t]
  | comment empty h =>
      subst empty
      cases taken : read [] with
      | none =>
          refine .refused fun t ht a rest took => ?_
          rw [h t ht, taken] at took
          cases took
      | some p =>
          obtain ⟨a, rest⟩ := p
          rw [taken] at alike
          have used : rest = [] := List.suffix_nil.mp alike.suffix
          subst used
          refine .taken (List.suffix_refl []) (.comment rfl fun _ _ => rfl) fun t ht => ?_
          rw [h t ht, taken]

theorem bind {next : α × List Char → Option (β × List Char)} (alike : Alike s x y)
    (tame : ∀ a, Tame fun rest => next (a, rest)) :
    Alike s (x.bind next) fun t => (y t).bind next := by
  cases alike with
  | @taken a rest rest' _ shorter behind took =>
      refine ((tame a rest rest' behind).of_suffix shorter).congr fun t h => ?_
      rw [took t h, Option.bind_some]
  | refused beyond =>
      refine .refused fun t h b rest took => ?_
      obtain ⟨⟨a, between⟩, first, last⟩ := Option.bind_eq_some_iff.mp took
      have alike := tame a between _ (.append between)
      dsimp only at alike
      rw [last] at alike
      exact alike.suffix.trans (beyond t h a between first)

theorem map {f : α → β} (alike : Alike s x y) :
    Alike s (x.map fun p => (f p.1, p.2)) fun t => (y t).map fun p => (f p.1, p.2) := by
  cases alike with
  | taken shorter behind took =>
      exact .taken shorter behind fun t h => by rw [took t h, Option.map_some]
  | refused beyond =>
      refine .refused fun t h b rest took => ?_
      obtain ⟨⟨a, rest'⟩, first, same⟩ := Option.map_eq_some_iff.mp took
      cases same
      exact beyond t h a rest' first

/-- What does not depend on the text may be asked first. -/
theorem bind_const {o : Option β} {k : β → Option (α × List Char)}
    {k' : List Char → β → Option (α × List Char)}
    (alike : ∀ b, Alike s (k b) fun t => k' t b) :
    Alike s (o.bind k) fun t => o.bind (k' t) := by
  cases o with
  | none => exact .none
  | some b => exact alike b

end Alike

namespace Tame

variable {read : List Char → Option (α × List Char)}

theorem of_append (h : ∀ s, Alike s (read s) fun t => read (s ++ ')' :: t)) : Tame read :=
  fun s _ behind => .of_behind read (h s) behind

theorem suffix (tame : Tame read) {s rest : List Char} {a : α} (took : read s = some (a, rest)) :
    rest <:+ s := by
  have alike := tame s _ (.append s)
  rw [took] at alike
  exact alike.suffix

theorem pure (a : α) : Tame fun s => some (a, s) := fun _ _ behind => .pure behind

theorem none : Tame fun _ => (.none : Option (α × List Char)) := fun _ _ _ => .none

/-- Something that is there or not, whatever the text. -/
theorem value (o : Option β) (f : β → α) : Tame fun s => o.map fun b => (f b, s) := by
  cases o with
  | none => exact Tame.none
  | some b => exact Tame.pure (f b)

/-- A reader that looks at the next character first. -/
theorem of_head {next : Char → List Char → Option (α × List Char)} (nil : read [] = .none)
    (cons : ∀ c s, read (c :: s) = next c s) (tame : ∀ c, Tame (next c)) : Tame read := by
  refine of_append fun s => ?_
  cases s with
  | nil =>
      rw [nil]
      refine .refused fun t _ a rest took => ?_
      rw [List.nil_append, cons] at took
      exact (tame ')').suffix took
  | cons c s =>
      rw [cons]
      refine ((tame c s _ (.append s)).of_suffix (List.suffix_cons c s)).congr fun t _ => ?_
      rw [List.cons_append, cons]

theorem bind {next : α × List Char → Option (β × List Char)} (first : Tame read)
    (last : ∀ a, Tame fun rest => next (a, rest)) : Tame fun s => (read s).bind next :=
  fun s s' behind => (first s s' behind).bind last

end Tame

/-! ## Free layout -/

theorem dropLayout_suffix (inComment : Bool) (s : List Char) : dropLayout inComment s <:+ s := by
  induction s generalizing inComment with
  | nil => exact List.suffix_refl []
  | cons c s ih =>
      unfold dropLayout
      split
      · exact (ih _).trans (List.suffix_cons c s)
      · split
        · exact (ih _).trans (List.suffix_cons c s)
        · split
          · exact (ih _).trans (List.suffix_cons c s)
          · exact List.suffix_refl _

/-- A comment goes on over an ending, which has no end of a line. -/
theorem dropLayout_comment {t : List Char} (ending : ∀ c ∈ t, c ≠ '\n') :
    dropLayout true t = [] := by
  induction t with
  | nil => rfl
  | cons c t ih =>
      have line : (c != '\n') = true := by simpa using ending c List.mem_cons_self
      rw [dropLayout, if_pos rfl, line]
      exact ih fun c' h => ending c' (List.mem_cons_of_mem c h)

theorem Ending.no_lineBreak {t : List Char} (ending : Ending t) :
    ∀ c ∈ ')' :: t, c ≠ '\n' := by
  intro c member
  rcases List.mem_cons.mp member with rfl | inEnding
  · decide
  · rcases ending c inEnding with rfl | rfl <;> decide

/-- Blanks and comments are dropped alike, but a comment that is open at the end of the text
takes the closing parenthesis too. -/
theorem behind_dropLayout (inComment : Bool) (s : List Char) :
    Behind (dropLayout inComment s) fun t => dropLayout inComment (s ++ ')' :: t) := by
  induction s generalizing inComment with
  | nil =>
      cases inComment with
      | false => exact .append []
      | true => exact .comment rfl fun t h => dropLayout_comment h.no_lineBreak
  | cons c s ih =>
      simp only [List.cons_append, dropLayout]
      split
      · exact ih _
      · split
        · exact ih _
        · split
          · exact ih _
          · exact .append (c :: s)

theorem Flags.skip_suffix (f : Flags) (s : List Char) : f.skip s <:+ s := by
  unfold Flags.skip
  split
  · exact dropLayout_suffix false s
  · exact List.suffix_refl s

theorem Flags.skip_nil (f : Flags) : f.skip [] = [] := List.suffix_nil.mp (f.skip_suffix [])

theorem Behind.skip {s : List Char} {s' : List Char → List Char} (f : Flags)
    (behind : Behind s s') : Behind (f.skip s) fun t => f.skip (s' t) := by
  cases behind with
  | closed h =>
      simp only [h]
      unfold Flags.skip
      split
      · exact behind_dropLayout false s
      · exact .append s
  | comment empty h =>
      subst empty
      refine .comment f.skip_nil fun t ht => ?_
      rw [h t ht, f.skip_nil]

/-- A character that is there before the text is closed is there behind it. -/
theorem skip_append {f : Flags} {s rest : List Char} {c : Char} (found : f.skip s = c :: rest)
    (t : List Char) : f.skip (s ++ ')' :: t) = c :: (rest ++ ')' :: t) := by
  have behind := (Behind.append s).skip f
  rw [found] at behind
  cases behind with
  | closed h => exact h t
  | comment empty => cases empty

/-- Blanks and comments before what is read do no harm. -/
theorem Tame.skip {read : List Char → Option (α × List Char)} (f : Flags) (tame : Tame read) :
    Tame fun s => read (f.skip s) :=
  fun s _ behind => (tame _ _ (behind.skip f)).of_suffix (f.skip_suffix s)

/-- A reader that drops blanks and comments and looks at the next character. -/
theorem Tame.of_head_skip {read : List Char → Option (α × List Char)}
    {next : Char → List Char → Option (α × List Char)} (f : Flags)
    (nil : ∀ s, f.skip s = [] → read s = .none)
    (cons : ∀ s c rest, f.skip s = c :: rest → read s = next c rest)
    (tame : ∀ c, Tame (next c)) : Tame read := by
  have split : ∀ s, read s = ((f.skip s).head?).bind fun c => next c (f.skip s).tail := by
    intro s
    cases h : f.skip s with
    | nil => exact nil s h
    | cons c rest => exact cons s c rest h
  have body : Tame fun s : List Char => (s.head?).bind fun c => next c s.tail :=
    Tame.of_head rfl (fun _ _ => rfl) tame
  intro s s' behind
  rw [split]
  exact (body.skip f s s' behind).congr fun t _ => split (s' t)

/-- Nor do they behind it. -/
theorem Tame.value_skip (f : Flags) (o : Option β) (g : β → α) :
    Tame fun s => o.map fun b => (g b, f.skip s) :=
  Tame.skip f (Tame.value o g)

end ProfileAudit.Pattern
