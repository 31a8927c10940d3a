import ProfileAudit.Pattern.Class
import ProfileAudit.Proofs.Pattern.ElementClosing

/-!
# Classes of a closed text

A class ends with a bracket, and there is none in what closes a text. So a class that is
finished in the text is finished there in the closed text too, and a class that is open at the
end of the text stays open: `bracketed_append`. On the way a reader may well take the closing
parenthesis for an item of the class, which is why a step is only asked to agree as long as
some of the text is left (`Inside`).
-/

namespace ProfileAudit.Pattern

variable {α β : Type} {f : Flags}

theorem Ending.no_bracket {t : List Char} (ending : Ending t) : ']' ∉ ')' :: t := by
  intro member
  rcases List.mem_cons.mp member with same | inEnding
  · exact absurd same (by decide)
  · rcases ending ']' inEnding with same | same <;> exact absurd same (by decide)

theorem Behind.no_bracket {s' : List Char → List Char} (behind : Behind [] s') {t : List Char}
    (ending : Ending t) : ']' ∉ s' t := by
  cases behind with
  | closed h =>
      rw [h t]
      exact ending.no_bracket
  | comment _ h =>
      rw [h t ending]
      exact List.not_mem_nil

/-- A step inside a class: either some of the text is left and the closed text is read the
same way, or nothing is left and in the closed text nothing that could end the class. -/
inductive Inside :
    Option (α × List Char) → (List Char → Option (α × List Char)) → Prop
  | within {a : α} {rest : List Char} {y : List Char → Option (α × List Char)} :
    rest ≠ [] → (∀ t, Ending t → y t = some (a, rest ++ ')' :: t)) → Inside (some (a, rest)) y
  | used {x : Option (α × List Char)} {y : List Char → Option (α × List Char)} :
    (∀ a rest, x = some (a, rest) → rest = []) →
    (∀ t, Ending t → ∀ a rest, y t = some (a, rest) → ']' ∉ rest) → Inside x y

/-- A reader returns a rest of its text. -/
def Shortens (read : List Char → Option (α × List Char)) : Prop :=
  ∀ s a rest, read s = some (a, rest) → rest <:+ s

namespace Inside

variable {x : Option (α × List Char)} {y y' : List Char → Option (α × List Char)}

theorem congr (inside : Inside x y) (same : ∀ t, Ending t → y' t = y t) : Inside x y' := by
  cases inside with
  | within left took => exact .within left fun t ht => (same t ht).trans (took t ht)
  | used first last =>
      refine .used first fun t ht a rest took => ?_
      rw [same t ht] at took
      exact last t ht a rest took

theorem none : Inside (.none : Option (α × List Char)) fun _ => .none :=
  .used nofun nofun

/-- What is left of a text that is closed. -/
theorem of_behind {a : α} {s : List Char} {s' : List Char → List Char} (behind : Behind s s') :
    Inside (some (a, s)) fun t => some (a, s' t) := by
  by_cases empty : s = []
  · subst empty
    refine .used (fun _ _ same => ?_) fun t ht _ rest same => ?_
    · cases same
      rfl
    · cases same
      exact behind.no_bracket ht
  · cases behind with
    | closed h => exact .within empty fun t _ => by rw [h t]
    | comment used => exact absurd used empty

theorem of_alike {s : List Char} (alike : Alike s x y) : Inside x y := by
  cases alike with
  | taken _ behind took => exact (of_behind behind).congr took
  | refused beyond =>
      refine .used nofun fun t ht a rest took inRest => ?_
      exact ht.no_bracket (List.mem_cons_of_mem _ ((beyond t ht a rest took).subset inRest))

/-- The next step is only asked for where some of the text is left. -/
theorem bind {next : α × List Char → Option (β × List Char)} (inside : Inside x y)
    (shortens : ∀ a, Shortens fun rest => next (a, rest))
    (step : ∀ a rest, rest ≠ [] →
      Inside (next (a, rest)) fun t => next (a, rest ++ ')' :: t)) :
    Inside (x.bind next) fun t => (y t).bind next := by
  cases inside with
  | @within a rest _ left took =>
      refine (step a rest left).congr fun t ht => ?_
      rw [took t ht, Option.bind_some]
  | used first last =>
      refine .used (fun b rest took => ?_) fun t ht b rest took => ?_
      · obtain ⟨⟨a, between⟩, begun, took⟩ := Option.bind_eq_some_iff.mp took
        have shorter := shortens a between b rest took
        rw [first a between begun] at shorter
        exact List.suffix_nil.mp shorter
      · obtain ⟨⟨a, between⟩, begun, took⟩ := Option.bind_eq_some_iff.mp took
        intro inRest
        have shorter := shortens a between b rest took
        exact last t ht a between begun (shorter.subset inRest)

theorem map {g : α → β} (inside : Inside x y) :
    Inside (x.map fun p => (g p.1, p.2)) fun t => (y t).map fun p => (g p.1, p.2) := by
  cases inside with
  | within left took => exact .within left fun t ht => by rw [took t ht, Option.map_some]
  | used first last =>
      refine .used (fun b rest took => ?_) fun t ht b rest took => ?_
      · obtain ⟨⟨a, rest'⟩, begun, same⟩ := Option.map_eq_some_iff.mp took
        cases same
        exact first a rest' begun
      · obtain ⟨⟨a, rest'⟩, begun, same⟩ := Option.map_eq_some_iff.mp took
        cases same
        exact last t ht a rest' begun

theorem filter {p : α → Bool} (inside : Inside x y) :
    Inside (x.bind fun q => if p q.1 then some q else .none)
      fun t => (y t).bind fun q => if p q.1 then some q else .none := by
  refine inside.bind (fun a s b rest took => ?_) fun a rest _ => ?_
  · dsimp only at took
    split at took
    · cases took
      exact List.suffix_refl _
    · cases took
  · dsimp only
    split
    · exact of_behind (.append rest)
    · exact .none

/-- Where blanks were dropped, nothing may be left of the closed text either. -/
theorem of_append {read : List Char → Option (α × List Char)} (shortens : Shortens read)
    {s : List Char} {s' : List Char → List Char}
    (inside : Inside (read s) fun t => read (s ++ ')' :: t)) (behind : Behind s s') :
    Inside (read s) fun t => read (s' t) := by
  cases behind with
  | closed h => exact inside.congr fun t _ => by rw [h t]
  | comment empty h =>
      subst empty
      have used : ∀ a rest, read [] = some (a, rest) → rest = [] := fun a rest took =>
        List.suffix_nil.mp (shortens [] a rest took)
      refine .used used fun t ht a rest took => ?_
      rw [h t ht] at took
      rw [used a rest took]
      exact List.not_mem_nil

theorem value (o : Option β) (g : β → α) {s : List Char} {s' : List Char → List Char}
    (behind : Behind s s') :
    Inside (o.map fun b => (g b, s)) fun t => o.map fun b => (g b, s' t) := by
  cases o with
  | none => exact .none
  | some b => exact of_behind behind

end Inside

/-! ## Items -/

theorem dropBlanks_append (s t : List Char) :
    (s ++ ')' :: t).dropWhile isBlank = s.dropWhile isBlank ++ ')' :: t := by
  induction s with
  | nil => rfl
  | cons c s ih =>
      rw [List.cons_append, List.dropWhile_cons, List.dropWhile_cons]
      split
      · exact ih
      · rfl

theorem head?_dropBlanks {s : List Char} {c : Char} (blank : isBlank c = false)
    (head : s.head? = some c) : (s.dropWhile isBlank).head? = some c := by
  cases s with
  | nil => cases head
  | cons d s =>
      cases head
      rw [List.dropWhile_cons, blank]
      rfl

/-- A look ahead sees a bracket or a minus sign in the closed text if it sees it in the
text. -/
theorem peek_append {c : Char} (blank : isBlank c = false) (sign : c ≠ '#') (closing : c ≠ ')')
    (s t : List Char) : f.peek (s ++ ')' :: t) = some c ↔ f.peek s = some c := by
  unfold Flags.peek
  split
  · rw [dropBlanks_append]
    have first := head?_dropBlanks (s := s) blank
    cases dropped : s.dropWhile isBlank with
    | nil =>
        rw [dropped] at first
        simp only [List.nil_append, List.head?_nil, Option.none_or]
        constructor
        · intro same
          exact absurd (Option.some.inj same).symm closing
        · intro same
          cases first same
    | cons d u =>
        rw [dropped] at first
        by_cases isSign : d = '#'
        · subst isSign
          simp only [List.cons_append, dropBlanks_append]
          cases u.dropWhile isBlank with
          | nil =>
              simp only [List.nil_append, List.head?_cons, List.head?_nil, Option.none_or]
              constructor
              · intro same
                exact absurd (Option.some.inj same).symm closing
              · intro same
                exact absurd (Option.some.inj (first same)).symm sign
          | cons e v => rfl
        · simp [isSign]
  · cases s with
    | nil => simpa using Ne.symm closing
    | cons d s => rfl

/-- An element that can stand in a class. -/
def Element.isMember : Element → Bool
  | .literal _ _ => true
  | .set _ => true
  | _ => false

/-- Reads an element that can stand in a class. -/
def memberElement (f : Flags) (s : List Char) : Option (Element × List Char) :=
  (classElement f s).bind fun p => if p.1.isMember then some p else none

/-- The range between two elements. -/
def rangeNode? (f : Flags) : Element → Element → Option Node
  | .literal a _, .literal b _ => do
    let a ← classLiteral? f a
    let b ← classLiteral? f b
    if a ≤ b then some ⟨.range a b, 0⟩ else none
  | _, _ => none

/-- The set of one element. -/
def singleNode? (f : Flags) : Element → Option Node
  | .literal c _ => (classLiteral? f c).map fun c => ⟨.one c, 0⟩
  | .set s => some ⟨s, 0⟩
  | _ => none

/-- The rest of an item after its first element, from the next character that counts. -/
def itemEnd (f : Flags) (first : Element) (c : Char) (after : List Char) :
    Option (Node × List Char) :=
  if c = '-' ∧ f.peek after ≠ some ']' ∧ f.peek after ≠ some '-' then
    (memberElement f (f.skip after)).bind fun p => (rangeNode? f first p.1).map fun n => (n, p.2)
  else (singleNode? f first).map fun n => (n, c :: after)

/-- The rest of an item after its first element. -/
def itemRest (f : Flags) (first : Element) (s : List Char) : Option (Node × List Char) :=
  (f.skip s).head?.bind fun c => itemEnd f first c (f.skip s).tail

theorem single_eq (e : Element) (rest : List Char) :
    classItem.single f e rest = (singleNode? f e).map fun n => (n, rest) := by
  cases e with
  | literal c byte =>
      simp only [classItem.single, singleNode?]
      cases classLiteral? f c <;> rfl
  | set s => rfl
  | look place => rfl
  | dot => rfl

theorem singleNode?_eq_none {e : Element} (place : e.isMember = false) :
    singleNode? f e = none := by
  cases e with
  | literal | set => cases place
  | look | dot => rfl

theorem rangeNode?_eq_none {a b : Element} (place : a.isMember = false ∨ b.isMember = false) :
    rangeNode? f a b = none := by
  unfold rangeNode?
  split
  · rcases place with place | place <;> cases place
  · rfl

theorem range_eq (first last : Element) (rest : List Char) :
    (match first, last with
      | .literal a _, .literal b _ => do
        let a ← classLiteral? f a
        let b ← classLiteral? f b
        if a ≤ b then some (⟨.range a b, 0⟩, rest) else none
      | _, _ => none : Option (Node × List Char)) =
    (rangeNode? f first last).map fun n => (n, rest) := by
  unfold rangeNode?
  split
  · next a _ b _ =>
      cases classLiteral? f a with
      | none => rfl
      | some a =>
          cases classLiteral? f b with
          | none => rfl
          | some b =>
              simp only [Option.bind_eq_bind, Option.bind_some]
              split <;> rfl
  · rfl

/-- Only members can begin or end an item. -/
theorem bind_memberElement {β : Type} (s : List Char)
    {next : Element × List Char → Option β}
    (place : ∀ p : Element × List Char, p.1.isMember = false → next p = none) :
    (classElement f s).bind next = (memberElement f s).bind next := by
  unfold memberElement
  cases classElement f s with
  | none => rfl
  | some p =>
      cases member : p.1.isMember with
      | false => simp [member, place p member]
      | true => simp [member]

theorem itemEnd_eq_none {e : Element} (place : e.isMember = false) (c : Char)
    (after : List Char) : itemEnd f e c after = none := by
  unfold itemEnd
  split
  · cases memberElement f (f.skip after) with
    | none => rfl
    | some p => simp [rangeNode?_eq_none (.inl place)]
  · rw [singleNode?_eq_none place]
    rfl

theorem classItem_eq (s : List Char) :
    classItem f s = (memberElement f s).bind fun p => itemRest f p.1 p.2 := by
  rw [← bind_memberElement]
  · unfold classItem itemRest
    refine Option.bind_congr fun p _ => ?_
    obtain ⟨first, rest⟩ := p
    dsimp only
    split
    · next used =>
        rw [used]
        rfl
    · next after found =>
        simp only [found, List.head?_cons, Option.bind_some, List.tail_cons, itemEnd, single_eq]
        by_cases ends : f.peek after = some ']' ∨ f.peek after = some '-'
        · rw [if_pos ends, if_neg (fun h => ends.elim h.2.1 h.2.2)]
        · rw [if_neg ends, if_pos ⟨trivial, not_or.mp ends⟩, ← bind_memberElement]
          · exact Option.bind_congr fun p _ => range_eq first p.1 p.2
          · intro p place
            rw [rangeNode?_eq_none (.inr place)]
            rfl
    · next used minus =>
        cases found : f.skip rest with
        | nil => exact absurd found used
        | cons c after =>
            have other : c ≠ '-' := fun h => minus after (by rw [found, h])
            simp only [List.head?_cons, Option.bind_some, List.tail_cons, itemEnd, single_eq,
              other, false_and, if_false]
  · intro h place
    rcases h with ⟨e, rest⟩
    dsimp only [itemRest]
    cases (f.skip rest).head? with
    | none => rfl
    | some c => exact itemEnd_eq_none place c _

theorem memberElement_eq_some {s : List Char} {p : Element × List Char}
    (took : memberElement f s = some p) : classElement f s = some p ∧ p.1.isMember = true := by
  obtain ⟨q, found, kept⟩ := Option.bind_eq_some_iff.mp took
  split at kept
  · next member =>
      cases kept
      exact ⟨found, member⟩
  · cases kept

theorem memberElement_shortens : Shortens (memberElement f) := by
  intro s e rest took
  obtain ⟨took, -⟩ := memberElement_eq_some took
  unfold classElement at took
  split at took
  · cases took
  · exact (escape_suffix took).trans (List.suffix_cons _ _)
  · cases took
    exact List.suffix_cons _ _

theorem memberElement_inside (s : List Char) :
    Inside (memberElement f s) fun t => memberElement f (s ++ ')' :: t) := by
  cases s with
  | nil =>
      refine .used nofun fun t ht e rest took inRest => ?_
      cases (memberElement_eq_some took).1
      exact ht.no_bracket (List.mem_cons_of_mem _ inRest)
  | cons c s =>
      by_cases backslash : c = '\\'
      · subst backslash
        by_cases hangs : ∃ u, s = 'b' :: u ∧ Hanging f u
        · obtain ⟨u, rfl, hanging⟩ := hangs
          obtain ⟨refused, closed⟩ := boundaryEscape_hanging hanging
          refine .used (fun e rest took => ?_) fun t ht e rest took => ?_
          · have took : boundaryEscape f u = some (e, rest) := (memberElement_eq_some took).1
            rw [refused] at took
            cases took
          · -- a boundary is not a member of a class
            obtain ⟨took, member⟩ := memberElement_eq_some took
            obtain ⟨rfl, -⟩ := closed t ht e rest took
            cases member
        · have alike := escape_alike (f := f) (s := s) fun u same hanging => hangs ⟨u, same, hanging⟩
          exact (Inside.of_alike alike).filter
      · have literal : ∀ s, classElement f (c :: s) = some (.literal c false, s) := by
          intro s
          simp [classElement]
        have inside := Inside.of_behind (a := Element.literal c false) (.append s)
        refine Inside.filter ?_
        rw [literal]
        exact inside.congr fun t _ => literal (s ++ ')' :: t)

theorem itemEnd_suffix {first : Element} {c : Char} {after rest : List Char} {n : Node}
    (took : itemEnd f first c after = some (n, rest)) : rest <:+ c :: after := by
  unfold itemEnd at took
  split at took
  · obtain ⟨⟨last, between⟩, begun, took⟩ := Option.bind_eq_some_iff.mp took
    obtain ⟨_, _, same⟩ := Option.map_eq_some_iff.mp took
    cases same
    have shorter := memberElement_shortens _ _ _ begun
    exact shorter.trans ((f.skip_suffix after).trans (List.suffix_cons c after))
  · obtain ⟨_, _, same⟩ := Option.map_eq_some_iff.mp took
    cases same
    exact List.suffix_refl _

theorem itemEnd_inside (first : Element) (c : Char) (after : List Char) :
    Inside (itemEnd f first c after) fun t => itemEnd f first c (after ++ ')' :: t) := by
  have bracket (t : List Char) := peek_append (f := f) (c := ']') (by decide) (by decide)
    (by decide) after t
  have minus (t : List Char) := peek_append (f := f) (c := '-') (by decide) (by decide)
    (by decide) after t
  simp only [itemEnd, ne_eq, bracket, minus]
  split
  · have inside := Inside.of_append (memberElement_shortens (f := f))
      (memberElement_inside (f.skip after)) ((Behind.append after).skip f)
    refine inside.bind (fun e s n rest took => ?_) fun e rest _ => ?_
    · obtain ⟨_, _, same⟩ := Option.map_eq_some_iff.mp took
      cases same
      exact List.suffix_refl _
    · exact Inside.value _ (fun n => n) (.append rest)
  · exact Inside.value _ (fun n => n) (.append (c :: after))

theorem itemRest_shortens (first : Element) : Shortens (itemRest f first) := by
  intro s n rest took
  unfold itemRest at took
  cases found : f.skip s with
  | nil =>
      rw [found] at took
      cases took
  | cons c after =>
      rw [found] at took
      have suffix := itemEnd_suffix took
      rw [List.tail_cons, ← found] at suffix
      exact suffix.trans (f.skip_suffix s)

theorem itemRest_inside (first : Element) (s : List Char) :
    Inside (itemRest f first s) fun t => itemRest f first (s ++ ')' :: t) := by
  cases found : f.skip s with
  | nil =>
      have behind := (Behind.append s).skip f
      rw [found] at behind
      unfold itemRest
      rw [found]
      refine .used nofun fun t ht n rest took inRest => ?_
      have noBracket := behind.no_bracket ht
      cases closed : f.skip (s ++ ')' :: t) with
      | nil =>
          rw [closed] at took
          cases took
      | cons c after =>
          rw [closed] at took noBracket
          exact noBracket ((itemEnd_suffix took).subset inRest)
  | cons c after =>
      have inside := itemEnd_inside (f := f) first c after
      simp only [itemRest, found, skip_append found, List.head?_cons, Option.bind_some,
        List.tail_cons]
      exact inside

theorem classItem_shortens : Shortens (classItem f) := by
  intro s n rest took
  rw [classItem_eq] at took
  obtain ⟨⟨e, between⟩, begun, took⟩ := Option.bind_eq_some_iff.mp took
  exact (itemRest_shortens e _ _ _ took).trans (memberElement_shortens _ _ _ begun)

theorem classItem_inside (s : List Char) :
    Inside (classItem f s) fun t => classItem f (s ++ ')' :: t) := by
  simp only [classItem_eq]
  exact (memberElement_inside s).bind (fun e => itemRest_shortens e)
    fun e rest _ => itemRest_inside e rest

/-! ## The start of a class -/

/-- More fuel than the text has characters makes no difference. -/
theorem leadingDashes_fuel {m n : Nat} {c : OpenClass} {s : List Char} (hm : s.length ≤ m)
    (hn : s.length ≤ n) : leadingDashes f m c s = leadingDashes f n c s := by
  induction m generalizing n c s with
  | zero =>
      have empty : s = [] := List.length_eq_zero_iff.mp (Nat.le_zero.mp hm)
      subst empty
      cases n <;> rfl
  | succ m ih =>
      cases s with
      | nil => cases n <;> rfl
      | cons d s =>
          obtain ⟨n, rfl⟩ : ∃ k, n = k + 1 := ⟨n - 1, by rw [List.length_cons] at hn; omega⟩
          by_cases dash : d = '-'
          · subst dash
            have shorter := f.length_skip_le s
            rw [List.length_cons] at hm hn
            exact ih (by omega) (by omega)
          · simp [leadingDashes, dash]

/-- Takes literal minus signs, as many as there are. -/
def dashes (f : Flags) (c : OpenClass) (s : List Char) : OpenClass × List Char :=
  leadingDashes f s.length c s

theorem dashes_dash (c : OpenClass) (s : List Char) :
    dashes f c ('-' :: s) = dashes f (c.push ⟨.one '-', 0⟩) (f.skip s) :=
  leadingDashes_fuel (f.length_skip_le s) (Nat.le_refl _)

theorem dashes_other {c : OpenClass} {d : Char} {s : List Char} (other : d ≠ '-') :
    dashes f c (d :: s) = (c, d :: s) := by
  simp [dashes, leadingDashes, other]

theorem dashes_induction {motive : OpenClass → List Char → Prop}
    (dash : ∀ c s, motive (c.push ⟨.one '-', 0⟩) (f.skip s) → motive c ('-' :: s))
    (none : ∀ c, motive c []) (other : ∀ c d s, d ≠ '-' → motive c (d :: s))
    (c : OpenClass) (s : List Char) : motive c s := by
  induction n : s.length using Nat.strongRecOn generalizing s c with
  | ind n ih =>
      subst n
      cases s with
      | nil => exact none c
      | cons d s =>
          by_cases same : d = '-'
          · subst same
            have shorter := f.length_skip_le s
            exact dash c s (ih _ (by rw [List.length_cons]; omega) _ _ rfl)
          · exact other c d s same

theorem dashes_suffix (c : OpenClass) (s : List Char) : (dashes f c s).2 <:+ s := by
  induction c, s using dashes_induction (f := f) with
  | dash c s ih =>
      rw [dashes_dash]
      exact ih.trans ((f.skip_suffix s).trans (List.suffix_cons _ s))
  | none c => exact List.suffix_refl _
  | other c d s other => simp only [dashes_other other, List.suffix_refl]

theorem dashes_shortens (c : OpenClass) : Shortens fun s => some (dashes f c s) := by
  intro s a rest took
  have suffix := dashes_suffix (f := f) c s
  rwa [Option.some.inj took] at suffix

theorem dashes_inside (c : OpenClass) (s : List Char) :
    Inside (some (dashes f c s)) fun t => some (dashes f c (s ++ ')' :: t)) := by
  induction c, s using dashes_induction (f := f) with
  | dash c s ih =>
      simp only [List.cons_append, dashes_dash]
      exact Inside.of_append (dashes_shortens (c.push ⟨.one '-', 0⟩)) ih ((Behind.append s).skip f)
  | none c =>
      refine (Inside.of_behind (.append [])).congr fun t _ => ?_
      exact congrArg some (dashes_other (by decide))
  | other c d s other =>
      simp only [List.cons_append, dashes_other other]
      exact Inside.of_behind (.append (d :: s))

/-- A circumflex at the start negates a class. -/
def circumflex (f : Flags) : List Char → Bool × List Char
  | '^' :: s => (true, f.skip s)
  | s => (false, s)

/-- A closing bracket before all items stands for itself. -/
def firstBracket (f : Flags) (c : OpenClass) (s : List Char) : OpenClass × List Char :=
  match c.items, s with
  | [], ']' :: s => (c.push ⟨.one ']', 0⟩, f.skip s)
  | _, s => (c, s)

theorem openClass_eq (s : List Char) :
    some (openClass f s) = ((some (circumflex f (f.skip s))).bind fun p =>
      some (dashes f { negated := p.1 } p.2)).bind fun p => some (firstBracket f p.1 p.2) := by
  rfl

theorem circumflex_other {c : Char} {s : List Char} (other : c ≠ '^') :
    circumflex f (c :: s) = (false, c :: s) := by
  simp [circumflex, other]

theorem circumflex_suffix (s : List Char) : (circumflex f s).2 <:+ s := by
  unfold circumflex
  split
  · exact (f.skip_suffix _).trans (List.suffix_cons _ _)
  · exact List.suffix_refl _

theorem circumflex_inside (s : List Char) :
    Inside (some (circumflex f s)) fun t => some (circumflex f (s ++ ')' :: t)) := by
  cases s with
  | nil =>
      refine (Inside.of_behind (.append [])).congr fun t _ => ?_
      exact congrArg some (circumflex_other (by decide))
  | cons c s =>
      by_cases negated : c = '^'
      · subst negated
        exact Inside.of_behind ((Behind.append s).skip f)
      · simp only [List.cons_append, circumflex_other negated]
        exact Inside.of_behind (.append (c :: s))

theorem firstBracket_other {c : OpenClass} {d : Char} {s : List Char} (other : d ≠ ']') :
    firstBracket f c (d :: s) = (c, d :: s) := by
  simp [firstBracket, other]

theorem firstBracket_nil (c : OpenClass) : firstBracket f c [] = (c, []) := by
  unfold firstBracket
  split
  · next same => cases same
  · rfl

theorem firstBracket_suffix (c : OpenClass) (s : List Char) : (firstBracket f c s).2 <:+ s := by
  unfold firstBracket
  split
  · exact (f.skip_suffix _).trans (List.suffix_cons _ _)
  · exact List.suffix_refl _

theorem firstBracket_inside (c : OpenClass) (s : List Char) :
    Inside (some (firstBracket f c s)) fun t => some (firstBracket f c (s ++ ')' :: t)) := by
  cases s with
  | nil =>
      rw [firstBracket_nil]
      refine (Inside.of_behind (.append [])).congr fun t _ => ?_
      exact congrArg some (firstBracket_other (by decide))
  | cons d s =>
      by_cases bracket : d = ']'
      · subst bracket
        unfold firstBracket
        cases c.items with
        | nil => exact Inside.of_behind ((Behind.append s).skip f)
        | cons n items => exact Inside.of_behind (.append (']' :: s))
      · simp only [List.cons_append, firstBracket_other bracket]
        exact Inside.of_behind (.append (d :: s))

theorem openClass_suffix (s : List Char) : (openClass f s).2 <:+ s := by
  have dashed := dashes_suffix (f := f) { negated := (circumflex f (f.skip s)).1 }
    (circumflex f (f.skip s)).2
  have first := circumflex_suffix (f := f) (f.skip s)
  exact (firstBracket_suffix _ _).trans (dashed.trans (first.trans (f.skip_suffix s)))

theorem openClass_inside (s : List Char) :
    Inside (some (openClass f s)) fun t => some (openClass f (s ++ ')' :: t)) := by
  have shortens : Shortens fun s => some (circumflex f s) := by
    intro s a rest took
    have suffix := circumflex_suffix (f := f) s
    rwa [Option.some.inj took] at suffix
  have brackets (c : OpenClass) : Shortens fun s => some (firstBracket f c s) := by
    intro s a rest took
    have suffix := firstBracket_suffix (f := f) c s
    rwa [Option.some.inj took] at suffix
  simp only [openClass_eq]
  refine Inside.bind (Inside.bind ?_ (fun negated => dashes_shortens { negated })
    fun negated s _ => dashes_inside { negated } s) brackets fun c s _ => firstBracket_inside c s
  exact Inside.of_append shortens (circumflex_inside (f.skip s)) ((Behind.append s).skip f)

/-! ## Classes by name -/

theorem cutAt_append {t : List Char} (ending : Ending t) (s : List Char) :
    cutAt [':'] (s ++ ')' :: t) = (cutAt [':'] s).map fun p => (p.1, p.2 ++ ')' :: t) := by
  induction s with
  | nil =>
      have none : ∀ u : List Char, ':' ∉ u → cutAt [':'] u = none := by
        intro u
        induction u with
        | nil => exact fun _ => rfl
        | cons c u ih =>
            intro absent
            rw [List.mem_cons, not_or] at absent
            obtain ⟨other, absent⟩ := absent
            simp [cutAt, other, ih absent]
      refine none _ fun member => ?_
      rcases List.mem_cons.mp member with same | inEnding
      · exact absurd same (by decide)
      · rcases ending ':' inEnding with same | same <;> exact absurd same (by decide)
  | cons c s ih =>
      by_cases colon : ':' = c
      · subst colon
        rfl
      · simp [cutAt, colon, ih, Function.comp_def]

/-- The name of a class of plain characters before its closing bracket. -/
def plainClassEnd? (f : Flags) (negated : Bool) (name rest : List Char) :
    Option (Node × List Char) :=
  match rest with
  | ']' :: rest =>
    (CharSet.named? (String.ofList name)).map fun set => (⟨settle f negated set, 0⟩, rest)
  | _ => none

/-- A circumflex before a name. -/
def negation : List Char → Bool × List Char
  | '^' :: s => (true, s)
  | s => (false, s)

theorem negation_append (s t : List Char) :
    negation (s ++ ')' :: t) = ((negation s).1, (negation s).2 ++ ')' :: t) := by
  cases s with
  | nil => rfl
  | cons c s =>
      by_cases negated : c = '^'
      · subst negated
        rfl
      · simp [negation, negated]

theorem negation_suffix (s : List Char) : (negation s).2 <:+ s := by
  unfold negation
  split
  · exact List.suffix_cons _ _
  · exact List.suffix_refl _

theorem plainClass?_eq (s : List Char) : plainClass? f s =
    (cutAt [':'] (negation s).2).bind fun p => plainClassEnd? f (negation s).1 p.1 p.2 := by
  unfold plainClass?
  refine Option.bind_congr fun p _ => ?_
  obtain ⟨name, rest⟩ := p
  cases rest with
  | nil => rfl
  | cons c rest =>
      by_cases bracket : c = ']'
      · subst bracket
        simp only [plainClassEnd?]
        cases CharSet.named? (String.ofList name) <;> rfl
      · simp [plainClassEnd?, bracket]

theorem plainClassEnd?_append (negated : Bool) (name rest : List Char) (t : List Char) :
    plainClassEnd? f negated name (rest ++ ')' :: t) =
      (plainClassEnd? f negated name rest).map fun p => (p.1, p.2 ++ ')' :: t) := by
  cases rest with
  | nil => rfl
  | cons c rest =>
      by_cases bracket : c = ']'
      · subst bracket
        simp only [plainClassEnd?, List.cons_append, Option.map_map]
        rfl
      · simp [plainClassEnd?, bracket]

theorem plainClass?_append {t : List Char} (ending : Ending t) (s : List Char) :
    plainClass? f (s ++ ')' :: t) =
      (plainClass? f s).map fun p => (p.1, p.2 ++ ')' :: t) := by
  simp only [plainClass?_eq, negation_append, cutAt_append ending, Option.bind_map,
    Function.comp_def, plainClassEnd?_append, Option.map_bind]

theorem cutAt_suffix {mark s : List Char} {p : List Char × List Char}
    (cut : cutAt mark s = some p) : p.2 <:+ s := by
  induction s generalizing p with
  | nil => cases cut
  | cons c s ih =>
      rw [cutAt] at cut
      split at cut
      · cases cut
        exact List.drop_suffix _ _
      · obtain ⟨q, cut', same⟩ := Option.map_eq_some_iff.mp cut
        cases same
        exact (ih cut').trans (List.suffix_cons c s)

theorem plainClass?_shortens : Shortens (plainClass? f) := by
  intro s n rest took
  rw [plainClass?_eq] at took
  obtain ⟨p, cut, took⟩ := Option.bind_eq_some_iff.mp took
  have suffix := (cutAt_suffix cut).trans (negation_suffix s)
  unfold plainClassEnd? at took
  split at took
  · next between same =>
      obtain ⟨_, _, took⟩ := Option.map_eq_some_iff.mp took
      cases took
      rw [same] at suffix
      exact (List.suffix_cons _ _).trans suffix
  · cases took

theorem nestedPlain?_append {t : List Char} (ending : Ending t) (s : List Char) :
    nestedPlain? f (s ++ ')' :: t) =
      (nestedPlain? f s).map fun found => found.map fun p => (p.1, p.2 ++ ')' :: t) := by
  cases s with
  | nil => rfl
  | cons c s =>
      by_cases colon : c = ':'
      · subst colon
        simp only [nestedPlain?, List.cons_append, plainClass?_append ending]
        cases found : plainClass? f s with
        | none => rfl
        | some p =>
            have same : (s ++ ')' :: t).head? = s.head? := by
              cases s with
              | nil => cases found
              | cons d s => rfl
            rw [same]
            simp only [Option.map_some]
            split <;> rfl
      · simp [nestedPlain?, colon]

theorem nestedPlain?_suffix {s rest : List Char} {n : Node}
    (found : nestedPlain? f s = some (some (n, rest))) : rest <:+ s := by
  unfold nestedPlain? at found
  split at found
  · split at found
    · cases found
    · next between p took =>
        split at found
        · cases found
        · cases found
          exact (plainClass?_shortens _ _ _ took).trans (List.suffix_cons _ _)
  · cases found

/-! ## The body of a class -/

/-- The operator that a doubled character stands for. -/
def operator? : Char → Option ClassOp
  | '&' => some .intersection
  | '-' => some .difference
  | '~' => some .symmetricDifference
  | _ => none

/-- The operator that a character stands for before some text. -/
def doubled? (d : Char) (rest : List Char) : Option ClassOp :=
  if rest.head? = some d then operator? d else none

theorem doubled?_append (d : Char) (rest t : List Char) :
    doubled? d (rest ++ ')' :: t) = doubled? d rest := by
  cases rest with
  | nil =>
      by_cases same : ')' = d
      · subst same
        rfl
      · simp [doubled?, same]
  | cons e rest => rfl

theorem doubled?_eq_none {d : Char} {rest : List Char}
    (both : ∀ u, d = '&' → rest ≠ '&' :: u) (minus : ∀ u, d = '-' → rest ≠ '-' :: u)
    (either : ∀ u, d = '~' → rest ≠ '~' :: u) : doubled? d rest = none := by
  unfold doubled?
  split
  · next doubled =>
      cases rest with
      | nil => cases doubled
      | cons e rest =>
          cases doubled
          unfold operator?
          split
          · exact absurd rfl (both rest rfl)
          · exact absurd rfl (minus rest rfl)
          · exact absurd rfl (either rest rfl)
          · rfl
  · rfl

/-- One round inside a class that does not close it. -/
def classStep (f : Flags) (c : OpenClass) (outer : List OpenClass) (d : Char)
    (rest : List Char) : Option ((OpenClass × List OpenClass) × List Char) :=
  if d = '[' then
    (nestedPlain? f rest).bind fun found =>
      match found with
      | some (n, after) => some ((c.push n, outer), after)
      | none => some (((openClass f rest).1, c :: outer), (openClass f rest).2)
  else
    match doubled? d rest with
    | some op => some ((c.operator f op, outer), rest.tail)
    | none => (classItem f (d :: rest)).map fun p => ((c.push p.1, outer), p.2)

/-- What is read after a round, from a text that has become shorter. -/
def classNext (f : Flags) (s : List Char) (p : (OpenClass × List OpenClass) × List Char) :
    Option (Node × List Char) :=
  if p.2.length < s.length then classBody f p.1.1 p.1.2 p.2 else none

theorem classBody_step {c : OpenClass} {outer : List OpenClass} {s rest : List Char} {d : Char}
    (found : f.skip s = d :: rest) (inner : d ≠ ']') :
    classBody f c outer s = (classStep f c outer d rest).bind (classNext f s) := by
  rw [classBody, found]
  split
  · next same => cases same
  · next same =>
      cases same
      unfold classStep
      rw [if_pos rfl]
      cases nestedPlain? f rest with
      | none => rfl
      | some found => cases found <;> rfl
  · next same =>
      cases same
      exact absurd rfl inner
  · next same =>
      cases same
      rfl
  · next same =>
      cases same
      rfl
  · next same =>
      cases same
      rfl
  · next _ nested _ both minus either =>
      have item : doubled? d rest = none :=
        doubled?_eq_none (fun u same next => both u (by rw [same, next]))
          (fun u same next => minus u (by rw [same, next]))
          fun u same next => either u (by rw [same, next])
      have other : d ≠ '[' := fun h => nested rest (by rw [h])
      unfold classStep
      rw [if_neg other, item]
      cases classItem f (d :: rest) <;> rfl

theorem classBody_nil {c : OpenClass} {outer : List OpenClass} {s : List Char}
    (used : f.skip s = []) : classBody f c outer s = none := by
  rw [classBody, used]

theorem classBody_bracket {c : OpenClass} {outer : List OpenClass} {s rest : List Char}
    (found : f.skip s = ']' :: rest) :
    classBody f c outer s = (c.close? f).bind fun n =>
      match outer with
      | [] => some (n, rest)
      | o :: outer => classBody f (o.push n) outer rest := by
  have shorter := f.length_skip_le s
  rw [found, List.length_cons] at shorter
  rw [classBody, found]
  cases c.close? f with
  | none => rfl
  | some n =>
      cases outer with
      | nil => rfl
      | cons o outer =>
          exact if_pos shorter

theorem classStep_suffix {c : OpenClass} {outer : List OpenClass} {d : Char}
    {rest : List Char} {p : (OpenClass × List OpenClass) × List Char}
    (took : classStep f c outer d rest = some p) : p.2 <:+ d :: rest := by
  unfold classStep at took
  split at took
  · refine List.IsSuffix.trans ?_ (List.suffix_cons d rest)
    obtain ⟨found, nested, took⟩ := Option.bind_eq_some_iff.mp took
    split at took
    · cases took
      exact nestedPlain?_suffix nested
    · cases took
      exact openClass_suffix rest
  · split at took
    · cases took
      exact (List.tail_suffix rest).trans (List.suffix_cons d rest)
    · obtain ⟨q, item, same⟩ := Option.map_eq_some_iff.mp took
      cases same
      exact classItem_shortens _ _ _ item

theorem classStep_inside (c : OpenClass) (outer : List OpenClass) (d : Char)
    (rest : List Char) :
    Inside (classStep f c outer d rest) fun t => classStep f c outer d (rest ++ ')' :: t) := by
  unfold classStep
  split
  · cases named : nestedPlain? f rest with
    | none =>
        refine Inside.none.congr fun t ht => ?_
        rw [nestedPlain?_append ht, named]
        rfl
    | some found =>
        cases found with
        | some p =>
            refine (Inside.of_behind (.append p.2)).congr fun t ht => ?_
            rw [nestedPlain?_append ht, named]
            rfl
        | none =>
            have opens := (openClass_inside (f := f) rest).map (g := fun inner => (inner, c :: outer))
            refine opens.congr fun t ht => ?_
            rw [nestedPlain?_append ht, named]
            rfl
  · simp only [doubled?_append]
    split
    · next op doubled =>
        cases rest with
        | nil => cases doubled
        | cons e rest => exact Inside.of_behind (.append rest)
    · exact (classItem_inside (d :: rest)).map (g := fun n => (c.push n, outer))

/-- The body of a class by what comes next in it: nothing, a closing bracket or a step. -/
theorem classBody_induction {motive : OpenClass → List OpenClass → List Char → Prop}
    (stop : ∀ c outer s, f.skip s = [] → motive c outer s)
    (bracket : ∀ c outer s rest, f.skip s = ']' :: rest →
      (∀ c' outer', motive c' outer' rest) → motive c outer s)
    (step : ∀ c outer s d rest, f.skip s = d :: rest → d ≠ ']' →
      (∀ c' outer' s', s'.length < s.length → motive c' outer' s') → motive c outer s)
    (c : OpenClass) (outer : List OpenClass) (s : List Char) : motive c outer s := by
  induction n : s.length using Nat.strongRecOn generalizing s c outer with
  | ind n ih =>
      subst n
      cases found : f.skip s with
      | nil => exact stop c outer s found
      | cons d rest =>
          have shorter := f.length_skip_le s
          rw [found, List.length_cons] at shorter
          by_cases closing : d = ']'
          · subst closing
            exact bracket c outer s rest found fun c' outer' => ih _ shorter c' outer' rest rfl
          · exact step c outer s d rest found closing fun c' outer' s' less =>
              ih _ less c' outer' s' rfl

theorem classBody_eq_none {c : OpenClass} {outer : List OpenClass} {s : List Char}
    (absent : ']' ∉ f.skip s) : classBody f c outer s = none := by
  induction c, outer, s using classBody_induction (f := f) with
  | stop c outer s found => exact classBody_nil found
  | bracket c outer s rest found =>
      rw [found] at absent
      exact absurd List.mem_cons_self absent
  | step c outer s d rest found inner ih =>
      rw [found] at absent
      rw [classBody_step found inner]
      cases stepped : classStep f c outer d rest with
      | none => rfl
      | some p =>
          unfold classNext
          rw [Option.bind_some]
          split
          · next shorter =>
              have suffix := (f.skip_suffix p.2).trans (classStep_suffix stepped)
              exact ih _ _ _ shorter fun member => absent (suffix.subset member)
          · rfl

theorem classBody_suffix {c : OpenClass} {outer : List OpenClass} {s rest : List Char} {n : Node}
    (took : classBody f c outer s = some (n, rest)) : rest <:+ s := by
  induction c, outer, s using classBody_induction (f := f) with
  | stop c outer s found =>
      rw [classBody_nil found] at took
      cases took
  | bracket c outer s after found ih =>
      have inside : after <:+ s := (List.suffix_cons ']' after).trans (found ▸ f.skip_suffix s)
      rw [classBody_bracket found] at took
      obtain ⟨m, -, took⟩ := Option.bind_eq_some_iff.mp took
      cases outer with
      | nil =>
          cases took
          exact inside
      | cons o outer => exact (ih _ _ took).trans inside
  | step c outer s d after found inner ih =>
      have suffix : d :: after <:+ s := found ▸ f.skip_suffix s
      rw [classBody_step found inner] at took
      obtain ⟨p, stepped, took⟩ := Option.bind_eq_some_iff.mp took
      unfold classNext at took
      split at took
      · next shorter => exact (ih _ _ _ shorter took).trans ((classStep_suffix stepped).trans suffix)
      · cases took

theorem classNext_eq_none {s : List Char} {p : OpenClass × List OpenClass} {rest : List Char}
    (absent : ']' ∉ rest) : classNext f s (p, rest) = none := by
  unfold classNext
  split
  · exact classBody_eq_none fun member => absent ((f.skip_suffix rest).subset member)
  · rfl

/-- What follows a step agrees if it cannot succeed without a closing bracket. -/
theorem Inside.bind_append {x : Option (α × List Char)} {y : List Char → Option (α × List Char)}
    (next next' : α × List Char → Option (β × List Char)) {t : List Char} (ending : Ending t)
    (inside : Inside x y)
    (same : ∀ a rest, next' (a, rest ++ ')' :: t) =
      (next (a, rest)).map fun p => (p.1, p.2 ++ ')' :: t))
    (used : ∀ a, next (a, []) = .none)
    (stuck : ∀ a rest, ']' ∉ rest → next' (a, rest) = .none) :
    (y t).bind next' = (x.bind next).map fun p => (p.1, p.2 ++ ')' :: t) := by
  cases inside with
  | @within a rest _ left took =>
      rw [took t ending, Option.bind_some, Option.bind_some]
      exact same a rest
  | used first last =>
      have nothing : x.bind next = .none := by
        refine Option.bind_eq_none_iff.mpr fun p took => ?_
        obtain ⟨a, rest⟩ := p
        rw [first a rest took]
        exact used a
      rw [nothing]
      refine Option.bind_eq_none_iff.mpr fun p took => ?_
      exact stuck p.1 p.2 (last t ending p.1 p.2 took)

/-- What is read of a class is read of it when the text is closed, and nothing more. -/
theorem classBody_append {t : List Char} (ending : Ending t) (c : OpenClass)
    (outer : List OpenClass) (s : List Char) : classBody f c outer (s ++ ')' :: t) =
      (classBody f c outer s).map fun p => (p.1, p.2 ++ ')' :: t) := by
  induction c, outer, s using classBody_induction (f := f) with
  | stop c outer s found =>
      have behind := (Behind.append s).skip f
      rw [found] at behind
      rw [classBody_nil found, classBody_eq_none (behind.no_bracket ending)]
      rfl
  | bracket c outer s rest found ih =>
      rw [classBody_bracket found, classBody_bracket (skip_append found t)]
      cases c.close? f with
      | none => rfl
      | some n =>
          cases outer with
          | nil => rfl
          | cons o outer => exact ih (o.push n) outer
  | step c outer s d rest found inner ih =>
      rw [classBody_step found inner, classBody_step (skip_append found t) inner]
      refine (classStep_inside c outer d rest).bind_append (classNext f s) (classNext f _)
        ending (fun p rest' => ?_) (fun p => ?_) fun p rest' absent => ?_
      · unfold classNext
        simp only [List.length_append, Nat.add_lt_add_iff_right]
        split
        · next less => exact ih _ _ _ less
        · rfl
      · exact classNext_eq_none List.not_mem_nil
      · exact classNext_eq_none absent

/-- **A class ends where it ends, whatever closes the text.** -/
theorem bracketed_append {t : List Char} (ending : Ending t) (s : List Char) :
    bracketed f (s ++ ')' :: t) =
      (bracketed f s).map fun p => (p.1, p.2 ++ ')' :: t) := by
  exact (openClass_inside s).bind_append (fun p => classBody f p.1 [] p.2)
    (fun p => classBody f p.1 [] p.2) ending (fun c rest => classBody_append ending c [] rest)
    (fun c => classBody_eq_none fun member => List.not_mem_nil ((f.skip_suffix []).subset member))
    fun c rest absent => classBody_eq_none fun member => absent ((f.skip_suffix rest).subset member)

theorem tame_bracketed : Tame (bracketed f) := by
  refine Tame.of_append fun s => ?_
  cases read : bracketed f s with
  | none =>
      refine .refused fun t ht n rest took => ?_
      rw [bracketed_append ht, read] at took
      cases took
  | some p =>
      have suffix : p.2 <:+ s := (classBody_suffix read).trans (openClass_suffix s)
      refine .taken suffix (.append p.2) fun t ht => ?_
      rw [bracketed_append ht, read, Option.map_some]

end ProfileAudit.Pattern
