import ProfileAudit.Pattern.Reader
import ProfileAudit.Proofs.Pattern.ClassClosing

/-!
# Parts of a closed text

Starts of groups and repetitions are read alike when a text is closed, and so is every part of
a pattern, but for an escape before a hanging brace: `readPart_alike`. What is read does not
depend on the groups around it either (`readPart_below`), unless it is a closing parenthesis
and there is no group but those.
-/

namespace ProfileAudit.Pattern

variable {α : Type} {f : Flags}

/-! ## Starts of groups -/

theorem flagsRead_cons (seen : List Char) (c : Char) (s : List Char) :
    Flags.read seen (c :: s) =
      if c = ':' ∨ c = ')' then if seen.head? = some '-' then none else some ([], c, s)
      else if seen.contains c then none
      else if c = '-' then Flags.read (c :: seen) s
      else if Flags.letters.contains c then
        (Flags.read (c :: seen) s).map fun p => (⟨c, !seen.contains '-'⟩ :: p.1, p.2)
      else none := by
  rw [Flags.read]
  cases Flags.read (c :: seen) s <;> rfl

theorem tame_flagsRead (seen : List Char) :
    Tame fun s => (Flags.read seen s).map fun p => ((p.1, p.2.1), p.2.2) := by
  refine Tame.of_append fun s => ?_
  induction s generalizing seen with
  | nil =>
      refine .refused fun t _ p rest took => ?_
      obtain ⟨q, read, same⟩ := Option.map_eq_some_iff.mp took
      rw [List.nil_append, Flags.read, if_pos (.inr rfl)] at read
      split at read
      · cases read
      · cases read
        cases same
        exact List.suffix_refl t
  | cons c s ih =>
      simp only [List.cons_append, flagsRead_cons]
      split
      · split
        · exact .none
        · exact (Alike.pure (.append s)).of_suffix (List.suffix_cons c s)
      · split
        · exact .none
        · split
          · exact (ih _).of_suffix (List.suffix_cons c s)
          · split
            · have inner := ((ih (c :: seen)).of_suffix (List.suffix_cons c s)).map
                (f := fun q => ((⟨c, !seen.contains '-'⟩ : FlagChange) :: q.1, q.2))
              have same (read : Option (List FlagChange × Char × List Char)) :
                  (read.map fun p => ((⟨c, !seen.contains '-'⟩ : FlagChange) :: p.1, p.2)).map
                    (fun p => ((p.1, p.2.1), p.2.2)) =
                  (read.map fun p => ((p.1, p.2.1), p.2.2)).map fun p =>
                    (((⟨c, !seen.contains '-'⟩ : FlagChange) :: p.1.1, p.1.2), p.2) := by
                cases read <;> rfl
              rw [same]
              exact inner.congr fun t _ => same (Flags.read (c :: seen) (s ++ ')' :: t))
            · exact .none

theorem groupName_eq_none {first : Bool} {s : List Char} (absent : '>' ∉ s) :
    groupName first s = none := by
  induction s generalizing first with
  | nil => rfl
  | cons c s ih =>
      rw [List.mem_cons, not_or] at absent
      rw [groupName, if_neg (Ne.symm absent.1), ih absent.2]
      split <;> rfl

theorem tame_groupName (first : Bool) : Tame (groupName first) := by
  refine Tame.of_append fun s => ?_
  induction s generalizing first with
  | nil =>
      refine Alike.none.congr fun t ht => groupName_eq_none fun member => ?_
      rcases List.mem_cons.mp member with same | inEnding
      · exact absurd same (by decide)
      · rcases ht '>' inEnding with same | same <;> exact absurd same (by decide)
  | cons c s ih =>
      simp only [List.cons_append, groupName]
      split
      · split
        · exact .none
        · exact (Alike.pure (.append s)).of_suffix (List.suffix_cons c s)
      · split
        · exact ((ih false).of_suffix (List.suffix_cons c s)).map (f := fun name => c :: name)
        · exact .none

theorem tame_namedGroup (r : Reading) : Tame (namedGroup r) := by
  refine (tame_groupName true).bind fun name => ?_
  dsimp only
  split
  · exact Tame.none
  · exact Tame.pure _

/-- Flags at the start of a group, once they are read. -/
def flagGroup? (r : Reading) (bare : Bool) (changes : List FlagChange) (stop : Char) :
    Option Reading :=
  if stop = ':' then some (r.openGroup changes)
  else if bare then none else some (r.setFlags changes)

/-- Reads flags at the start of a group; there has to be one before a closing parenthesis. -/
def flagGroup (r : Reading) (s : List Char) : Option (Reading × List Char) :=
  ((Flags.read [] s).map fun p => ((p.1, p.2.1), p.2.2)).bind fun p =>
    (flagGroup? r (s.head? = some ')') p.1.1 p.1.2).map fun r => (r, p.2)

/-- What follows a question mark at the start of a group. -/
def questionGroup (r : Reading) : List Char → Option (Reading × List Char)
  | [] => flagGroup r []
  | c :: s =>
    if c = '=' ∨ c = '!' then none
    else if c = '<' then
      if s.head? = some '=' ∨ s.head? = some '!' then none else namedGroup r s
    else if c = 'P' ∧ s.head? = some '<' then namedGroup r s.tail
    else flagGroup r (c :: s)

theorem flagGroup_eq (r : Reading) (s : List Char) :
    (do
      let (changes, stop, after) ← Flags.read [] s
      if stop = ':' then some (r.openGroup changes, after)
      else if s.head? = some ')' then none
      else some (r.setFlags changes, after)) = flagGroup r s := by
  unfold flagGroup flagGroup?
  cases Flags.read [] s with
  | none => rfl
  | some p =>
      by_cases colon : p.2.1 = ':'
      · simp [colon]
      · by_cases bare : s.head? = some ')' <;> simp [colon, bare]

theorem questionGroup_flags {r : Reading} {s : List Char} (equal : ∀ u, s ≠ '=' :: u)
    (exclaim : ∀ u, s ≠ '!' :: u) (angle : ∀ u, s ≠ '<' :: u) (named : ∀ u, s ≠ 'P' :: '<' :: u) :
    questionGroup r s = flagGroup r s := by
  cases s with
  | nil => rfl
  | cons d u =>
      have notLook : ¬ (d = '=' ∨ d = '!') := by
        intro h
        rcases h with rfl | rfl
        · exact equal u rfl
        · exact exclaim u rfl
      have notAngle : d ≠ '<' := by
        intro same
        subst same
        exact angle u rfl
      have notNamed : ¬ (d = 'P' ∧ u.head? = some '<') := by
        intro h
        rcases h with ⟨rfl, head⟩
        cases u with
        | nil => cases head
        | cons e u =>
            cases head
            exact named u rfl
      simp [questionGroup, notLook, notAngle, notNamed]

theorem groupStart_question {r : Reading} {s rest : List Char}
    (found : r.flags.skip s = '?' :: rest) : groupStart r s = questionGroup r rest := by
  unfold groupStart
  rw [found]
  split
  · next same =>
      cases same
      rfl
  · next same =>
      cases same
      rfl
  · next same =>
      cases same
      rfl
  · next same =>
      cases same
      rfl
  · next same =>
      cases same
      rfl
  · next rest' equal exclaim same =>
      cases same
      have ahead : ¬ (rest'.head? = some '=' ∨ rest'.head? = some '!') := by
        cases rest' with
        | nil => simp
        | cons d u =>
            intro h
            rcases h with h | h
            · exact equal u (by rw [← Option.some.inj h])
            · exact exclaim u (by rw [← Option.some.inj h])
      simp [questionGroup, ahead]
  · next equal exclaim _ _ named angle same =>
      cases same
      rw [flagGroup_eq]
      exact (questionGroup_flags equal exclaim angle named).symm
  · next other => exact absurd rfl (other rest)

/-- What stands at the start of a group, once the blanks are dropped. -/
def groupAt (r : Reading) : List Char → Option (Reading × List Char)
  | '?' :: rest => questionGroup r rest
  | s => some (r.openGroup [], s)

theorem groupAt_other {r : Reading} {c : Char} {s : List Char} (other : c ≠ '?') :
    groupAt r (c :: s) = some (r.openGroup [], c :: s) := by
  simp [groupAt, other]

theorem groupStart_eq (r : Reading) (s : List Char) :
    groupStart r s = groupAt r (r.flags.skip s) := by
  cases found : r.flags.skip s with
  | nil =>
      unfold groupStart
      rw [found]
      rfl
  | cons c rest =>
      by_cases question : c = '?'
      · subst question
        exact groupStart_question found
      · rw [groupAt_other question]
        simp [groupStart, found, question]

theorem tame_flagGroup (r : Reading) : Tame (flagGroup r) := by
  have bind (bare : Bool) : Tame fun s => ((Flags.read [] s).map
      fun p => ((p.1, p.2.1), p.2.2)).bind fun p =>
        (flagGroup? r bare p.1.1 p.1.2).map fun r => (r, p.2) := by
    refine (tame_flagsRead []).bind fun p => ?_
    dsimp only
    exact Tame.value _ fun r => r
  refine Tame.of_append fun s => ?_
  cases s with
  | nil => exact bind true [] _ (.append [])
  | cons c s => exact bind (decide (some c = some ')')) (c :: s) _ (.append (c :: s))

theorem head?_append {c : Char} (other : c ≠ ')') (s t : List Char) :
    (s ++ ')' :: t).head? = some c ↔ s.head? = some c := by
  cases s with
  | nil => simpa using Ne.symm other
  | cons d s => rfl

theorem tame_questionGroup (r : Reading) : Tame (questionGroup r) := by
  refine Tame.of_append fun s => ?_
  cases s with
  | nil => exact tame_flagGroup r [] _ (.append [])
  | cons c s =>
      simp only [List.cons_append, questionGroup, head?_append (c := '=') (by decide),
        head?_append (c := '!') (by decide), head?_append (c := '<') (by decide)]
      split
      · exact .none
      · split
        · split
          · exact .none
          · exact (tame_namedGroup r s _ (.append s)).of_suffix (List.suffix_cons c s)
        · split
          · next named =>
              cases s with
              | nil => cases named.2
              | cons d s =>
                  refine (tame_namedGroup r s _ (.append s)).of_suffix ?_
                  exact (List.suffix_cons d s).trans (List.suffix_cons c _)
          · exact tame_flagGroup r (c :: s) _ (.append (c :: s))

theorem tame_groupStart (r : Reading) : Tame (groupStart r) := by
  have body : Tame (groupAt r) := by
    refine Tame.of_append fun s => ?_
    cases s with
    | nil =>
        refine (Alike.pure (.append [])).congr fun t _ => ?_
        exact groupAt_other (by decide)
    | cons c rest =>
        by_cases question : c = '?'
        · subst question
          exact (tame_questionGroup r rest _ (.append rest)).of_suffix (List.suffix_cons '?' rest)
        · simp only [List.cons_append, groupAt_other question]
          exact Alike.pure (.append (c :: rest))
  intro s s' behind
  rw [groupStart_eq]
  exact (body.skip r.flags s s' behind).congr fun t _ => groupStart_eq r (s' t)

/-! ## Repetitions -/

/-- The accepted characters at the start of a text, with blanks dropped behind each. -/
def runOf (f : Flags) (accepts : Char → Bool) : Nat → List Char → List Char × List Char
  | fuel + 1, c :: s =>
    if accepts c then
      (c :: (runOf f accepts fuel (f.skip s)).1, (runOf f accepts fuel (f.skip s)).2)
    else ([], c :: s)
  | _, s => ([], s)

theorem take_eq (fuel : Nat) (s : List Char) :
    repeatCount.take f fuel s = runOf f Char.isDigit fuel s := by
  induction fuel generalizing s with
  | zero => rfl
  | succ fuel ih =>
      cases s with
      | nil => rfl
      | cons c s =>
          simp only [repeatCount.take, runOf, ih]

theorem skipBlank_eq (fuel : Nat) (s : List Char) :
    repeatCount.skipBlank f fuel s = (runOf f isBlank fuel s).2 := by
  induction fuel generalizing s with
  | zero => rfl
  | succ fuel ih =>
      cases s with
      | nil => rfl
      | cons c s =>
          simp only [repeatCount.skipBlank, runOf, ih]
          split <;> rfl

section

variable {accepts : Char → Bool}

/-- More fuel than the text has characters makes no difference. -/
theorem runOf_fuel {m n : Nat} {s : List Char} (hm : s.length ≤ m) (hn : s.length ≤ n) :
    runOf f accepts m s = runOf f accepts n s := by
  induction m generalizing n s with
  | zero =>
      have empty : s = [] := List.length_eq_zero_iff.mp (Nat.le_zero.mp hm)
      subst empty
      cases n <;> rfl
  | succ m ih =>
      cases s with
      | nil => cases n <;> rfl
      | cons c s =>
          obtain ⟨n, rfl⟩ : ∃ k, n = k + 1 := ⟨n - 1, by rw [List.length_cons] at hn; omega⟩
          have shorter := f.length_skip_le s
          rw [List.length_cons] at hm hn
          rw [runOf, runOf, ih (n := n) (by omega) (by omega)]

theorem tame_runOf (closing : accepts ')' = false) :
    Tame fun s => some (runOf f accepts s.length s) := by
  refine Tame.of_append fun s => ?_
  induction n : s.length using Nat.strongRecOn generalizing s with
  | ind n ih =>
      subst n
      cases s with
      | nil =>
          refine (Alike.pure (.append [])).congr fun t _ => ?_
          simp [runOf, closing]
      | cons c s =>
          have shorter := f.length_skip_le s
          simp only [List.cons_append, List.length_cons, runOf]
          split
          · have inner := ih (f.skip s).length (by rw [List.length_cons]; omega) (f.skip s) rfl
            have inner := Alike.of_behind (fun s => some (runOf f accepts s.length s)) inner
              ((Behind.append s).skip f)
            have inner := (inner.of_suffix (f.skip_suffix s)).of_suffix (List.suffix_cons c s)
            rw [runOf_fuel (n := (f.skip s).length) shorter (Nat.le_refl _)]
            refine (inner.map (f := fun run => c :: run)).congr fun t _ => ?_
            have shorter := f.length_skip_le (s ++ ')' :: t)
            rw [runOf_fuel (n := (f.skip (s ++ ')' :: t)).length) shorter (Nat.le_refl _)]
            rfl
          · exact Alike.pure (.append (c :: s))

end

theorem Behind.dropBlanks {s : List Char} {s' : List Char → List Char} (behind : Behind s s') :
    Behind (s.dropWhile isBlank) fun t => (s' t).dropWhile isBlank := by
  cases behind with
  | closed h => exact .closed fun t => by rw [h t, dropBlanks_append]
  | comment empty h =>
      subst empty
      exact .comment rfl fun t ht => by rw [h t ht, List.dropWhile_nil]

/-- The number that digits write. -/
def count? (digits : List Char) : Option Nat :=
  if digits.isEmpty then none
  else some (digits.foldl (fun v c => v * 10 + (c.toNat - '0'.toNat)) 0)

theorem repeatCount_eq (s : List Char) : some (repeatCount f s) =
    (some (runOf f Char.isDigit (s.dropWhile isBlank).length (s.dropWhile isBlank))).bind fun p =>
      (some (runOf f isBlank p.2.length p.2)).bind fun q => some (count? p.1, q.2) := by
  have shorter : (s.dropWhile isBlank).length ≤ s.length := (List.dropWhile_suffix _).length_le
  simp only [repeatCount, take_eq, skipBlank_eq, Option.bind_some,
    runOf_fuel shorter (Nat.le_refl _)]
  rfl

theorem tame_repeatCount : Tame fun s => some (repeatCount f s) := by
  have digits : Tame fun s => some (runOf f Char.isDigit s.length s) := tame_runOf (by decide)
  have blanks : Tame fun s => some (runOf f isBlank s.length s) := tame_runOf (by decide)
  have count : Tame fun s => (some (runOf f Char.isDigit s.length s)).bind fun p =>
      (some (runOf f isBlank p.2.length p.2)).bind fun q => some (count? p.1, q.2) :=
    digits.bind fun ds => by
      dsimp only
      exact blanks.bind fun _ => Tame.pure (count? ds)
  intro s s' behind
  dsimp only
  rw [repeatCount_eq]
  have alike := (count _ _ behind.dropBlanks).of_suffix (List.dropWhile_suffix _)
  exact alike.congr fun t _ => repeatCount_eq (s' t)

/-- A number that a repetition can count to, and that is not below the least one. -/
def bound? (least : Nat) (n : Option Nat) : Option Nat :=
  n.bind fun n => if n ≥ countLimit ∨ n < least then none else some n

/-- Reads the greatest number of a repetition. -/
def rangeMost (f : Flags) (least : Nat) (s : List Char) : Option ((Nat × Option Nat) × List Char) :=
  if s.head? = some '\x7d' then some ((least, none), s.tail)
  else (some (repeatCount f s)).bind fun p => (bound? least p.1).bind fun most =>
    if p.2.head? = some '\x7d' then some ((least, some most), p.2.tail) else none

/-- Reads what follows the least number of a repetition. -/
def rangeEnd (f : Flags) (least : Nat) : List Char → Option ((Nat × Option Nat) × List Char)
  | [] => none
  | c :: s =>
    if c = '\x7d' then some ((least, some least), s)
    else if c = ',' then rangeMost f least (f.skip s)
    else none

theorem rangeMost_eq (least : Nat) (s : List Char) :
    (match s with
      | '\x7d' :: rest => some (least, none, rest)
      | rest => do
        let (most, rest) := repeatCount f rest
        let most ← most
        if most ≥ countLimit ∨ most < least then none
        match rest with
        | '\x7d' :: rest => some (least, some most, rest)
        | _ => none : Option (Nat × Option Nat × List Char)).map
      (fun p => ((p.1, p.2.1), p.2.2)) = rangeMost f least s := by
  unfold rangeMost bound?
  split
  · rfl
  · next other =>
      have head : s.head? ≠ some '\x7d' := by
        cases s with
        | nil => simp
        | cons c s =>
            intro same
            exact other s (by rw [Option.some.inj same])
      rw [if_neg head]
      cases repeatCount f s with
      | mk most rest =>
          cases most with
          | none => rfl
          | some most =>
              by_cases limit : most ≥ countLimit ∨ most < least
              · simp [limit]
              · cases rest with
                | nil => simp [limit]
                | cons c rest => by_cases brace : c = '\x7d' <;> simp [limit, brace]

theorem repeatRange_eq (s : List Char) :
    (repeatRange f s).map (fun p => ((p.1, p.2.1), p.2.2)) =
      (some (repeatCount f (f.skip s))).bind fun p =>
        (bound? 0 p.1).bind fun least => rangeEnd f least p.2 := by
  unfold repeatRange bound?
  cases repeatCount f (f.skip s) with
  | mk least rest =>
      cases least with
      | none => rfl
      | some least =>
          by_cases limit : least ≥ countLimit
          · simp [limit]
          · cases rest with
            | nil => simp [limit, rangeEnd]
            | cons c rest =>
                by_cases brace : c = '\x7d'
                · simp [limit, rangeEnd, brace]
                · by_cases comma : c = ','
                  · subst comma
                    have bounded : ¬ (least ≥ countLimit ∨ least < 0) := by omega
                    simp only [Option.bind_eq_bind, Option.bind_some, rangeEnd, if_neg limit,
                      if_neg bounded, if_neg brace, if_true]
                    exact rangeMost_eq least (f.skip rest)
                  · simp [limit, rangeEnd, brace, comma]

theorem tame_brace (a : α) :
    Tame fun s => if s.head? = some '\x7d' then some (a, s.tail) else none := by
  refine Tame.of_head rfl (fun _ _ => rfl) fun c => ?_
  by_cases brace : c = '\x7d'
  · subst brace
    exact Tame.pure a
  · simp only [List.head?_cons, Option.some.injEq, if_neg brace]
    exact Tame.none

theorem tame_rangeMost (least : Nat) : Tame (rangeMost f least) := by
  have bounded : Tame fun s => (some (repeatCount f s)).bind fun p =>
      (bound? least p.1).bind fun most =>
        if p.2.head? = some '\x7d' then some ((least, some most), p.2.tail) else none :=
    tame_repeatCount.bind fun _ s s' behind => .bind_const fun most =>
      tame_brace (least, some most) s s' behind
  refine Tame.of_append fun s => ?_
  simp only [rangeMost, head?_append (c := '\x7d') (by decide)]
  split
  · next brace =>
      cases s with
      | nil => cases brace
      | cons c s => exact (Alike.pure (.append s)).of_suffix (List.suffix_cons c s)
  · exact bounded s _ (.append s)

theorem tame_rangeEnd (least : Nat) : Tame (rangeEnd f least) := by
  refine Tame.of_head rfl (fun _ _ => rfl) fun c => ?_
  unfold rangeEnd
  by_cases brace : c = '\x7d'
  · simp only [if_pos brace]
    exact Tame.pure _
  · by_cases comma : c = ','
    · simp only [if_neg brace, if_pos comma]
      exact (tame_rangeMost least).skip f
    · simp only [if_neg brace, if_neg comma]
      exact Tame.none

theorem tame_repeatRange :
    Tame fun s => (repeatRange f s).map fun p => ((p.1, p.2.1), p.2.2) := by
  have range : Tame fun s => (some (repeatCount f s)).bind fun p =>
      (bound? 0 p.1).bind fun least => rangeEnd f least p.2 :=
    tame_repeatCount.bind fun _ s s' behind => .bind_const fun least =>
      tame_rangeEnd least s s' behind
  intro s s' behind
  dsimp only
  rw [repeatRange_eq]
  exact (range.skip f s s' behind).congr fun t _ => repeatRange_eq (s' t)

/-- Between a closing parenthesis and its ending there are no numbers. -/
theorem repeatRange_closing {s t : List Char} (closing : f.skip s = ')' :: t) :
    repeatRange f s = none := by
  have digits : (runOf f Char.isDigit (')' :: t).length (')' :: t)).1 = [] := by
    simp [runOf]
  have blanks : (')' :: t).dropWhile isBlank = ')' :: t := dropBlanks_append [] t
  have count := repeatCount_eq (f := f) (')' :: t)
  rw [blanks, Option.bind_some, Option.bind_some, digits] at count
  have none := repeatRange_eq (f := f) s
  rw [closing, count] at none
  exact Option.map_eq_none_iff.mp none

theorem Behind.dropLazy {s : List Char} {s' : List Char → List Char} (behind : Behind s s') :
    Behind (dropLazy s) fun t => dropLazy (s' t) := by
  cases behind with
  | closed h =>
      refine .closed fun t => ?_
      rw [h t]
      cases s with
      | nil => rfl
      | cons c s =>
          by_cases question : c = '?'
          · subst question
            rfl
          · simp [Pattern.dropLazy, question]
  | comment empty h =>
      subst empty
      exact .comment rfl fun t ht => by rw [h t ht]; rfl

/-! ## Parts -/

theorem tame_repeated (r : Reading) (least : Nat) (most : Option Nat) :
    Tame fun s => (r.level.repeatLast? least most).map fun level =>
      (({ r with level } : Reading), dropLazy s) := by
  intro s s' behind
  have suffix : dropLazy s <:+ s := by
    unfold dropLazy
    split
    · exact List.suffix_cons _ _
    · exact List.suffix_refl _
  exact (Tame.value _ _ _ _ behind.dropLazy).of_suffix suffix

/-- A repetition in braces. -/
theorem tame_counted (r : Reading) : Tame fun s => (repeatRange f s).bind fun p =>
    (r.level.repeatLast? p.1 p.2.1).map fun level =>
      (({ r with level } : Reading), dropLazy (f.skip p.2.2)) := by
  have range : Tame fun s => ((repeatRange f s).map fun p => ((p.1, p.2.1), p.2.2)).bind fun p =>
      (r.level.repeatLast? p.1.1 p.1.2).map fun level =>
        (({ r with level } : Reading), dropLazy (f.skip p.2)) :=
    tame_repeatRange.bind fun counts => (tame_repeated r counts.1 counts.2).skip f
  simp only [Option.bind_map, Function.comp_def] at range
  exact range

/-- Every part but an escape is read alike. -/
theorem tame_readPart {r : Reading} {c : Char} (noEscape : c ≠ '\\') : Tame (readPart r c) := by
  have element (o : Option Pattern) : Tame fun s => o.map fun p =>
      (r.push ⟨p, 0, true⟩, s) := Tame.value o fun p => r.push ⟨p, 0, true⟩
  intro s s' behind
  simp only [readPart]
  split
  case h_1 => exact tame_groupStart r s s' behind
  case h_2 => exact Tame.value r.closeGroup? (fun r => r) s s' behind
  case h_3 => exact Alike.pure behind
  case h_4 =>
    exact (tame_bracketed s s' behind).map (f := fun n => r.push ⟨.one n.set, n.depth, true⟩)
  case h_5 => exact tame_repeated r 0 (some 1) s s' behind
  case h_6 => exact tame_repeated r 0 none s s' behind
  case h_7 => exact tame_repeated r 1 none s s' behind
  case h_8 => exact tame_counted r s s' behind
  case h_9 => exact absurd rfl noEscape
  all_goals exact element _ s s' behind

/-- So is an escape, unless it is one for a boundary before a hanging brace. -/
theorem readPart_escape_alike {r : Reading} {s : List Char}
    (stands : ∀ u, s = 'b' :: u → ¬ Hanging r.flags u) :
    Alike s (readPart r '\\' s) fun t => readPart r '\\' (s ++ ')' :: t) :=
  (escape_alike stands).bind fun e => Tame.value (e.pattern? r.flags) fun p => r.push ⟨p, 0, true⟩

theorem readPart_suffix {r r' : Reading} {c : Char} {s rest : List Char}
    (took : readPart r c s = some (r', rest)) : rest <:+ s := by
  by_cases escaped : c = '\\'
  · subst escaped
    obtain ⟨⟨e, between⟩, begun, took⟩ := Option.bind_eq_some_iff.mp took
    obtain ⟨_, _, same⟩ := Option.map_eq_some_iff.mp took
    cases same
    exact escape_suffix begun
  · exact (tame_readPart escaped).suffix took

/-! ## Groups around -/

/-- A reading inside more groups. -/
def Reading.below (r : Reading) (around : List (Level × Flags)) : Reading :=
  { r with outer := r.outer ++ around }

theorem Reading.below_nil (r : Reading) : r.below [] = r := by
  unfold Reading.below
  rw [List.append_nil]

section

variable (r : Reading) (around : List (Level × Flags))

theorem namedGroup_below (s : List Char) : namedGroup (r.below around) s =
    (namedGroup r s).map fun p => (p.1.below around, p.2) := by
  unfold namedGroup
  cases groupName true s with
  | none => rfl
  | some p =>
      have same : (r.below around).names.contains p.1 = r.names.contains p.1 := rfl
      simp only [Option.bind_eq_bind, Option.bind_some, same]
      split <;> rfl

theorem flagGroup_below (s : List Char) : flagGroup (r.below around) s =
    (flagGroup r s).map fun p => (p.1.below around, p.2) := by
  unfold flagGroup flagGroup?
  rw [Option.map_bind]
  refine Option.bind_congr fun p _ => ?_
  dsimp only [Function.comp_apply]
  split
  · rfl
  · split <;> rfl

theorem groupStart_below (s : List Char) : groupStart (r.below around) s =
    (groupStart r s).map fun p => (p.1.below around, p.2) := by
  have question (s : List Char) : questionGroup (r.below around) s =
      (questionGroup r s).map fun p => (p.1.below around, p.2) := by
    cases s with
    | nil => rfl
    | cons c s =>
        simp only [questionGroup, namedGroup_below, flagGroup_below]
        split
        · rfl
        · split
          · split <;> rfl
          · split <;> rfl
  have flags : (r.below around).flags = r.flags := rfl
  rw [groupStart_eq, groupStart_eq, flags]
  unfold groupAt
  split
  · exact question _
  · rfl

/-- Outside of all groups there is none to close. -/
theorem closeGroup?_eq_none (outermost : r.outer = []) : r.closeGroup? = none := by
  unfold Reading.closeGroup?
  rw [outermost]

theorem closeGroup?_below (own : r.outer ≠ []) :
    (r.below around).closeGroup? = r.closeGroup?.map fun r => r.below around := by
  obtain ⟨flags, level, outer, names⟩ := r
  cases outer with
  | nil => exact absurd rfl own
  | cons group outer => rfl

/-- **What a part is does not depend on the groups around**, unless it closes the first of
them. -/
theorem readPart_below (c : Char) (s : List Char) (own : c = ')' → r.outer ≠ []) :
    readPart (r.below around) c s =
      (readPart r c s).map fun p => (p.1.below around, p.2) := by
  have element (o : Option Pattern) (rest : List Char) :
      (o.map fun p => ((r.below around).push ⟨p, 0, true⟩, rest)) =
        (o.map fun p => (r.push ⟨p, 0, true⟩, rest)).map fun p => (p.1.below around, p.2) := by
    cases o <;> rfl
  have repeated (o : Option Level) (rest : List Char) :
      (o.map fun level => (({ r.below around with level } : Reading), rest)) =
        (o.map fun level => (({ r with level } : Reading), rest)).map
          fun p => (p.1.below around, p.2) := by
    cases o <;> rfl
  have flags : (r.below around).flags = r.flags := rfl
  have level : (r.below around).level = r.level := rfl
  simp only [readPart, flags, level]
  split
  case h_1 => exact groupStart_below r around s
  case h_2 =>
    rw [closeGroup?_below r around (own rfl)]
    cases r.closeGroup? <;> rfl
  case h_3 => rfl
  case h_4 =>
    cases bracketed r.flags s <;> rfl
  case h_5 => exact repeated _ _
  case h_6 => exact repeated _ _
  case h_7 => exact repeated _ _
  case h_8 =>
    cases repeatRange r.flags s with
    | none => rfl
    | some p => exact repeated _ _
  case h_9 =>
    cases escape r.flags s with
    | none => rfl
    | some p => exact element _ _
  all_goals exact element _ _

end

end ProfileAudit.Pattern
