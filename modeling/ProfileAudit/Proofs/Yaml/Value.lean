import ProfileAudit.Proofs.Yaml.Style

/-!
# Members read back

The layout of a document of members without indentation goes on from the mark of a value to the next
line, whatever style the value is written in (`Layout.puts_scalar`).
-/

namespace ProfileAudit.Yaml.Layout

variable {c : Char} {s t u : List Char} {i j k : Nat} {tokens : List Token} {l l' : Layout}

/-! ## Steps -/

/-- What is left before the next token. -/
def atToken? (l : Layout) : Option Layout := (toNextToken l.cursor.rest.length.succ l).freshKeys

theorem step_eq (l : Layout) : l.step = l.atToken?.bind fun l =>
    match l.closeBlocks.cursor.peek with
    | some d => l.closeBlocks.putToken d
    | none => l.closeBlocks.endDocument.map (·.put .streamEnd) := by
  unfold step atToken?
  cases (toNextToken l.cursor.rest.length.succ l).freshKeys with
  | none => rfl
  | some l =>
      change (match l.closeBlocks.cursor.peek with
        | some d => l.closeBlocks.putToken d
        | none => (l.closeBlocks.endDocument).bind _) = _
      rw [Option.bind_some]
      cases l.closeBlocks.cursor.peek with
      | some d => rfl
      | none => cases l.closeBlocks.endDocument <;> rfl

/-- Behind the mark of a value in a mapping whose lines are not indented. -/
def atValue (tokens : List Token) (t : List Char) (i j k : Nat) : Layout :=
  ⟨⟨t, i, j, k⟩, [0], false, none, [], tokens⟩

/-- At the beginning of a line in such a mapping. -/
def atEntry (tokens : List Token) (t : List Char) (i j : Nat) : Layout :=
  ⟨⟨t, i, j, 0⟩, [0], true, none, [], tokens⟩

/-- From a layout the tokens of another one are put, and then it goes on like that. -/
def Puts (l l' : Layout) : Prop :=
  ∃ m : Layout, l.step = some m ∧ m.tokens = l'.tokens ∧ m.atToken? = l'.atToken?

theorem Puts.of_step (stepped : l.step = some l') : l.Puts l' := ⟨l', stepped, rfl, rfl⟩

theorem Puts.run (puts : l.Puts l') (goesOn : (l'.tokens.head? == some .streamEnd) = false)
    (n : Nat) : Layout.run (n + 2) l = Layout.run (n + 1) l' := by
  obtain ⟨m, stepped, tokens, rest⟩ := puts
  have step : m.step = l'.step := by rw [step_eq, step_eq, rest]
  rw [Layout.run, stepped]
  change (if m.tokens.head? == some .streamEnd then _ else Layout.run (n + 1) m) = _
  rw [tokens, goesOn, if_neg (by decide), Layout.run, Layout.run, step]

/-! ## Values -/

/-- A value begins behind the blank that follows its mark. -/
theorem step_atValue (ink : isSpacing c = false) (sign : c ≠ '#') :
    (atValue tokens (' ' :: c :: t) i j k).step =
      (atValue tokens (c :: t) (i + 1) j (k + 1)).putToken c := by
  obtain ⟨white, line⟩ := isSpacing_eq_false_iff.mp ink
  obtain ⟨blank, tab⟩ := Bool.or_eq_false_iff.mp white
  have mark : (c == '#') = false := beq_false_of_ne sign
  have next : (atValue tokens (' ' :: c :: t) i j k).atToken? =
      some (atValue tokens (c :: t) (i + 1) j (k + 1)) := by
    rw [atToken?, toNextToken]
    simp [atValue, inFlow, Cursor.skipWhile, Cursor.takeWhile, Cursor.skip, Cursor.skipComment,
      Cursor.has_zero_cons, blank, tab, mark, line, byteOrderMark, freshKeys, freshKey]
  rw [step_eq, next]
  rfl

theorem ne_of_beginsPlain {m : Char} (begins : beginsPlain c = true)
    (marks : beginsPlain m = false) : (c == m) = false := by
  rw [beq_eq_false_iff_ne]
  rintro rfl
  cases begins.symm.trans marks

theorem startsPlain_of_beginsPlain (begins : beginsPlain c = true) (at_ : l.cursor.rest = c :: t) :
    l.startsPlain = true := by
  obtain ⟨⟨rest, i, j, k⟩, blocks, keyAllowed, candidate, outer, tokens⟩ := l
  cases at_
  have ink := isSpacing_of_beginsPlain begins
  have unmarked : ",[]\x7b\x7d#&*!|>\x27\"%@\x60".toList.contains c = false := by
    rw [Bool.eq_false_iff, Ne, List.contains_iff_mem]
    have all : ",[]\x7b\x7d#&*!|>\x27\"%@\x60".toList.all (!beginsPlain ·) = true := by decide
    intro member
    have none := List.all_eq_true.mp all c member
    rw [begins] at none
    cases none
  simp only [startsPlain, Cursor.gapAt_zero_cons, Cursor.has_zero_cons, ink, unmarked,
    ne_of_beginsPlain begins (by decide : beginsPlain '-' = false),
    ne_of_beginsPlain begins (by decide : beginsPlain '?' = false),
    ne_of_beginsPlain begins (by decide : beginsPlain ':' = false)]
  rfl

theorem putToken_plain (begins : beginsPlain c = true) (l : Layout)
    (at_ : l.cursor.rest = c :: t) : l.putToken c = l.putPlain := by
  have starts := startsPlain_of_beginsPlain begins at_
  have percent := ne_of_beginsPlain begins (by decide : beginsPlain '%' = false)
  have hyphen := ne_of_beginsPlain begins (by decide : beginsPlain '-' = false)
  have point := ne_of_beginsPlain begins (by decide : beginsPlain '.' = false)
  have question := ne_of_beginsPlain begins (by decide : beginsPlain '?' = false)
  have colon := ne_of_beginsPlain begins (by decide : beginsPlain ':' = false)
  have bar := ne_of_beginsPlain begins (by decide : beginsPlain '|' = false)
  have angle := ne_of_beginsPlain begins (by decide : beginsPlain '>' = false)
  have marks (m : Char) (other : (c == m) = false) : l.cursor.marks m = false := by
    obtain ⟨⟨rest, i, j, k⟩, blocks, keyAllowed, candidate, outer, tokens⟩ := l
    cases at_
    simp only [Cursor.marks, Cursor.has_zero_cons, other, Bool.and_false, Bool.false_and]
  unfold putToken
  simp only [percent, marks '-' hyphen, marks '.' point, Bool.and_false, Bool.false_eq_true,
    if_false]
  -- the signs that mark something else
  split
  iterate 10 exact absurd begins (by decide)
  simp only [hyphen, question, colon, bar, angle, starts, Bool.false_and, Bool.false_or,
    Bool.false_eq_true, if_false, if_true]

theorem puts_plain (stands : StandsPlain s) (begins : s.head?.any beginsPlain = true)
    (ends : t.head?.all (!isSpacing ·) = true) (tokens : List Token) (i j k : Nat) :
    (atValue tokens (' ' :: (s ++ '\n' :: t)) i j k).Puts
      (atEntry (.scalar (String.ofList s) .plain :: tokens) t (i + 1 + s.length + 1) (j + 1)) := by
  obtain ⟨c, s, rfl⟩ : ∃ c s', s = c :: s' := by
    cases s with
    | nil => cases begins
    | cons c s => exact ⟨c, s, rfl⟩
  have begins : beginsPlain c = true := begins
  have ink := isSpacing_of_beginsPlain begins
  have sign : c ≠ '#' := by
    rintro rfl
    cases begins
  have enough : (c :: s).length < (c :: s ++ '\n' :: t).length.succ := by
    rw [List.length_append]
    omega
  have read : plainFrom false 1 (c :: s ++ '\n' :: t).length.succ [] {}
      ⟨c :: s ++ '\n' :: t, i + 1, j, k + 1⟩ = _ :=
    plainFrom_written (Nat.succ_pos k) enough ends stands
  apply Puts.of_step
  rw [List.cons_append, step_atValue ink sign, putToken_plain begins _ rfl]
  change (plainFrom false 1 (c :: s ++ '\n' :: t).length.succ [] {}
    ⟨c :: s ++ '\n' :: t, i + 1, j, k + 1⟩).bind _ = _
  rw [read]
  rfl

/-- Behind a value that ends in its line the next line is looked for. -/
theorem atToken?_feed : (atValue tokens ('\n' :: t) i j k).atToken? =
    (atEntry tokens t (i + 1) (j + 1)).atToken? := by
  have next : toNextToken ('\n' :: t).length.succ (atValue tokens ('\n' :: t) i j k) =
      toNextToken t.length.succ (atEntry tokens t (i + 1) (j + 1)) := by
    rw [toNextToken]
    simp [atValue, atEntry, inFlow, Cursor.skipWhile, Cursor.takeWhile, Cursor.skip,
      Cursor.skipComment, Cursor.has_zero_cons, byteOrderMark, isBreak, Cursor.nextLine]
  exact congrArg freshKeys next

theorem puts_quoted {after : Cursor} (single : Bool) (tokens : List Token)
    (read : quotedFrom single (u ++ closing single :: '\n' :: t).length.succ.succ
      ⟨u ++ closing single :: '\n' :: t, i + 2, j, k + 2⟩ = some (s, after))
    (rest : after.rest = '\n' :: t) :
    (atValue tokens (' ' :: closing single :: (u ++ closing single :: '\n' :: t)) i j k).Puts
      (atEntry (.scalar (String.ofList s) .quoted :: tokens) t (after.index + 1)
        (after.line + 1)) := by
  obtain ⟨_, i', j', k'⟩ := after
  cases rest
  refine ⟨atValue (.scalar (String.ofList s) .quoted :: tokens) ('\n' :: t) i' j' k', ?_, rfl,
    atToken?_feed⟩
  obtain ⟨behind, isBehind⟩ : ∃ v, v = u ++ closing single :: '\n' :: t := ⟨_, rfl⟩
  rw [← isBehind] at read ⊢
  have put : (atValue tokens (closing single :: behind) (i + 1) j (k + 1)).putToken
      (closing single) =
        (atValue tokens (closing single :: behind) (i + 1) j (k + 1)).putQuoted single := by
    cases single <;> rfl
  have ink : isSpacing (closing single) = false := by cases single <;> decide
  have sign : closing single ≠ '#' := by cases single <;> decide
  rw [step_atValue ink sign, put]
  change ((quotedFrom single behind.length.succ.succ ⟨behind, i + 2, j, k + 2⟩).bind _).bind _ = _
  rw [read]
  rfl

theorem puts_single (fits : fitsSingle s = true) (feedless : '\n' ∉ s) (tokens : List Token)
    (t : List Char) (i j k : Nat) : ∃ i' j',
      (atValue tokens (' ' :: '\x27' :: (singleQuoted false s ++ '\x27' :: '\n' :: t)) i j k).Puts
        (atEntry (.scalar (String.ofList s) .quoted :: tokens) t i' j') := by
  have enough : s.length < (singleQuoted false s ++ '\x27' :: '\n' :: t).length.succ.succ := by
    have long := length_le_singleQuoted false s
    rw [List.length_append]
    omega
  have escapes := (Bool.not_eq_true' _).mp (Bool.and_eq_true_iff.mp fits).1
  obtain ⟨after, read, rest⟩ := quotedFrom_single (i := i + 2) (k := k + 2) (e := '\n') s t j
    (Nat.succ_pos _) enough (by decide) (printable_of_needsEscape escapes) feedless
    (sortedGaps_of_fitsSingle fits)
  exact ⟨_, _, puts_quoted true tokens read rest⟩

theorem puts_double (s : List Char) (tokens : List Token) (t : List Char) (i j k : Nat) : ∃ i' j',
    (atValue tokens (' ' :: '"' :: (s.flatMap doubleQuotedChar ++ '"' :: '\n' :: t)) i j k).Puts
      (atEntry (.scalar (String.ofList s) .quoted :: tokens) t i' j') := by
  have enough : s.length <
      (s.flatMap doubleQuotedChar ++ '"' :: '\n' :: t).length.succ.succ := by
    have long := length_le_doubleQuoted s
    rw [List.length_append]
    omega
  obtain ⟨after, read, rest⟩ := quotedFrom_double (i := i + 2) (k := k + 2) s ('\n' :: t) j
    (Nat.succ_pos _) enough
  exact ⟨_, _, puts_quoted false tokens read rest⟩

theorem puts_literal {a : Char} (upright : Upright s) (fits : fitsLiteral s = true)
    (ends : isSpacing a = false) (tokens : List Token) (t : List Char) (i j k : Nat) : ∃ i' j',
      (atValue tokens
        (' ' :: '|' :: '-' :: '\n' :: (literalLines true s ++ '\n' :: a :: t)) i j k).Puts
        (atEntry (.scalar (String.ofList s) .block :: tokens) (a :: t) i' j') := by
  have escapes := (Bool.not_eq_true' _).mp (Bool.and_eq_true_iff.mp fits).1
  obtain ⟨d, s, rfl, first⟩ := upright.exists_first
  obtain ⟨e, last, line⟩ := upright.exists_last
  obtain ⟨⟨_, i', j', k'⟩, read, rest, column⟩ := blockScalar_written (i := i + 2) (l := j)
    (k := k + 2) (t := t) (printable_of_needsEscape escapes) (isSpacing_of_beginsPlain first)
    (by simp [last, line]) ends
  cases rest
  cases column
  refine ⟨i', j', Puts.of_step ?_⟩
  rw [step_atValue (by decide) (by decide)]
  obtain ⟨block, isBlock⟩ : ∃ v, v = literalLines true (d :: s) ++ '\n' :: a :: t := ⟨_, rfl⟩
  rw [List.cons_append, List.cons_append, ← isBlock] at read
  rw [← isBlock]
  change (blockScalar true 1 ⟨'-' :: '\n' :: block, i + 2, j, k + 2⟩).bind _ = _
  rw [read]
  rfl

/-- **A text is put** as it is, whatever style it is written in, and the next line comes. -/
theorem puts_scalar {s : String} (upright : Upright s.toList)
    (ends : t.head?.any (!isSpacing ·) = true) (tokens : List Token) (i j k : Nat) :
    ∃ style i' j', (atValue tokens (' ' :: ((scalarText s).toList ++ '\n' :: t)) i j k).Puts
      (atEntry (.scalar s style :: tokens) t i' j') := by
  obtain ⟨a, t, rfl⟩ : ∃ a t', t = a :: t' := by
    cases t with
    | nil => cases ends
    | cons a t => exact ⟨a, t, rfl⟩
  have ends : isSpacing a = false := by simpa using ends
  have writes := writes_scalarText s
  have own : String.ofList s.toList = s := String.ofList_toList
  generalize (scalarText s).toList = written at writes
  cases writes with
  | plain fits =>
      have next : (a :: t).head?.all (!isSpacing ·) = true := by simp [ends]
      have puts := puts_plain (upright.standsPlain fits) upright.first next tokens i j k
      rw [own] at puts
      exact ⟨_, _, _, puts⟩
  | single feedless fits =>
      obtain ⟨i', j', puts⟩ := puts_single fits feedless tokens (a :: t) i j k
      rw [own] at puts
      exact ⟨_, i', j', by simpa using puts⟩
  | double =>
      obtain ⟨i', j', puts⟩ := puts_double s.toList tokens (a :: t) i j k
      rw [own] at puts
      exact ⟨_, i', j', by simpa using puts⟩
  | literal fits =>
      obtain ⟨i', j', puts⟩ := puts_literal upright fits ends tokens t i j k
      rw [own] at puts
      exact ⟨_, i', j', by simpa [upright.literalHints_eq] using puts⟩

/-! ## Keys -/

/-- Behind a key whose mark of a value comes next. -/
def atMark (key : String) (tokens : List Token) (t : List Char) (i j : Nat) : Layout :=
  ⟨⟨':' :: ' ' :: t, i + key.length, j, key.length⟩, [0], false,
    some ⟨true, tokens.length, ⟨key.toList ++ ':' :: ' ' :: t, i, j, 0⟩⟩, [],
    .scalar key .plain :: tokens⟩

/-- A key that is short enough has its value behind it. -/
theorem puts_value {key : String} (short : key.length ≤ 1024) (some : key.length ≠ 0) :
    (atMark key tokens t i j).Puts
      (atValue (.value :: .scalar key .plain :: .key :: tokens) (' ' :: t) (i + key.length + 1) j
        (key.length + 1)) := by
  have next : (atMark key tokens t i j).atToken? = .some (atMark key tokens t i j) := by
    rw [atToken?, toNextToken]
    have near : ¬ i + 1024 < i + key.length := by omega
    simp [atMark, inFlow, Cursor.skipWhile, Cursor.takeWhile, Cursor.skip, Cursor.skipComment,
      Cursor.has_zero_cons, byteOrderMark, isBreak, freshKeys, freshKey, Candidate.isStale, near]
  apply Puts.of_step
  rw [step_eq, next]
  have inside : (key.length == 0) = false := beq_false_of_ne some
  have closed : (atMark key tokens t i j).closeBlocks = atMark key tokens t i j := by
    simp [closeBlocks, atMark, inFlow, closeTo]
  rw [Option.bind_some, closed]
  change (atMark key tokens t i j).putToken ':' = _
  have put : (atMark key tokens t i j).putToken ':' = (atMark key tokens t i j).putValue := by
    simp [putToken, atMark, Cursor.marks, inside, Cursor.gapAt, Cursor.peekAt, isWhite]
  rw [put]
  simp [putValue, atMark, putAt, openBlock, inFlow, least, putOver, Cursor.skip, atValue]

/-- Behind the last line the mapping ends, and the document. -/
theorem run_end (n : Nat) : run (n + 1) (atEntry tokens [] i j) =
    some (tokens.reverse ++ [.blockEnd, .streamEnd]) := by
  have step : (atEntry tokens [] i j).step =
      some ⟨⟨[], i, j, 0⟩, [], false, none, [], .streamEnd :: .blockEnd :: tokens⟩ := rfl
  rw [run, step]
  simp

end ProfileAudit.Yaml.Layout
