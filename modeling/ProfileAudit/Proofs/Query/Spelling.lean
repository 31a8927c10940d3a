import ProfileAudit.Proofs.Query.Wording

/-!
# How the tokens of a query are written

Each step of reading finds a token that is written in the text, or a fault whose complaint quotes
the text (`yields_scanAt`), so all tokens meet the wording of the text (`yields_ofText`). Outside
braces a name is a metric's unless it is reserved (`metricName?_ofName`), and all that is read but
the values of strings is plain (`isPlain_of_isNameChar`, `Leaves`).
-/

namespace ProfileAudit.Query

/-! ## Names -/

/-- Words that are names of no metrics, in lower case. -/
def reserved : List String :=
  ["atan2", "on", "ignoring", "group_left", "group_right", "bool", "inf", "nan"]

/-- A text that stands for the metric of that name wherever an operand is expected. -/
structure IsMetricName (name : String) : Prop where
  spelled : ∃ c cs, name.toList = c :: cs ∧ isNameStart c = true ∧ cs.all isNameChar = true
  free : String.ofList (name.toList.map Char.toLower) ∉ reserved

theorem metricName?_keyword (text : String) : ∀ entry ∈ Keyword.table,
    (Token.keyword entry.2 text).metricName? = if entry.1 ∈ reserved then none else some text := by
  simp [Keyword.table, reserved, Token.metricName?]

theorem lookup_keyword_of_reserved : ∀ lower ∈ reserved,
    (Keyword.table.lookup lower).isSome ∨ lower = "inf" ∨ lower = "nan" := by
  decide

/-- A name is a metric's unless it is reserved. -/
theorem metricName?_ofName (cs : List Char) : (Token.ofName cs).metricName? =
    if String.ofList (cs.map Char.toLower) ∈ reserved then none else some (String.ofList cs) := by
  unfold Token.ofName
  generalize String.ofList (cs.map Char.toLower) = lower
  dsimp only
  cases found : Keyword.table.lookup lower with
  | some k =>
      obtain ⟨before, behind, listed, -⟩ := List.lookup_eq_some_iff.mp found
      have entry : (lower, k) ∈ Keyword.table := by
        rw [listed]
        exact List.mem_append_right _ List.mem_cons_self
      exact metricName?_keyword _ (lower, k) entry
  | none =>
      by_cases special : lower = "inf" ∨ lower = "nan"
      · have listed : lower ∈ reserved := by
          rcases special with rfl | rfl <;> decide
        rw [if_pos listed, if_pos special]
        rfl
      · have free : lower ∉ reserved := by
          intro listed
          rcases lookup_keyword_of_reserved lower listed with known | other
          · rw [found] at known
            cases known
          · exact special other
        rw [if_neg free]
        dsimp only
        rw [if_neg special]
        split <;> rfl

theorem ofName_cases (cs : List Char) :
    (∃ k, Token.ofName cs = .keyword k (String.ofList cs)) ∨
      Token.ofName cs = .number (String.ofList cs) ∨
      Token.ofName cs = .metric (String.ofList cs) ∨ Token.ofName cs = .word (String.ofList cs) := by
  unfold Token.ofName
  dsimp only
  split
  · exact .inl ⟨_, rfl⟩
  · split
    · exact .inr (.inl rfl)
    · split
      · exact .inr (.inr (.inl rfl))
      · exact .inr (.inr (.inr rfl))

theorem written_ofName (cs : List Char) : (Token.ofName cs).written = String.ofList cs := by
  rcases ofName_cases cs with ⟨k, is⟩ | is | is | is <;> rw [is] <;> rfl

theorem ofName_ne_string (cs : List Char) (value : String) : Token.ofName cs ≠ .string value := by
  rcases ofName_cases cs with ⟨k, is⟩ | is | is | is <;> rw [is] <;> exact nofun

theorem ofName_ne_mark (cs : List Char) (m : Mark) : Token.ofName cs ≠ .mark m := by
  rcases ofName_cases cs with ⟨k, is⟩ | is | is | is <;> rw [is] <;> exact nofun

/-! ## Plain characters -/

/-- The characters between plain ones are plain. -/
theorem isPlain_of_between {c lo hi : Char} (low : 32 ≤ lo.toNat) (high : hi.toNat ≤ 126)
    (lower : lo.val ≤ c.val) (upper : c.val ≤ hi.val) : isPlain c = true := by
  rw [UInt32.le_iff_toNat_le] at lower upper
  rw [isPlain, Bool.and_eq_true, decide_eq_true_eq, decide_eq_true_eq]
  exact ⟨low.trans lower, upper.trans high⟩

theorem isPlain_of_isDigit {c : Char} (digit : c.isDigit = true) : isPlain c = true := by
  have bounds : (decide ('0'.val ≤ c.val) && decide (c.val ≤ '9'.val)) = true := digit
  rw [Bool.and_eq_true, decide_eq_true_eq, decide_eq_true_eq] at bounds
  exact isPlain_of_between (by decide) (by decide) bounds.1 bounds.2

theorem isPlain_of_isHexadecimal {c : Char} (hexadecimal :
    (c.isDigit || ('a' ≤ c ∧ c ≤ 'f') || ('A' ≤ c ∧ c ≤ 'F')) = true) : isPlain c = true := by
  rw [Bool.or_eq_true, Bool.or_eq_true, decide_eq_true_eq, decide_eq_true_eq] at hexadecimal
  rcases hexadecimal with (digit | ⟨low, high⟩) | ⟨low, high⟩
  · exact isPlain_of_isDigit digit
  · exact isPlain_of_between (by decide) (by decide) low high
  · exact isPlain_of_between (by decide) (by decide) low high

theorem isPlain_of_isAlpha {c : Char} (alpha : c.isAlpha = true) : isPlain c = true := by
  rcases Bool.or_eq_true_iff.mp alpha with upper | lower
  · obtain ⟨low, high⟩ := of_decide_eq_true upper
    exact isPlain_of_between (by decide) (by decide) low high
  · have bounds : (decide ('a'.val ≤ c.val) && decide (c.val ≤ 'z'.val)) = true := lower
    rw [Bool.and_eq_true, decide_eq_true_eq, decide_eq_true_eq] at bounds
    exact isPlain_of_between (by decide) (by decide) bounds.1 bounds.2

theorem isPlain_of_isAlphanumeric {c : Char} (alphanumeric : isAlphanumeric c = true) :
    isPlain c = true := by
  simp only [isAlphanumeric, isAlpha, Bool.or_eq_true, beq_iff_eq] at alphanumeric
  rcases alphanumeric with (alpha | rfl) | digit
  · exact isPlain_of_isAlpha alpha
  · rfl
  · exact isPlain_of_isDigit digit

theorem isPlain_of_isNameChar {c : Char} (name : isNameChar c = true) : isPlain c = true := by
  rw [isNameChar, Bool.or_eq_true, beq_iff_eq] at name
  rcases name with alphanumeric | rfl
  · exact isPlain_of_isAlphanumeric alphanumeric
  · rfl

theorem isNameChar_of_isNameStart {c : Char} (start : isNameStart c = true) :
    isNameChar c = true := by
  simp only [isNameStart, isNameChar, isAlphanumeric, Bool.or_eq_true] at start ⊢
  exact start.imp_left .inl

theorem IsMetricName.isPlain {name : String} (is : IsMetricName name) :
    ∀ c ∈ name.toList, isPlain c = true := by
  obtain ⟨⟨c, cs, spelled, start, more⟩, -⟩ := is
  rw [spelled]
  refine List.forall_mem_cons.mpr ⟨?_, fun d member => ?_⟩
  · exact isPlain_of_isNameChar (isNameChar_of_isNameStart start)
  · exact isPlain_of_isNameChar (List.all_eq_true.mp more d member)

/-! ## The wording of a text -/

/-- The value stands between quotes in the text. -/
def Encloses (q : List Char) (value : String) : Prop :=
  ∃ quote ∈ ['"', '\x27', '\x60'], quote :: value.toList ++ [quote] <:+: q

/-- What is known of a query from its text. -/
def Wording.ofText (q : List Char) : Wording where
  char c := c ∈ q
  name := IsMetricName
  value := Encloses q
  plain_of_name := IsMetricName.isPlain
  char_of_value := by
    rintro text ⟨quote, -, inside⟩ c member
    apply inside.subset
    exact List.mem_append_left _ (List.mem_cons_of_mem _ member)

section

variable {q s t rest : List Char} {c : Char}

/-! ## Numbers -/

/-- The rest of a text is left when some plain characters are taken from it. -/
def Leaves (s rest : List Char) : Prop :=
  ∃ taken, s = taken ++ rest ∧ ∀ c ∈ taken, isPlain c = true

namespace Leaves

theorem refl (s : List Char) : Leaves s s := ⟨[], rfl, nofun⟩

theorem cons (plain : isPlain c = true) (s : List Char) : Leaves (c :: s) s :=
  ⟨[c], rfl, List.forall_mem_singleton.mpr plain⟩

theorem trans (first : Leaves s t) (second : Leaves t rest) : Leaves s rest := by
  obtain ⟨before, rfl, plain⟩ := first
  obtain ⟨behind, rfl, plain'⟩ := second
  exact ⟨before ++ behind, (List.append_assoc _ _ _).symm,
    List.forall_mem_append.mpr ⟨plain, plain'⟩⟩

theorem dropWhile {p : Char → Bool} (plain : ∀ c, p c = true → isPlain c = true) (s : List Char) :
    Leaves s (s.dropWhile p) := by
  refine ⟨s.takeWhile p, List.takeWhile_append_dropWhile.symm, fun c member => ?_⟩
  exact plain c (List.all_eq_true.mp List.all_takeWhile c member)

theorem accept {p : Char → Bool} (plain : ∀ c, p c = true → isPlain c = true) (s : List Char) :
    Leaves s (accept p s).2 := by
  unfold Query.accept
  repeat' split
  · next taken => exact .cons (plain _ taken) _
  · exact .refl _
  · exact .refl _

theorem suffix (leaves : Leaves s rest) : rest <:+ s := by
  obtain ⟨taken, rfl, -⟩ := leaves
  exact List.suffix_append taken rest

/-- What was taken is plain. -/
theorem isPlain_of_mem_upTo (leaves : Leaves s rest) (member : c ∈ (upTo s rest).toList) :
    isPlain c = true := by
  obtain ⟨taken, rfl, plain⟩ := leaves
  rw [upTo, String.toList_ofList, List.length_append, Nat.add_sub_cancel,
    List.take_left] at member
  exact plain c member

theorem digits (s : List Char) : Leaves s (s.dropWhile Char.isDigit) :=
  .dropWhile (fun _ => isPlain_of_isDigit) s

end Leaves

/-- The digits behind a point. -/
theorem leaves_point (s : List Char) :
    Leaves s (match s with
      | '.' :: rest => rest.dropWhile Char.isDigit
      | s => s) := by
  split
  · exact (Leaves.cons rfl _).trans (.digits _)
  · exact .refl _

theorem leaves_afterNumber (s : List Char) : Leaves s (afterNumber s) := by
  unfold afterNumber
  extract_lets whole digits point
  have first : Leaves s whole := by
    unfold whole
    split
    · next c rest =>
        split
        · next x =>
            have plain : isPlain c = true := by
              rcases x with rfl | rfl <;> rfl
            refine (Leaves.cons rfl _).trans ((Leaves.cons plain _).trans (.dropWhile ?_ _))
            exact fun d => isPlain_of_isHexadecimal
        · exact .refl _
    · exact .refl _
  have second : Leaves s digits := first.trans (.digits _)
  have third : Leaves s point := second.trans (leaves_point digits)
  have fourth : Leaves s (accept (fun c => c == 'e' || c == 'E') point).2 := by
    refine third.trans (.accept ?_ point)
    intro c power
    rw [Bool.or_eq_true, beq_iff_eq, beq_iff_eq] at power
    rcases power with rfl | rfl <;> rfl
  split
  next power behind taken =>
    rw [taken] at fourth
    split
    · refine fourth.trans (.trans (.accept ?_ behind) (.digits _))
      intro c sign
      rw [Bool.or_eq_true, beq_iff_eq, beq_iff_eq] at sign
      rcases sign with rfl | rfl <;> rfl
    · exact fourth

/-- Units are written in plain letters. -/
theorem isPlain_of_unit (units : List Char) (all : units.all isPlain = true) :
    ∀ c, units.contains c = true → isPlain c = true :=
  fun c unit => List.all_eq_true.mp all c (List.contains_iff_mem.mp unit)

theorem isPlain_plural : ∀ c, (c == 's') = true → isPlain c = true := by
  intro c plural
  rw [beq_iff_eq] at plural
  rw [plural]
  rfl

theorem leaves_afterDurationParts {fuel : Nat} (ok : afterDurationParts fuel s = .ok rest) :
    Leaves s rest := by
  induction fuel generalizing s with
  | zero => cases ok
  | succ fuel ih =>
      unfold afterDurationParts at ok
      dsimp only at ok
      split at ok
      · split at ok
        · cases ok
        · cases ok
          exact .digits s
      · split at ok
        · cases ok
        · next behind taken =>
            have unit : Leaves (s.dropWhile Char.isDigit) behind := by
              have accepted := Leaves.accept (isPlain_of_unit "smhdw".toList rfl)
                (s.dropWhile Char.isDigit)
              rwa [taken] at accepted
            have plural := Leaves.accept isPlain_plural behind
            exact (Leaves.digits s).trans (unit.trans (plural.trans (ih ok)))

theorem leaves_afterDuration (ok : afterDuration s = .ok rest) : Leaves s rest := by
  unfold afterDuration at ok
  split at ok
  · cases ok
  · next behind taken =>
      have unit : Leaves s behind := by
        have accepted := Leaves.accept (isPlain_of_unit "smhdwy".toList rfl) s
        rwa [taken] at accepted
      exact unit.trans ((Leaves.accept isPlain_plural behind).trans (leaves_afterDurationParts ok))

/-- A number or a duration. -/
def Amount (t : Token) : Prop :=
  ∃ text, (t = .number text ∨ t = .duration text) ∧ ∀ c ∈ text.toList, isPlain c = true

theorem mem_upTo (member : c ∈ (upTo s rest).toList) : c ∈ s := by
  rw [upTo, String.toList_ofList] at member
  exact List.mem_of_mem_take member

theorem yields_scanNumber {w : Wording} (chars : ∀ c ∈ s, w.char c) :
    Yields w (scanNumber s) fun read => read.2 <:+ s ∧ Amount read.1 := by
  have number := leaves_afterNumber s
  unfold scanNumber
  dsimp only
  split
  · exact ⟨number.suffix, _, .inl rfl, fun c => number.isPlain_of_mem_upTo⟩
  · split
    · next rest ok =>
        have duration : Leaves s rest := number.trans (leaves_afterDuration ok)
        exact ⟨duration.suffix, _, .inr rfl, fun c => duration.isPlain_of_mem_upTo⟩
    · exact .quoting rfl (.of_chars fun c member => chars c (mem_upTo member))

/-! ## Strings -/

/-- What is read of a string is what stands before the closing quote. -/
theorem yields_scanString {w : Wording} {quote : Char} (own : w.char quote)
    (chars : ∀ c ∈ s, w.char c) :
    Yields w (scanString quote s) fun read => s = read.1 ++ quote :: read.2 := by
  fun_induction scanString quote s with
  | case1 => exact .quoting rfl (.of_char own)
  | case2 => rfl
  | case3 => exact .silent rfl
  | case4 e rest other escape ih =>
      have behind : ∀ c ∈ rest, w.char c := fun c member =>
        chars c (List.mem_cons_of_mem _ (List.mem_cons_of_mem _ member))
      refine (ih behind).bind fun read split => ?_
      obtain ⟨cs, rest'⟩ := read
      exact congrArg (fun s => '\\' :: e :: s) split
  | case5 e rest other plain =>
      exact .quoting rfl (.of_char (chars e (List.mem_cons_of_mem _ List.mem_cons_self)))
  | case6 c s other plain ih =>
      have behind : ∀ d ∈ s, w.char d := fun d member => chars d (List.mem_cons_of_mem _ member)
      refine (ih behind).bind fun read split => ?_
      obtain ⟨cs, rest'⟩ := read
      exact congrArg (c :: ·) split

/-! ## Steps -/

def Place.inside : Place → Bool
  | .inBraces => true
  | _ => false

/-- What a step finds is written in the text, and a name that it finds outside braces is one. -/
structure Found.Fits (w : Wording) (inside : Bool) (before : List Char) (found : Found) : Prop where
  rest : found.rest <:+ before
  meets : ∀ t, found.token = some t → t.Meets w
  named : inside = false → ∀ t, found.token = some t → ∀ n, t.metricName? = some n → w.name n
  place : found.scan.place.inside = found.token.elim inside (Token.leads inside)

variable {w : Wording} {inside : Bool} {st : Scan}

/-- Nothing is found. -/
theorem fits_none (suffix : rest <:+ s) (place : st.place.inside = inside) :
    Found.Fits w inside s ⟨none, st, rest⟩ :=
  ⟨suffix, nofun, nofun, place⟩

theorem fits_mark {m : Mark} (suffix : rest <:+ s)
    (place : st.place.inside = (Token.mark m).leads inside) :
    Found.Fits w inside s ⟨some (.mark m), st, rest⟩ := by
  refine ⟨suffix, ?_, ?_, place⟩
  · rintro t ⟨⟩
    exact Token.meets_mark m
  · rintro outside t ⟨⟩ n ⟨⟩

theorem fits_operator {op : BinaryOp} (suffix : rest <:+ s) (place : st.place.inside = inside) :
    Found.Fits w inside s ⟨some (.operator op), st, rest⟩ := by
  refine ⟨suffix, ?_, ?_, place⟩
  · rintro t ⟨⟩
    exact Token.meets_operator op
  · rintro outside t ⟨⟩ n ⟨⟩

theorem fits_amount {t : Token} (amount : Amount t) (suffix : rest <:+ s)
    (place : st.place.inside = inside) : Found.Fits w inside s ⟨some t, st, rest⟩ := by
  obtain ⟨text, rfl | rfl, plain⟩ := amount
  · refine ⟨suffix, ?_, ?_, place⟩
    · rintro t ⟨⟩
      exact ⟨fun _ => plain, nofun⟩
    · rintro outside t ⟨⟩ n ⟨⟩
  · refine ⟨suffix, ?_, ?_, place⟩
    · rintro t ⟨⟩
      exact ⟨fun _ => plain, nofun⟩
    · rintro outside t ⟨⟩ n ⟨⟩

theorem fits_string {value : String} (own : w.value value) (suffix : rest <:+ s)
    (place : st.place.inside = inside) :
    Found.Fits w inside s ⟨some (.string value), st, rest⟩ := by
  refine ⟨suffix, ?_, ?_, place⟩
  · rintro t ⟨⟩
    refine ⟨fun other => absurd rfl (other value), ?_⟩
    rintro text ⟨⟩
    exact own
  · rintro outside t ⟨⟩ n ⟨⟩

/-- A string that is read stands between its quotes. -/
theorem fits_scanString {quote : Char} (quotes : quote ∈ ['"', '\x27', '\x60'])
    (written : quote :: s <:+ q) (place : st.place.inside = inside) :
    Yields (.ofText q)
      ((scanString quote s).map fun read => ⟨some (.string (String.ofList read.1)), st, read.2⟩)
      (Found.Fits (.ofText q) inside (quote :: s)) := by
  have chars : ∀ c ∈ quote :: s, (Wording.ofText q).char c := fun c member =>
    written.subset member
  have read := yields_scanString (chars quote List.mem_cons_self)
    fun c member => chars c (List.mem_cons_of_mem _ member)
  refine read.map fun read split => fits_string ?_ ?_ place
  · refine ⟨quote, quotes, List.IsInfix.trans ?_ written.isInfix⟩
    rw [split, String.toList_ofList]
    exact ⟨[], read.2, by simp⟩
  · rw [split]
    exact List.suffix_append (quote :: read.1 ++ [quote]) read.2 |>.trans (by simp)

theorem fits_scanNumber (written : c :: s <:+ q) (place : st.place.inside = inside) :
    Yields (.ofText q) ((scanNumber (c :: s)).map fun read => ⟨some read.1, st, read.2⟩)
      (Found.Fits (.ofText q) inside (c :: s)) := by
  have read := yields_scanNumber (w := .ofText q) fun c member => written.subset member
  exact read.map fun read ⟨suffix, amount⟩ => fits_amount amount suffix place

/-- A name outside braces, up to the first character that is not of a name. -/
theorem fits_ofName (start : isNameStart c = true) (place : st.place.inside = inside) :
    Found.Fits (.ofText q) inside (c :: s)
      ⟨some (.ofName (c :: s.takeWhile isNameChar)), st, s.dropWhile isNameChar⟩ := by
  have named : (String.ofList (c :: s.takeWhile isNameChar)).toList =
      c :: s.takeWhile isNameChar := String.toList_ofList
  have spelled : (s.takeWhile isNameChar).all isNameChar = true := List.all_takeWhile
  generalize s.takeWhile isNameChar = cs at *
  refine ⟨(List.dropWhile_suffix _).trans (List.suffix_cons c s), ?_, ?_, ?_⟩
  · rintro t ⟨⟩
    refine ⟨fun _ => ?_, fun text string => absurd string (ofName_ne_string _ _)⟩
    rw [written_ofName, named]
    refine List.forall_mem_cons.mpr ⟨?_, fun d member => ?_⟩
    · exact isPlain_of_isNameChar (isNameChar_of_isNameStart start)
    · exact isPlain_of_isNameChar (List.all_eq_true.mp spelled d member)
  · rintro outside t ⟨⟩ n is
    rw [metricName?_ofName] at is
    split at is
    · cases is
    · next free =>
        cases is
        refine ⟨⟨c, cs, named, start, spelled⟩, ?_⟩
        rw [named]
        exact free
  · rw [place]
    exact (Token.leads_of_text (ofName_ne_mark _)).symm

theorem unexpectedAfter_meets {first : Char} (written : first :: c :: s <:+ q) :
    Fault.Meets (.ofText q) (.unexpectedAfter first c) := by
  intro text member
  rcases List.mem_cons.mp member with rfl | member
  · exact .of_char (written.subset List.mem_cons_self)
  · rw [List.mem_singleton.mp member]
    exact .of_char (written.subset (List.mem_cons_of_mem _ List.mem_cons_self))

theorem afterComment_suffix (s : List Char) : afterComment s <:+ s := List.dropWhile_suffix _

theorem yields_scanOutside (outside : st.place.inside = false) (written : c :: s <:+ q) :
    Yields (.ofText q) (scanOutside st c s) (Found.Fits (.ofText q) false (c :: s)) := by
  have one (c : Char) (s : List Char) : s <:+ c :: s := List.suffix_cons c s
  have two (c d : Char) (s : List Char) : s <:+ c :: d :: s := List.suffix_append [c, d] s
  unfold scanOutside
  dsimp only
  split
  · exact fits_none ((afterComment_suffix _).trans (one _ _)) outside
  · exact fits_mark (one _ _) outside
  · exact fits_mark (one _ _) outside
  · exact fits_operator (one _ _) outside
  · exact fits_operator (one _ _) outside
  · exact fits_operator (one _ _) outside
  · exact fits_operator (one _ _) outside
  · exact fits_operator (one _ _) outside
  · exact fits_operator (one _ _) outside
  · exact fits_operator (two _ _ _) outside
  · exact unexpectedAfter_meets written
  · exact fits_mark (one _ _) outside
  · exact fits_operator (two _ _ _) outside
  · exact unexpectedAfter_meets written
  · exact .silent rfl
  · exact fits_operator (two _ _ _) outside
  · exact fits_operator (one _ _) outside
  · exact fits_operator (two _ _ _) outside
  · exact fits_operator (one _ _) outside
  · exact fits_mark (one _ _) outside
  · split
    · exact .silent rfl
    · exact fits_mark (one _ _) outside
  · exact fits_mark (one _ _) rfl
  · exact .silent rfl
  · exact fits_mark (one _ _) rfl
  · exact .silent rfl
  · split
    · exact fits_scanNumber written outside
    · exact unexpectedAfter_meets written
  · exact .silent rfl
  · split
    · exact fits_none (one _ _) outside
    · split
      · next quote =>
          exact fits_scanString (by simpa using quote) written outside
      · split
        · exact fits_scanNumber written outside
        · split
          · next start => exact fits_ofName start outside
          · exact .quoting rfl (.of_char (written.subset List.mem_cons_self))

/-- Inside braces nothing is the name of a metric. -/
theorem fits_inside {t : Token} (meets : t.Meets w) (other : ∀ m, t ≠ .mark m)
    (suffix : rest <:+ s) (place : st.place.inside = true) :
    Found.Fits w true s ⟨some t, st, rest⟩ := by
  refine ⟨suffix, ?_, nofun, ?_⟩
  · rintro t ⟨⟩
    exact meets
  · rw [place]
    exact (Token.leads_of_text other).symm

theorem fits_label (inBraces : st.place.inside = true) (alpha : isAlpha c = true) :
    Yields w (scanInBraces.label st c s) (Found.Fits w true (c :: s)) := by
  refine fits_inside ⟨fun _ => ?_, nofun⟩ nofun ?_ inBraces
  · dsimp only [Token.written]
    rw [String.toList_ofList]
    refine List.forall_mem_cons.mpr ⟨?_, fun d member => ?_⟩
    · exact isPlain_of_isAlphanumeric (Bool.or_eq_true_iff.mpr (.inl alpha))
    · exact isPlain_of_isAlphanumeric (List.all_eq_true.mp List.all_takeWhile d member)
  · exact (List.dropWhile_suffix _).trans (List.suffix_cons c s)

/-- The word between alternatives, before a blank. -/
theorem yields_or {d e : Char} (inBraces : st.place.inside = true) (alpha : isAlpha c = true)
    (plain : [c, d].all isPlain = true) :
    Yields w
      (if isSpace e then .ok ⟨some (.keyword (.operator .or) (String.ofList [c, d])), st, e :: rest⟩
        else scanInBraces.label st c (d :: e :: rest))
      (Found.Fits w true (c :: d :: e :: rest)) := by
  split
  · refine fits_inside ⟨fun _ f member => ?_, nofun⟩ nofun (List.suffix_append [c, d] _) inBraces
    exact Quoted.isPlain_of_mem_ofList plain member
  · exact fits_label inBraces alpha

theorem yields_scanInBraces (inBraces : st.place.inside = true) (written : c :: s <:+ q) :
    Yields (.ofText q) (scanInBraces st c s) (Found.Fits (.ofText q) true (c :: s)) := by
  have one (c : Char) (s : List Char) : s <:+ c :: s := List.suffix_cons c s
  have two (c d : Char) (s : List Char) : s <:+ c :: d :: s := List.suffix_append [c, d] s
  unfold scanInBraces
  dsimp only
  split
  · exact fits_none ((afterComment_suffix _).trans (one _ _)) inBraces
  · exact fits_mark (one _ _) inBraces
  · exact fits_mark (two _ _ _) inBraces
  · exact fits_mark (one _ _) inBraces
  · exact fits_operator (two _ _ _) inBraces
  · exact fits_mark (two _ _ _) inBraces
  · exact .quoting rfl (.of_char (written.subset (List.mem_cons_of_mem _ List.mem_cons_self)))
  · exact .silent rfl
  · exact .silent rfl
  · exact fits_mark (one _ _) rfl
  · split
    · exact fits_none (one _ _) inBraces
    · split
      · next quote => exact fits_scanString (by simpa using quote) written inBraces
      · split
        · next alpha =>
            split
            · exact yields_or inBraces rfl rfl
            · exact yields_or inBraces rfl rfl
            · exact yields_or inBraces rfl rfl
            · exact yields_or inBraces rfl rfl
            · exact fits_label inBraces alpha
        · exact .quoting rfl (.of_char (written.subset List.mem_cons_self))

theorem yields_scanInBrackets {first colon : Bool} (written : c :: s <:+ q) :
    Yields (.ofText q) (scanInBrackets st first colon c s)
      (Found.Fits (.ofText q) false (c :: s)) := by
  have one : s <:+ c :: s := List.suffix_cons c s
  unfold scanInBrackets
  dsimp only
  split
  · exact fits_none one rfl
  · split
    · split
      · exact .silent rfl
      · split
        · exact .silent rfl
        · exact fits_mark one rfl
    · split
      · exact fits_scanNumber written rfl
      · split
        · exact fits_mark one rfl
        · split
          · exact .silent rfl
          · exact .quoting rfl (.of_char (written.subset List.mem_cons_self))

theorem yields_scanAt (st : Scan) (written : c :: s <:+ q) : Yields (.ofText q) (scanAt st c s)
    (Found.Fits (.ofText q) st.place.inside (c :: s)) := by
  unfold scanAt
  split
  · next place =>
      rw [place]
      exact yields_scanOutside (by rw [place]; rfl) written
  · next place =>
      rw [place]
      exact yields_scanInBraces (by rw [place]; rfl) written
  · next first colon place =>
      rw [place]
      exact yields_scanInBrackets written

/-! ## The whole text -/

theorem Found.Fits.worded {found : Found} {tokens : List Token} (fits : found.Fits w inside s)
    (rest : Worded w found.scan.place.inside tokens) :
    Worded w inside (found.token.toList ++ tokens) := by
  obtain ⟨token, scan, behind⟩ := found
  have place := fits.place
  cases token with
  | none =>
      dsimp only [Option.elim] at place
      exact place ▸ rest
  | some t =>
      dsimp only [Option.elim] at place
      refine ⟨⟨fits.meets t rfl, fun outside => fits.named outside t rfl⟩, ?_⟩
      exact place ▸ rest

theorem yields_finish (st : Scan) :
    Yields w st.finish (Worded w st.place.inside) := by
  unfold Scan.finish
  split
  · exact .silent rfl
  · exact .silent rfl
  · split
    · exact ⟨⟨⟨nofun, nofun⟩, nofun⟩, trivial⟩
    · exact .silent rfl

theorem yields_scanFrom (written : s <:+ q) :
    Yields (.ofText q) (scanFrom st s) (Worded (.ofText q) st.place.inside) := by
  fun_induction scanFrom st s with
  | case1 st => exact yields_finish st
  | case2 st c s f fault =>
      have step := yields_scanAt st written
      rw [fault] at step
      exact step
  | case3 st c s found ok shorter f fault ih =>
      have step := yields_scanAt st written
      rw [ok] at step
      have rest := ih (step.rest.trans written)
      rw [fault] at rest
      exact rest
  | case4 st c s found ok shorter tokens read ih =>
      have step := yields_scanAt st written
      rw [ok] at step
      have rest := ih (step.rest.trans written)
      rw [read] at rest
      exact step.worded rest
  | case5 => exact .silent rfl

end

/-- The tokens of a query meet its wording, and so does the complaint if there are none. -/
theorem yields_ofText (query : String) :
    Yields (.ofText query.toList) (Token.ofText query) (Worded (.ofText query.toList) false) :=
  yields_scanFrom List.suffix_rfl

end ProfileAudit.Query
