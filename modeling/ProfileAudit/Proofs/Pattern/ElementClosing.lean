import ProfileAudit.Pattern.Element
import ProfileAudit.Proofs.Pattern.Closing

/-!
# Elements of a closed text

The readers of the smallest elements are tame, with one exception. After `\b` an opening
brace belongs to the name of a boundary or to a repetition, and the character behind it says
which; where the text ends with the brace, it is the closing parenthesis that says so
(`Hanging`). What is read then is a boundary before a brace that begins no repetition, so the
closed text is refused at the brace.
-/

namespace ProfileAudit.Pattern

variable {f : Flags}

/-! ## Up to a brace -/

/-- Reads accepted characters up to a closing brace. -/
def upToBrace (f : Flags) (accepts : Char → Bool) :
    Nat → List Char → Option (List Char × List Char)
  | 0, _ => none
  | _, [] => none
  | fuel + 1, c :: rest =>
    if c = '\x7d' then some ([], rest)
    else if accepts c then
      (upToBrace f accepts fuel (f.skip rest)).map fun p => (c :: p.1, p.2)
    else none

theorem braced_eq (fuel : Nat) (s : List Char) :
    braced f fuel s = upToBrace f (fun _ => true) fuel s := by
  induction fuel generalizing s with
  | zero => rfl
  | succ fuel ih =>
      cases s with
      | nil => rfl
      | cons c rest =>
          simp only [braced, upToBrace, ih, if_true]
          split
          · rfl
          · cases upToBrace f (fun _ => true) fuel (f.skip rest) <;> rfl

theorem boundaryName_eq (fuel : Nat) (s : List Char) :
    boundaryName f fuel s = upToBrace f isBoundaryChar fuel s := by
  induction fuel generalizing s with
  | zero => rfl
  | succ fuel ih =>
      cases s with
      | nil => rfl
      | cons c rest =>
          simp only [boundaryName, upToBrace, ih]
          split
          · rfl
          · split
            · cases upToBrace f isBoundaryChar fuel (f.skip rest) <;> rfl
            · rfl

section

variable {accepts : Char → Bool}

theorem upToBrace_suffix {fuel : Nat} {s name rest : List Char}
    (took : upToBrace f accepts fuel s = some (name, rest)) : rest <:+ s := by
  induction fuel generalizing s name with
  | zero => cases took
  | succ fuel ih =>
      cases s with
      | nil => cases took
      | cons c s =>
          rw [upToBrace.eq_3] at took
          split at took
          · cases took
            exact List.suffix_cons c _
          · split at took
            · obtain ⟨⟨inner, rest'⟩, took', same⟩ := Option.map_eq_some_iff.mp took
              cases same
              exact (ih took').trans ((f.skip_suffix s).trans (List.suffix_cons c s))
            · cases took

/-- More fuel than the text has characters makes no difference. -/
theorem upToBrace_fuel {m n : Nat} {s : List Char} (hm : s.length < m) (hn : s.length < n) :
    upToBrace f accepts m s = upToBrace f accepts n s := by
  induction m generalizing n s with
  | zero => omega
  | succ m ih =>
      obtain ⟨n, rfl⟩ : ∃ k, n = k + 1 := ⟨n - 1, by omega⟩
      cases s with
      | nil => rfl
      | cons c rest =>
          have shorter := f.length_skip_le rest
          rw [List.length_cons] at hm hn
          rw [upToBrace, upToBrace, ih (n := n) (by omega) (by omega)]

theorem tame_upToBrace : Tame fun s => upToBrace f accepts s.length.succ s := by
  refine Tame.of_append fun s => ?_
  induction n : s.length using Nat.strongRecOn generalizing s with
  | ind n ih =>
      subst n
      cases s with
      | nil =>
          refine .refused fun t _ a rest took => ?_
          rw [List.nil_append, upToBrace, if_neg (by decide)] at took
          split at took
          · obtain ⟨⟨inner, rest'⟩, took', same⟩ := Option.map_eq_some_iff.mp took
            cases same
            exact (upToBrace_suffix took').trans (f.skip_suffix t)
          · cases took
      | cons c s =>
          have shorter := f.length_skip_le s
          simp only [List.cons_append, List.length_cons, upToBrace]
          split
          · exact (Alike.pure (.append s)).of_suffix (List.suffix_cons c s)
          · split
            · have inner := ih (f.skip s).length (by rw [List.length_cons]; omega) (f.skip s) rfl
              have inner := Alike.of_behind (fun s => upToBrace f accepts s.length.succ s) inner
                ((Behind.append s).skip f)
              have inner := (inner.of_suffix (f.skip_suffix s)).of_suffix (List.suffix_cons c s)
              rw [upToBrace_fuel (n := (f.skip s).length.succ) (by omega) (by omega)]
              refine (inner.map (f := fun name => c :: name)).congr fun t _ => ?_
              have shorter := f.length_skip_le (s ++ ')' :: t)
              rw [upToBrace_fuel (n := (f.skip (s ++ ')' :: t)).length.succ) (by omega) (by omega)]
            · exact .none

end

/-- The characters up to the closing brace, as hexadecimal escapes and properties read
them. -/
theorem tame_braced : Tame fun s => braced f s.length.succ (f.skip s) := by
  intro s s' behind
  have enough : ∀ s : List Char, braced f s.length.succ (f.skip s) =
      upToBrace f (fun _ => true) (f.skip s).length.succ (f.skip s) := by
    intro s
    have shorter := f.length_skip_le s
    rw [braced_eq, upToBrace_fuel (by omega) (Nat.lt_succ_self _)]
  dsimp only
  rw [enough]
  exact (tame_upToBrace.skip f s s' behind).congr fun t _ => enough (s' t)

/-! ## Escapes -/

theorem tame_hexDigits_cons (n value : Nat) (c : Char) :
    Tame fun s => hexDigits f (n + 1) value (c :: s) := by
  induction n generalizing value c with
  | zero => exact fun s s' behind => .bind_const fun d => Tame.skip f (Tame.pure _) s s' behind
  | succ n ih =>
      have digits (value : Nat) : Tame (hexDigits f (n + 1) value) :=
        Tame.of_head rfl (fun _ _ => rfl) fun c => ih value c
      exact fun s s' behind => .bind_const fun d => (digits _).skip f s s' behind

/-- The character that the digits between braces write. -/
def digitsCharacter? (cs : List Char) : Option Char :=
  if cs.isEmpty then none else (Hex.value? cs).bind Hex.character?

/-- What a hexadecimal escape is once the blanks are dropped. -/
def hexBody (f : Flags) (digits : Nat) (c : Char) (rest : List Char) :
    Option (Element × List Char) :=
  if c = '\x7b' then
    (braced f rest.length.succ (f.skip rest)).bind fun p =>
      (digitsCharacter? p.1).map fun c => (.literal c false, f.skip p.2)
  else
    (hexDigits f digits 0 (c :: rest)).bind fun p =>
      (Hex.character? p.1).map fun c => (.literal c (digits == 2), p.2)

theorem hexEscape_cons {digits : Nat} {s rest : List Char} {c : Char} (h : f.skip s = c :: rest) :
    hexEscape f digits s = hexBody f digits c rest := by
  unfold hexEscape hexBody
  rw [h]
  split
  · next same =>
      cases same
      rw [if_pos rfl]
      refine Option.bind_congr fun p _ => ?_
      dsimp only
      unfold digitsCharacter?
      cases empty : p.1.isEmpty with
      | true => rfl
      | false =>
          rw [if_neg Bool.false_ne_true, if_neg Bool.false_ne_true, Option.map_eq_bind,
            Option.bind_assoc]
          rfl
  · next brace =>
      rw [if_neg (fun h => brace rest (by rw [h]))]
      refine Option.bind_congr fun p _ => ?_
      exact (Option.map_eq_bind ..).symm
theorem tame_hexEscape (n : Nat) : Tame (hexEscape f (n + 1)) := by
  refine Tame.of_head_skip f (fun s h => ?_) (fun s c rest h => hexEscape_cons h) fun c => ?_
  · unfold hexEscape
    rw [h]
    rfl
  · by_cases brace : c = '\x7b'
    · simp only [hexBody, if_pos brace]
      refine tame_braced.bind fun cs => ?_
      dsimp only
      exact Tame.value_skip f _ fun c => Element.literal c false
    · simp only [hexBody, if_neg brace]
      refine (tame_hexDigits_cons n 0 c).bind fun value => ?_
      dsimp only
      exact Tame.value _ fun c => Element.literal c _

/-- The set that an escape for a property stands for. -/
def propertyElement? (f : Flags) (negated : Bool) (found : Option (CharSet × Bool)) :
    Option Element :=
  found.bind fun p => if f.unicode then some (.set (settle f (negated != p.2) p.1)) else none

/-- What an escape for a property is once the blanks are dropped. -/
def propertyBody (f : Flags) (negated : Bool) (c : Char) (rest : List Char) :
    Option (Element × List Char) :=
  if c = '\\' then none
  else if c = '\x7b' then
    (braced f rest.length.succ (f.skip rest)).bind fun p =>
      (propertyElement? f negated (namedSet? p.1)).map fun e => (e, p.2)
  else
    (propertyElement? f negated ((property? c.toString).map (·, false))).map
      fun e => (e, f.skip rest)

theorem propertyEscape_cons {negated : Bool} {s rest : List Char} {c : Char}
    (h : f.skip s = c :: rest) :
    propertyEscape f negated s = propertyBody f negated c rest := by
  have settled : ∀ (found : Option (CharSet × Bool)) (s : List Char),
      (found.bind fun p => if f.unicode then
        some (Element.set (settle f (negated != p.2) p.1), s) else none) =
      (propertyElement? f negated found).map fun e => (e, s) := by
    intro found s
    cases found with
    | none => rfl
    | some p =>
        simp only [propertyElement?, Option.bind_some]
        split <;> rfl
  unfold propertyEscape propertyBody
  rw [h]
  dsimp only
  split
  · next same => cases same
  · next same =>
      cases same
      rfl
  · next same =>
      cases same
      rw [if_neg (by decide), if_pos rfl]
      exact Option.bind_congr fun p _ => settled _ _
  · next backslash brace same =>
      cases same
      rw [if_neg backslash, if_neg brace, ← settled]
      simp only [Option.pure_def, Option.bind_eq_bind, Option.bind_some]

theorem tame_propertyEscape (negated : Bool) : Tame (propertyEscape f negated) := by
  refine Tame.of_head_skip f (fun s h => ?_) (fun s c rest h => propertyEscape_cons h) fun c => ?_
  · unfold propertyEscape
    rw [h]
    rfl
  · unfold propertyBody
    by_cases backslash : c = '\\'
    · simp only [if_pos backslash]
      exact Tame.none
    · by_cases brace : c = '\x7b'
      · simp only [if_neg backslash, if_pos brace]
        refine tame_braced.bind fun name => ?_
        dsimp only
        exact Tame.value _ fun e => e
      · simp only [if_neg backslash, if_neg brace]
        exact Tame.value_skip f _ fun e => e

/-- The kinds of word boundaries, by name. -/
def boundaryKind? (f : Flags) (name : List Char) : Option Element :=
  match String.ofList name with
  | "start" => some (.look (.wordStart f.unicode))
  | "end" => some (.look (.wordEnd f.unicode))
  | "start-half" => some (.look (.wordStartHalf f.unicode))
  | "end-half" => some (.look (.wordEndHalf f.unicode))
  | _ => none

/-- The text ends with an opening brace and perhaps blanks and comments. -/
def Hanging (f : Flags) (s : List Char) : Prop := ∃ rest, s = '\x7b' :: rest ∧ f.skip rest = []

/-- The boundary that a bare `\b` stands for. -/
def plainBoundary (f : Flags) : Element := .look (.boundary f.unicode)

theorem boundaryEscape_plain {s : List Char} (h : ∀ rest, s ≠ '\x7b' :: rest) :
    boundaryEscape f s = some (plainBoundary f, s) := by
  unfold boundaryEscape
  split
  · next rest => exact absurd rfl (h rest)
  · rfl

theorem boundaryEscape_brace {rest more : List Char} {c : Char} (h : f.skip rest = c :: more) :
    boundaryEscape f ('\x7b' :: rest) =
      if isBoundaryChar c then
        (upToBrace f isBoundaryChar (c :: more).length.succ (c :: more)).bind fun p =>
          (boundaryKind? f p.1).map fun e => (e, p.2)
      else some (plainBoundary f, '\x7b' :: rest) := by
  simp only [boundaryEscape, h]
  split
  · rw [boundaryName_eq]
    refine Option.bind_congr fun p _ => ?_
    unfold boundaryKind?
    split <;> simp [*]
  · rfl

theorem boundaryEscape_alike {s : List Char} (stands : ¬ Hanging f s) :
    Alike s (boundaryEscape f s) fun t => boundaryEscape f (s ++ ')' :: t) := by
  cases s with
  | nil =>
      refine (Alike.pure (.append [])).congr fun t _ => ?_
      exact boundaryEscape_plain fun rest => by simp
  | cons c s =>
      by_cases brace : c = '\x7b'
      · subst brace
        cases behind : f.skip s with
        | nil => exact absurd ⟨s, rfl, behind⟩ stands
        | cons d more =>
            rw [boundaryEscape_brace behind]
            have same (t : List Char) := boundaryEscape_brace (skip_append behind t)
            refine Alike.congr ?_ fun t _ => same t
            split
            · have suffix : d :: more <:+ '\x7b' :: s :=
                (behind ▸ f.skip_suffix s).trans (List.suffix_cons '\x7b' s)
              refine (Alike.bind (tame_upToBrace _ _ (.append (d :: more))) fun name => ?_).of_suffix suffix
              dsimp only
              exact Tame.value _ fun e => e
            · exact Alike.pure (.append ('\x7b' :: s))
      · rw [boundaryEscape_plain fun rest h => brace (List.cons.inj h).1]
        refine (Alike.pure (.append (c :: s))).congr fun t _ => ?_
        exact boundaryEscape_plain fun rest h => brace (List.cons.inj h).1

/-- Where the text ends with the brace, what is read from the closed text is a boundary
before the brace. -/
theorem boundaryEscape_hanging {s : List Char} (hanging : Hanging f s) :
    boundaryEscape f s = none ∧ ∀ t, Ending t → ∀ e rest,
      boundaryEscape f (s ++ ')' :: t) = some (e, rest) →
        e = plainBoundary f ∧ ∃ more, rest = '\x7b' :: more ∧ f.skip more = ')' :: t := by
  obtain ⟨s, rfl, used⟩ := hanging
  refine ⟨by simp only [boundaryEscape, used], fun t ht e rest took => ?_⟩
  have behind := (Behind.append s).skip f
  rw [used] at behind
  cases behind with
  | closed h =>
      have closed : f.skip (s ++ ')' :: t) = ')' :: t := h t
      rw [List.cons_append, boundaryEscape_brace closed, if_neg (by decide)] at took
      cases took
      exact ⟨rfl, _, rfl, closed⟩
  | comment _ h =>
      have closed : f.skip (s ++ ')' :: t) = [] := h t ht
      simp only [List.cons_append, boundaryEscape, closed] at took
      cases took

theorem tame_classEscape (negated : Bool) (set : CharSet) : Tame (classEscape f negated set) := by
  unfold classEscape
  cases negated with
  | false => exact Tame.pure _
  | true =>
      cases f.unicode with
      | false => exact Tame.none
      | true => exact Tame.pure _

/-- Escapes but that for a boundary. -/
theorem tame_escape_cons {c : Char} (noBoundary : c ≠ 'b') : Tame fun s => escape f (c :: s) := by
  intro s s' behind
  have literal (c : Char) := Tame.pure (Element.literal c false) s s' behind
  have look (place : Look) := Tame.pure (Element.look place) s s' behind
  simp only [escape]
  split
  case h_1 => exact tame_hexEscape 1 s s' behind
  case h_2 => exact tame_hexEscape 3 s s' behind
  case h_3 => exact tame_hexEscape 7 s s' behind
  case h_4 => exact tame_propertyEscape false s s' behind
  case h_5 => exact tame_propertyEscape true s s' behind
  case h_6 => exact tame_classEscape false _ s s' behind
  case h_7 => exact tame_classEscape true _ s s' behind
  case h_8 => exact tame_classEscape false _ s s' behind
  case h_9 => exact tame_classEscape true _ s s' behind
  case h_10 => exact tame_classEscape false _ s s' behind
  case h_11 => exact tame_classEscape true _ s s' behind
  case h_20 => exact absurd rfl noBoundary
  case h_24 =>
    split
    · exact literal c
    · exact .none
  case h_18 | h_19 | h_21 | h_22 | h_23 => exact look _
  all_goals exact literal _

/-- What follows a backslash, unless it is a boundary before a hanging brace. -/
theorem escape_alike {s : List Char} (stands : ∀ u, s = 'b' :: u → ¬ Hanging f u) :
    Alike s (escape f s) fun t => escape f (s ++ ')' :: t) := by
  cases s with
  | nil =>
      refine .refused fun t _ e rest took => ?_
      exact (tame_escape_cons (by decide)).suffix took
  | cons c s =>
      refine Alike.of_suffix ?_ (List.suffix_cons c s)
      by_cases boundary : c = 'b'
      · subst boundary
        exact boundaryEscape_alike (stands s rfl)
      · exact tame_escape_cons boundary s _ (.append s)

theorem escape_suffix {s rest : List Char} {e : Element} (took : escape f s = some (e, rest)) :
    rest <:+ s := by
  by_cases hangs : ∃ u, s = 'b' :: u ∧ Hanging f u
  · obtain ⟨u, rfl, hanging⟩ := hangs
    have refused : escape f ('b' :: u) = none := (boundaryEscape_hanging hanging).1
    rw [refused] at took
    cases took
  · have alike := escape_alike (f := f) (s := s) fun u same hanging => hangs ⟨u, same, hanging⟩
    rw [took] at alike
    exact alike.suffix

end ProfileAudit.Pattern
