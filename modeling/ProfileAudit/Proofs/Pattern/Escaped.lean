import ProfileAudit.Proofs.Pattern.Anchored

/-!
# Choices between escaped texts

An escaped text is read as a sequence of literal characters, whatever stands behind it: a
character with a meaning of its own stands behind a backslash, which takes that meaning away, and
all others have none. So the bars between escaped texts are the only ones, and the whole is read
as the choice between the texts. It spans exactly those texts (`piece?_anyOf`).
-/

namespace ProfileAudit.Pattern

/-- The pattern that spans each of some texts. -/
def anyOf (texts : List String) : String := "|".intercalate (texts.map escaped)

/-- The characters of an escaped text. -/
def escapedChars (cs : List Char) : List Char :=
  cs.flatMap fun c => if isMeta c then ['\\', c] else [c]

/-- The part that a character stands for by itself. -/
def literal (c : Char) : Piece := ⟨.one (.one c), 0, true⟩

/-! ## Reading -/

/-- A backslash takes its meaning from a character that has one. -/
theorem escape_meta {c : Char} (special : isMeta c = true) (f : Flags) (s : List Char) :
    escape f (c :: s) = some (.literal c false, s) := by
  have escapable : isEscapable c = true := by rw [isEscapable, special, Bool.true_or]
  unfold escape
  dsimp only
  split
  -- the letters and brackets that mean something behind a backslash mean nothing without it
  iterate 23 cases special
  exact if_pos escapable

/-- A character without a meaning stands for itself. -/
theorem readPart_ordinary {c : Char} (ordinary : isMeta c = false) {r : Reading}
    (default : r.flags = {}) (s : List Char) :
    readPart r c s = some (r.push (literal c), s) := by
  unfold readPart
  split
  iterate 12 cases ordinary
  rw [default]
  rfl

theorem readParts_literal (c : Char) {r : Reading} (default : r.flags = {}) (s : List Char) :
    readParts r ((if isMeta c then ['\\', c] else [c]) ++ s) =
      readParts (r.push (literal c)) s := by
  have plain : r.flags.freeLayout = false := by rw [default]
  split
  · next special =>
      have part : readPart r '\\' (c :: s) = some (r.push (literal c), s) := by
        simp only [readPart, escape_meta special, default]
        rfl
      exact (readParts_plain plain '\\' (c :: s)).trans (by rw [part]; rfl)
  · next ordinary =>
      have part := readPart_ordinary (Bool.not_eq_true _ ▸ ordinary) default s
      exact (readParts_plain plain c s).trans (by rw [part]; rfl)

/-- An escaped text is read as its characters. -/
theorem readParts_escapedChars (cs : List Char) {r : Reading} (default : r.flags = {})
    (s : List Char) : readParts r (escapedChars cs ++ s) =
      readParts { r with
        level := { r.level with pieces := (cs.map literal).reverse ++ r.level.pieces } } s := by
  induction cs generalizing r with
  | nil => rfl
  | cons c cs ih =>
      have chars : escapedChars (c :: cs) ++ s =
          (if isMeta c then ['\\', c] else [c]) ++ (escapedChars cs ++ s) := by
        rw [escapedChars, List.flatMap_cons, List.append_assoc]
        rfl
      have later : (r.push (literal c)).flags = {} := default
      rw [chars, readParts_literal c default, ih later, List.map_cons, List.reverse_cons,
        List.append_assoc]
      rfl

/-- The level of a text after which others may come. -/
def spelled (branches : List Piece) (cs : List Char) : Level :=
  ⟨branches, (cs.map literal).reverse⟩

/-- The level of the choice between some texts, of which there is at least one. -/
def alternatives (branches : List Piece) (cs : List Char) : List (List Char) → Level
  | [] => spelled branches cs
  | cs' :: more => alternatives ((spelled [] cs).sequence :: branches) cs' more

/-- Escaped texts between bars are read as the choice between them. -/
theorem readParts_alternatives (cs : List Char) (more : List (List Char)) (branches : List Piece)
    (s : List Char) : readParts { level := ⟨branches, []⟩ }
        (['|'].intercalate ((cs :: more).map escapedChars) ++ s) =
      readParts { level := alternatives branches cs more } s := by
  induction more generalizing cs branches with
  | nil =>
      rw [List.map_singleton, List.intercalate_singleton, readParts_escapedChars cs rfl,
        List.append_nil]
      rfl
  | cons cs' more ih =>
      rw [List.map_cons, List.map_cons, List.intercalate_cons_cons, List.append_assoc,
        List.append_assoc, readParts_escapedChars cs rfl, List.append_nil, List.singleton_append,
        readParts_plain rfl]
      exact ih cs' ((spelled [] cs).sequence :: branches)

/-! ## Spans -/

/-- The characters stand in a text from one position to another. -/
def Stands (text : Array Char) : List Char → Nat → Nat → Prop
  | [], i, j => i = j
  | c :: cs, i, j => text[i]? = some c ∧ Stands text cs (i + 1) j

theorem stands_append {text : Array Char} {cs ds : List Char} {i j : Nat} :
    Stands text (cs ++ ds) i j ↔ ∃ k, Stands text cs i k ∧ Stands text ds k j := by
  induction cs generalizing i with
  | nil => simp [Stands]
  | cons c cs ih =>
      simp only [List.cons_append, Stands, ih, and_assoc, exists_and_left]

theorem stands_iff {text : Array Char} {cs : List Char} {i : Nat} (inside : i ≤ text.size) :
    Stands text cs i text.size ↔ text.toList.drop i = cs := by
  induction cs generalizing i with
  | nil =>
      rw [Stands, List.drop_eq_nil_iff, Array.length_toList]
      omega
  | cons c cs ih =>
      rw [Stands, ← Array.getElem?_toList]
      constructor
      · intro h
        rcases h with ⟨here, rest⟩
        obtain ⟨before, found⟩ := List.getElem?_eq_some_iff.mp here
        rw [List.drop_eq_getElem_cons before, found, (ih before).mp rest]
      · intro same
        have before : i < text.toList.length := by
          refine Nat.lt_of_not_le fun past => ?_
          rw [List.drop_eq_nil_iff.mpr past] at same
          cases same
        rw [List.drop_eq_getElem_cons before] at same
        injection same with here rest
        exact ⟨List.getElem?_eq_some_iff.mpr ⟨before, here⟩, (ih before).mpr rest⟩

theorem mem_one_iff {c d : Char} : (CharSet.one c).mem d = true ↔ d = c := by
  rw [CharSet.one, CharSet.mem, Bool.and_eq_true, decide_eq_true_eq, decide_eq_true_eq]
  constructor
  · intro h
    exact Char.le_antisymm h.2 h.1
  · intro same
    subst same
    exact ⟨Char.le_refl d, Char.le_refl d⟩

variable {text : Array Char} {i j : Nat}

theorem spans_literal {c : Char} :
    (literal c).pattern.Spans text i j ↔ j = i + 1 ∧ text[i]? = some c := by
  refine and_congr_right fun _ => ?_
  simp only [mem_one_iff, exists_eq_right]

/-- A sequence of literal characters before another pattern. -/
theorem spans_literals {cs : List Char} {tail : Pattern} :
    ((cs.map literal).reverse.foldl (fun tail q => .seq q.pattern tail) tail).Spans text i j ↔
      ∃ k, Stands text cs i k ∧ tail.Spans text k j := by
  induction cs generalizing i with
  | nil => simp [Stands]
  | cons c cs ih =>
      rw [List.map_cons, List.reverse_cons, List.foldl_append, List.foldl_cons, List.foldl_nil]
      constructor
      · intro h
        rcases h with ⟨k, first, rest⟩
        obtain ⟨rfl, here⟩ := spans_literal.mp first
        obtain ⟨l, stands, last⟩ := ih.mp rest
        exact ⟨l, ⟨here, stands⟩, last⟩
      · intro h
        rcases h with ⟨l, ⟨here, stands⟩, last⟩
        exact ⟨i + 1, spans_literal.mpr ⟨rfl, here⟩, ih.mpr ⟨l, stands, last⟩⟩

theorem Level.sequence_pattern (branches pieces : List Piece) (p : Piece) :
    (Level.sequence ⟨branches, p :: pieces⟩).pattern =
      pieces.foldl (fun tail q => .seq q.pattern tail) p.pattern := by
  cases pieces <;> rfl

/-- The text of a level spans itself. -/
theorem spans_spelled {branches : List Piece} {cs : List Char} :
    (spelled branches cs).sequence.pattern.Spans text i j ↔ Stands text cs i j := by
  rcases List.eq_nil_or_concat cs with rfl | ⟨front, c, rfl⟩
  · exact Iff.rfl
  · rw [List.concat_eq_append, spelled, List.map_append, List.reverse_append, List.map_singleton,
      List.reverse_singleton, List.singleton_append, Level.sequence_pattern, spans_literals,
      stands_append]
    refine exists_congr fun k => and_congr_right fun _ => ?_
    rw [spans_literal, and_comm, eq_comm (a := j)]
    exact Iff.rfl

theorem Level.choice_pattern (l : Level) : l.choice.pattern =
    l.branches.foldl (fun right b => .either b.pattern right) l.sequence.pattern := by
  obtain ⟨branches, pieces⟩ := l
  cases branches <;> rfl

/-- A choice spans what one of its branches spans. -/
theorem spans_choices {branches : List Piece} {last : Pattern} :
    (branches.foldl (fun right b => .either b.pattern right) last).Spans text i j ↔
      (∃ b ∈ branches, b.pattern.Spans text i j) ∨ last.Spans text i j := by
  induction branches generalizing last with
  | nil => simp
  | cons b branches ih =>
      simp only [List.foldl_cons, ih, List.mem_cons, exists_eq_or_imp, or_assoc]
      exact or_left_comm

theorem spans_alternatives {branches : List Piece} {cs : List Char} {more : List (List Char)} :
    (alternatives branches cs more).choice.pattern.Spans text i j ↔
      (∃ b ∈ branches, b.pattern.Spans text i j) ∨ ∃ t ∈ cs :: more, Stands text t i j := by
  induction more generalizing branches cs with
  | nil =>
      rw [alternatives, Level.choice_pattern, spans_choices, spans_spelled]
      simp [spelled]
  | cons cs' more ih =>
      rw [alternatives, ih]
      simp only [List.mem_cons, exists_eq_or_imp, spans_spelled, or_assoc]
      exact or_left_comm

/-! ## Depth -/

theorem Level.deepest_le {pieces : List Piece} {n : Nat} (bound : ∀ p ∈ pieces, p.depth ≤ n) :
    deepest pieces ≤ n := by
  have from_start (start : Nat) (le : start ≤ n) :
      (pieces.map (·.depth)).foldl max start ≤ n := by
    induction pieces generalizing start with
    | nil => exact le
    | cons p pieces ih =>
        have first := bound p List.mem_cons_self
        exact ih (fun q member => bound q (List.mem_cons_of_mem _ member)) _
          (Nat.max_le.mpr ⟨le, first⟩)
  exact from_start 0 (Nat.zero_le n)

theorem depth_spelled (branches : List Piece) (cs : List Char) :
    (spelled branches cs).sequence.depth ≤ 1 := by
  have flat : ∀ p ∈ (cs.map literal).reverse, p.depth ≤ 0 := by
    intro p member
    obtain ⟨c, -, rfl⟩ := List.mem_map.mp (List.mem_reverse.mp member)
    exact Nat.le_refl 0
  unfold spelled Level.sequence
  split
  · exact Nat.zero_le 1
  · next p single =>
      have single : (cs.map literal).reverse = [p] := single
      have := flat p (single ▸ List.mem_singleton_self p)
      omega
  · have := Level.deepest_le flat
    dsimp only
    omega

theorem Level.depth_choice_le {l : Level} {n : Nat} (bound : ∀ b ∈ l.branches, b.depth ≤ n)
    (last : l.sequence.depth ≤ n) : l.choice.depth ≤ n + 1 := by
  unfold choice
  split
  · exact Nat.le_succ_of_le last
  · have := deepest_le (List.forall_mem_cons.mpr ⟨last, bound⟩)
    dsimp only
    omega

theorem depth_alternatives {branches : List Piece} (bound : ∀ b ∈ branches, b.depth ≤ 1)
    (cs : List Char) (more : List (List Char)) :
    (alternatives branches cs more).choice.depth ≤ 2 := by
  induction more generalizing branches cs with
  | nil => exact Level.depth_choice_le bound (depth_spelled branches cs)
  | cons cs' more ih => exact ih (List.forall_mem_cons.mpr ⟨depth_spelled [] cs, bound⟩) cs'

/-! ## The choice between some texts -/

theorem toList_anyOf (texts : List String) : (anyOf texts).toList =
    ['|'].intercalate ((texts.map String.toList).map escapedChars) := by
  rw [anyOf, String.toList_intercalate, List.map_map, List.map_map]
  congr 1
  refine List.map_congr_left fun t _ => ?_
  rw [Function.comp_apply, Function.comp_apply, escaped, String.toList_ofList, escapedChars]

/-- Escaped texts between bars are a flat pattern, with no comment at its end, that spans
exactly these texts. -/
structure Chooses (regex : String) (texts : List String) (p : Piece) : Prop where
  read : piece? regex = some p
  closed : ¬ EndsInComment regex
  flat : p.depth ≤ 2
  spans : ∀ text, p.pattern.SpansAll text ↔ text ∈ texts

theorem exists_chooses_cons (t : String) (ts : List String) :
    ∃ p, Chooses (anyOf (t :: ts)) (t :: ts) p := by
  have read (s : List Char) : readParts {} ((anyOf (t :: ts)).toList ++ s) =
      readParts { level := alternatives [] t.toList (ts.map String.toList) } s := by
    rw [toList_anyOf, List.map_cons]
    exact readParts_alternatives t.toList (ts.map String.toList) [] s
  have none_before : ∀ b ∈ ([] : List Piece), b.depth ≤ 1 := fun b member =>
    absurd member List.not_mem_nil
  refine ⟨(alternatives [] t.toList (ts.map String.toList)).choice,
    piece?_eq_some.mpr ⟨{ level := alternatives [] t.toList (ts.map String.toList) }, ?_, rfl, rfl⟩,
    fun ends => ?_, depth_alternatives none_before t.toList _, fun text => ?_⟩
  · rw [← List.append_nil (anyOf (t :: ts)).toList, read []]
    exact readParts_nil rfl
  · have refused : piece? (anyOf (t :: ts) ++ ")") = none := by
      rw [piece?, toList_parenthesis, read, readParts_unopened rfl (skip_closing {} [])]
      rfl
    rw [EndsInComment, refused] at ends
    cases ends.2
  · have whole (s : String) : Stands text.toList.toArray s.toList 0 text.toList.toArray.size ↔
        text = s := (stands_iff (Nat.zero_le _)).trans String.toList_inj
    rw [SpansAll, spans_alternatives, ← List.map_cons]
    constructor
    · intro h
      rcases h with ⟨b, before, -⟩ | ⟨_, listed, stands⟩
      · cases before
      · obtain ⟨s, member, rfl⟩ := List.mem_map.mp listed
        exact (whole s).mp stands ▸ member
    · intro member
      exact .inr ⟨_, List.mem_map_of_mem member, (whole text).mpr rfl⟩

/-- **The choice between some texts spans exactly these**; between none of them it spans the
empty text. -/
theorem exists_chooses (texts : List String) :
    ∃ p, Chooses (anyOf texts) (if texts = [] then [""] else texts) p := by
  cases texts with
  | nil => exact exists_chooses_cons "" []
  | cons t ts => exact exists_chooses_cons t ts

/-! ## Between the anchors -/

theorem Chooses.isValid {regex : String} {texts : List String} {p : Piece}
    (chooses : Chooses regex texts p) : isValid regex = true := by
  have shallow : p.depth ≤ depthLimit := Nat.le_trans chooses.flat (by decide)
  rw [Pattern.isValid, ofText?_eq, chooses.read, Option.bind_some, if_pos shallow]
  rfl

theorem Chooses.ofText?_anchored {regex : String} {texts : List String} {p : Piece}
    (chooses : Chooses regex texts p) :
    ofText? (anchored regex) = some (whole p.pattern) := by
  rcases anchored_cases chooses.read with ⟨-, between⟩ | ⟨comment, -⟩
  · have shallow : p.depth + 2 ≤ depthLimit :=
      Nat.le_trans (Nat.add_le_add_right chooses.flat 2) (by decide)
    rw [ofText?_eq, between, Option.bind_some, if_pos shallow]
  · exact absurd comment chooses.closed

/-- Between the anchors it is found in exactly these texts. -/
theorem Chooses.isFoundIn {regex : String} {texts : List String} {p : Piece}
    (chooses : Chooses regex texts p) (text : String) :
    (whole p.pattern).isFoundIn text = true ↔ text ∈ texts :=
  isFoundIn_whole.trans (chooses.spans text)

/-- A group around it makes no difference: it is a pattern, and the same one between the
anchors. -/
theorem Chooses.isValid_group {regex : String} {texts : List String} {p : Piece}
    (chooses : Chooses regex texts p) : Pattern.isValid ("(" ++ regex ++ ")") = true := by
  have shallow : p.depth + 1 ≤ depthLimit :=
    Nat.le_trans (Nat.add_le_add_right chooses.flat 1) (by decide)
  rw [Pattern.isValid, ofText?_eq, piece?_group chooses.read chooses.closed, Option.bind_some,
    if_pos shallow]
  rfl

theorem Chooses.ofText?_anchored_group {regex : String} {texts : List String} {p : Piece}
    (chooses : Chooses regex texts p) :
    ofText? (anchored ("(" ++ regex ++ ")")) = some (whole p.pattern) := by
  rcases anchored_cases chooses.read with ⟨-, between⟩ | ⟨comment, -⟩
  · have shallow : p.depth + 3 ≤ depthLimit :=
      Nat.le_trans (Nat.add_le_add_right chooses.flat 3) (by decide)
    rw [ofText?_eq, piece?_anchored_group chooses.read, between, Option.map_some, Option.bind_some]
    exact if_pos shallow
  · exact absurd comment chooses.closed

end ProfileAudit.Pattern
