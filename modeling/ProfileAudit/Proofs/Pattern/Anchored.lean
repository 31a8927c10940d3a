import ProfileAudit.Proofs.Pattern.Spans
import ProfileAudit.Proofs.Pattern.TextClosing

/-!
# Anchored patterns

The text of a pattern is put between `^(?:` and `)$`. If the text writes down a pattern, the
anchored text writes down one that is found in exactly those texts which the pattern spans, and
if the text is refused, so is the anchored one. There are two exceptions. A text that ends with
a comment is refused when it is anchored. And a text that closes a group it did not open may be
a pattern when it is anchored, for the group it closes is then there.
-/

namespace ProfileAudit.Pattern

/-! ## Without the limit -/

/-- The pattern that a text writes down, however deep it nests. -/
def piece? (text : String) : Option Piece := (readParts {} text.toList).bind Reading.finish?

/-- A text that is not refused for its depth. -/
def Shallow (text : String) : Prop := ∀ p, piece? text = some p → p.depth ≤ depthLimit

theorem ofText?_eq (text : String) : ofText? text =
    (piece? text).bind fun p => if p.depth ≤ depthLimit then some p.pattern else none := by
  unfold ofText? piece?
  rw [Option.bind_assoc]
  rfl

theorem Shallow.ofText? {text : String} (shallow : Shallow text) :
    ofText? text = (piece? text).map (·.pattern) := by
  rw [ofText?_eq]
  cases read : piece? text with
  | none => rfl
  | some p => exact if_pos (shallow p read)

theorem shallow_iff {text : String} :
    Shallow text ↔ (piece? text).all (fun p => decide (p.depth ≤ depthLimit)) = true := by
  unfold Shallow
  cases piece? text with
  | none => simp
  | some p => simp

theorem Shallow.isValid_iff {text : String} (shallow : Shallow text) :
    isValid text = true ↔ ∃ p, piece? text = some p := by
  rw [isValid, shallow.ofText?, Option.isSome_map, Option.isSome_iff_exists]

theorem piece?_eq_some {text : String} {p : Piece} : piece? text = some p ↔
    ∃ r, readParts {} text.toList = some r ∧ r.outer = [] ∧ r.level.choice = p := by
  unfold piece? Reading.finish?
  rw [Option.bind_eq_some_iff]
  refine exists_congr fun r => and_congr_right fun _ => ?_
  cases r.outer <;> simp

/-- The text is a pattern that ends inside a comment: even with a closing parenthesis behind
it, it is one. -/
def EndsInComment (text : String) : Prop :=
  (piece? text).isSome = true ∧ (piece? (text ++ ")")).isSome = true

/-- The text closes a group that it did not open. -/
def ClosesForeign (text : String) : Prop := ClosesAround {} text.toList

/-! ## Inside the anchors -/

/-- The group that is open behind the first anchor, and what stands before it. -/
def anchors : List (Level × Flags) := [(⟨[], [⟨.look .start, 0, true⟩]⟩, {})]

theorem ending_anchor : Ending ['$'] := by
  intro c member
  exact .inr (List.mem_singleton.mp member)

theorem toList_anchored (text : String) :
    (anchored text).toList = '^' :: '(' :: '?' :: ':' :: (text.toList ++ [')', '$']) := by
  simp [anchored, String.toList_append]

/-- Without free layout nothing is dropped. -/
theorem readParts_plain {r : Reading} (plain : r.flags.freeLayout = false) (c : Char)
    (s : List Char) :
    readParts r (c :: s) = (readPart r c s).bind fun p => readParts p.1 p.2 := by
  refine readParts_cons ?_
  unfold Flags.skip
  rw [plain]
  rfl

theorem readParts_anchored (text : String) : readParts {} (anchored text).toList =
    readParts (Reading.below {} anchors) (text.toList ++ [')', '$']) := by
  rw [toList_anchored, readParts_plain rfl]
  exact readParts_plain rfl _ _

/-- What stands between the anchors as the whole of a name. -/
def whole (p : Pattern) : Pattern := .seq (.look .start) (.seq p (.look .finish))

/-- Behind the last parenthesis there is only the second anchor, and it leaves the groups
alone. -/
theorem readParts_anchor (r : Reading) {s : List Char} (suffix : s <:+ ['$']) :
    ∃ r', readParts r s = some r' ∧ r'.outer = r.outer := by
  rcases List.suffix_cons_iff.mp suffix with rfl | empty
  · have found : r.flags.skip ['$'] = ['$'] := by
      unfold Flags.skip
      split <;> rfl
    rw [readParts_cons found]
    exact ⟨_, readParts_nil (Flags.skip_nil _), rfl⟩
  · rw [List.suffix_nil.mp empty]
    exact ⟨r, readParts_nil (Flags.skip_nil _), rfl⟩

theorem finish?_eq_none {r : Reading} (inside : r.outer ≠ []) : r.finish? = none := by
  unfold Reading.finish?
  rw [List.isEmpty_eq_false_iff.mpr inside]
  rfl

theorem below_anchors_ne_nil (r : Reading) : (r.below anchors).outer ≠ [] :=
  List.append_ne_nil_of_right_ne_nil _ (List.cons_ne_nil _ _)

/-- The groups of the text itself are closed, so the parenthesis closes the one between the
anchors. -/
theorem anchors_closed {r : Reading} (closed : r.outer = []) :
    (readParts (r.below anchors) [')', '$']).bind Reading.finish? =
      some ⟨whole r.level.choice.pattern, r.level.choice.depth + 2, true⟩ := by
  obtain ⟨flags, level, outer, names⟩ := r
  cases closed
  have found : (Reading.below ⟨flags, level, [], names⟩ anchors).flags.skip [')', '$'] =
      [')', '$'] := skip_closing flags ['$']
  have anchor : readParts
      ⟨{}, ⟨[], [⟨level.choice.pattern, level.choice.depth + 1, true⟩, ⟨.look .start, 0, true⟩]⟩,
        [], names⟩ ['$'] = some ⟨{}, ⟨[], [⟨.look .finish, 0, true⟩,
          ⟨level.choice.pattern, level.choice.depth + 1, true⟩, ⟨.look .start, 0, true⟩]⟩,
          [], names⟩ := by
    rw [readParts_plain rfl]
    exact readParts_nil rfl
  have closing : readParts (Reading.below ⟨flags, level, [], names⟩ anchors) [')', '$'] = _ :=
    (readParts_cons found).trans anchor
  rw [closing]
  have depth : 1 + Level.deepest [⟨.look .finish, 0, true⟩,
      ⟨level.choice.pattern, level.choice.depth + 1, true⟩, ⟨.look .start, 0, true⟩] =
      level.choice.depth + 2 := by
    simp only [Level.deepest, List.map_cons, List.map_nil, List.foldl_cons, List.foldl_nil]
    omega
  rw [← depth]
  rfl

/-- A group of the text itself that is still open is the one that the parenthesis closes. -/
theorem anchors_open {r : Reading} (inside : r.outer ≠ []) :
    (readParts (r.below anchors) [')', '$']).bind Reading.finish? = none := by
  obtain ⟨flags, level, outer, names⟩ := r
  cases outer with
  | nil => exact absurd rfl inside
  | cons group outer =>
      have found : (Reading.below ⟨flags, level, group :: outer, names⟩ anchors).flags.skip
          [')', '$'] = [')', '$'] := skip_closing flags ['$']
      obtain ⟨last, read, same⟩ := readParts_anchor
        (Reading.below ⟨group.2, group.1.push ⟨level.choice.pattern, level.choice.depth + 1, true⟩,
          outer, names⟩ anchors) (List.suffix_refl ['$'])
      have closing : readParts (Reading.below ⟨flags, level, group :: outer, names⟩ anchors)
          [')', '$'] = some last := (readParts_cons found).trans read
      rw [closing]
      exact finish?_eq_none (same ▸ below_anchors_ne_nil _)

/-! ## What the anchors make of a text -/

theorem toList_parenthesis (text : String) : (text ++ ")").toList = text.toList ++ [')'] :=
  String.toList_append

/-- A parenthesis behind a pattern closes the group around, or the last comment takes it. -/
theorem closing_or_comment {text : String} {r : Reading}
    (parts : readParts {} text.toList = some r) (closed : r.outer = []) :
    (¬ EndsInComment text ∧ ∀ around t, Ending t →
      readParts (Reading.below {} around) (text.toList ++ ')' :: t) =
        readParts (r.below around) (')' :: t)) ∨
    (EndsInComment text ∧ ∀ around t, Ending t →
      readParts (Reading.below {} around) (text.toList ++ ')' :: t) = some (r.below around)) := by
  have read : piece? text = some r.level.choice := piece?_eq_some.mpr ⟨r, parts, closed, rfl⟩
  rcases readParts_append parts with closing | comment
  · refine .inl ⟨fun ends => ?_, closing⟩
    -- outside of all groups the parenthesis closes nothing
    have unopened := closing [] [] nofun
    rw [Reading.below_nil, Reading.below_nil,
      readParts_unopened closed (skip_closing r.flags [])] at unopened
    have refused : piece? (text ++ ")") = none := by
      rw [piece?, toList_parenthesis, unopened]
      rfl
    rw [EndsInComment, refused] at ends
    cases ends.2
  · refine .inr ⟨⟨by rw [read]; rfl, ?_⟩, comment⟩
    have swallowed := comment [] [] nofun
    rw [Reading.below_nil, Reading.below_nil] at swallowed
    have finished : piece? (text ++ ")") = some r.level.choice := by
      refine piece?_eq_some.mpr ⟨r, ?_, closed, rfl⟩
      rw [toList_parenthesis]
      exact swallowed
    rw [finished]
    rfl

/-- A pattern is anchored between the groups around, or its last comment takes the anchor. -/
theorem anchored_cases {text : String} {p : Piece} (read : piece? text = some p) :
    (¬ EndsInComment text ∧
      piece? (anchored text) = some ⟨whole p.pattern, p.depth + 2, true⟩) ∨
    (EndsInComment text ∧ piece? (anchored text) = none) := by
  obtain ⟨r, parts, closed, rfl⟩ := piece?_eq_some.mp read
  rcases closing_or_comment parts closed with ⟨ends, closing⟩ | ⟨ends, comment⟩
  · refine .inl ⟨ends, ?_⟩
    rw [piece?, readParts_anchored, closing anchors ['$'] ending_anchor]
    exact anchors_closed closed
  · refine .inr ⟨ends, ?_⟩
    rw [piece?, readParts_anchored, comment anchors ['$'] ending_anchor]
    exact finish?_eq_none (below_anchors_ne_nil r)

/-- A text that is no pattern is none between the anchors, unless it closes their group. -/
theorem anchored_refused {text : String} (refused : piece? text = none)
    (own : ¬ ClosesForeign text) : piece? (anchored text) = none := by
  rw [piece?, readParts_anchored]
  cases parts : readParts {} text.toList with
  | none =>
      refine Option.bind_eq_none_iff.mpr fun last read => ?_
      obtain ⟨q, rest, suffix, read⟩ := readParts_refused parts own ending_anchor read
      obtain ⟨last', read', same⟩ := readParts_anchor (q.below anchors) suffix
      rw [read] at read'
      cases read'
      exact finish?_eq_none (same ▸ below_anchors_ne_nil q)
  | some r =>
      have inside : r.outer ≠ [] := by
        intro closed
        rw [piece?_eq_some.mpr ⟨r, parts, closed, rfl⟩] at refused
        cases refused
      rcases readParts_append parts with closing | comment
      · rw [closing anchors ['$'] ending_anchor]
        exact anchors_open inside
      · rw [comment anchors ['$'] ending_anchor]
        exact finish?_eq_none (below_anchors_ne_nil r)

/-- A pattern closes no group but its own. -/
theorem not_closesForeign {text : String} {p : Piece} (read : piece? text = some p) :
    ¬ ClosesForeign text := by
  obtain ⟨r, parts, -⟩ := piece?_eq_some.mp read
  intro closes
  have refused : ∀ {r : Reading} {s : List Char}, ClosesAround r s → readParts r s = none := by
    intro r s closes
    induction closes with
    | here outermost found => exact readParts_unopened outermost found
    | later found took _ ih => rw [readParts_cons found, took, Option.bind_some, ih]
  rw [refused closes] at parts
  cases parts

/-! ## A group around all of a text -/

/-- A repetition has to follow something, so no pattern begins with a question mark. -/
theorem ne_question {text : String} {p : Piece} (read : piece? text = some p) (rest : List Char) :
    text.toList ≠ '?' :: rest := by
  intro begins
  obtain ⟨r, parts, -⟩ := piece?_eq_some.mp read
  rw [begins, readParts_plain rfl] at parts
  cases parts

theorem groupStart_plain {r : Reading} (plain : r.flags.freeLayout = false) {s : List Char}
    (other : ∀ rest, s ≠ '?' :: rest) : groupStart r s = some (r.openGroup [], s) := by
  have kept : r.flags.skip s = s := by
    unfold Flags.skip
    rw [plain]
    rfl
  rw [groupStart_eq, kept]
  unfold groupAt
  split
  · next rest => exact absurd rfl (other rest)
  · rfl

/-- A parenthesis before a text that begins with no question mark opens a group. -/
theorem readParts_group {text : String} (other : ∀ rest, text.toList ≠ '?' :: rest) {r : Reading}
    (plain : r.flags.freeLayout = false) (t : List Char) :
    readParts r ('(' :: (text.toList ++ ')' :: t)) =
      readParts (r.openGroup []) (text.toList ++ ')' :: t) := by
  have start : ∀ rest, text.toList ++ ')' :: t ≠ '?' :: rest := by
    intro rest same
    cases begins : text.toList with
    | nil =>
        rw [begins] at same
        cases same
    | cons c s =>
        rw [begins, List.cons_append] at same
        cases same
        exact other s begins
  have opened : readPart r '(' (text.toList ++ ')' :: t) = _ := groupStart_plain plain start
  rw [readParts_plain plain, opened]
  rfl

theorem toList_group (text : String) :
    ("(" ++ text ++ ")").toList = '(' :: (text.toList ++ [')']) := by
  simp [String.toList_append]

theorem readParts_anchored_group {text : String} (other : ∀ rest, text.toList ≠ '?' :: rest) :
    readParts {} (anchored ("(" ++ text ++ ")")).toList =
      readParts (Reading.below {} (({}, {}) :: anchors)) (text.toList ++ ')' :: [')', '$']) := by
  rw [readParts_anchored, toList_group, List.cons_append, List.append_assoc]
  exact readParts_group other rfl _

/-- **One group around all of a pattern makes no difference between the anchors**, but for the
depth. -/
theorem piece?_anchored_group {text : String} {p : Piece} (read : piece? text = some p) :
    piece? (anchored ("(" ++ text ++ ")")) =
      (piece? (anchored text)).map fun q => { q with depth := q.depth + 1 } := by
  obtain ⟨r, parts, closed, rfl⟩ := piece?_eq_some.mp read
  have ending : Ending [')', '$'] := by
    intro c member
    rcases List.mem_cons.mp member with same | member
    · exact .inl same
    · exact ending_anchor c member
  rw [piece?, piece?, readParts_anchored_group (ne_question read), readParts_anchored]
  rcases readParts_append parts with closing | comment
  · rw [closing _ _ ending, closing anchors ['$'] ending_anchor]
    have inner : (readParts (r.below anchors) [')', '$']).bind Reading.finish? = _ :=
      anchors_closed closed
    rw [inner]
    obtain ⟨flags, level, outer, names⟩ := r
    cases closed
    have found : (Reading.below ⟨flags, level, [], names⟩ (({}, {}) :: anchors)).flags.skip
        [')', ')', '$'] = [')', ')', '$'] := skip_closing flags [')', '$']
    rw [readParts_cons found]
    exact anchors_closed (r := ⟨{}, ⟨[], [⟨level.choice.pattern, level.choice.depth + 1, true⟩]⟩,
      [], names⟩) rfl
  · rw [comment _ _ ending, comment anchors ['$'] ending_anchor]
    have inside : (r.below (({}, {}) :: anchors)).outer ≠ [] :=
      List.append_ne_nil_of_right_ne_nil _ (List.cons_ne_nil _ _)
    rw [Option.bind_some, Option.bind_some, finish?_eq_none inside,
      finish?_eq_none (below_anchors_ne_nil r)]
    rfl

/-- A pattern that does not end in a comment can be put into a group. -/
theorem piece?_group {text : String} {p : Piece} (read : piece? text = some p)
    (ends : ¬ EndsInComment text) :
    piece? ("(" ++ text ++ ")") = some ⟨p.pattern, p.depth + 1, true⟩ := by
  have other := ne_question read
  obtain ⟨r, parts, closed, rfl⟩ := piece?_eq_some.mp read
  have opened : readParts {} ("(" ++ text ++ ")").toList =
      readParts (Reading.below {} [({}, {})]) (text.toList ++ ')' :: []) := by
    rw [toList_group]
    exact readParts_group other rfl []
  rcases closing_or_comment parts closed with ⟨-, closing⟩ | ⟨comment, -⟩
  · rw [piece?, opened, closing [({}, {})] [] nofun]
    obtain ⟨flags, level, outer, names⟩ := r
    cases closed
    have found : (Reading.below ⟨flags, level, [], names⟩ [({}, {})]).flags.skip [')'] = [')'] :=
      skip_closing flags []
    have last : readParts ⟨{}, ⟨[], [⟨level.choice.pattern, level.choice.depth + 1, true⟩]⟩, [],
        names⟩ [] = some _ := readParts_nil rfl
    rw [readParts_cons found]
    exact congrArg (·.bind Reading.finish?) last
  · exact absurd comment ends

/-- The parentheses at both ends of a text pair with each other: before the last one a group is
open that nothing stands before, so the first one opened it, and the last one closes it. -/
def Paired (text : String) : Prop :=
  ∃ inner r, text = "(" ++ inner ++ ")" ∧ readParts {} ("(" ++ inner).toList = some r ∧
    r.outer = [({}, {})] ∧ readParts {} text.toList = r.closeGroup?

/-- Behind the parenthesis before it a pattern is read inside one more group. -/
theorem readParts_opened {text : String} {p : Piece} (read : piece? text = some p) {r : Reading}
    (parts : readParts {} text.toList = some r) :
    readParts {} ("(" ++ text).toList = some (r.below [({}, {})]) := by
  have opened : readPart {} '(' text.toList = _ :=
    groupStart_plain (r := {}) rfl (ne_question read)
  have begins : ("(" ++ text).toList = '(' :: text.toList := String.toList_append
  rw [begins, readParts_plain rfl, opened]
  exact readParts_inside parts [({}, {})]

theorem readParts_paired {text : String} {p : Piece} (read : piece? text = some p) :
    readParts {} ("(" ++ text ++ ")").toList =
      readParts (Reading.below {} [({}, {})]) (text.toList ++ [')']) := by
  rw [toList_group]
  exact readParts_group (ne_question read) rfl []

/-- **The parentheses around a pattern pair with each other exactly if** the pattern does not end
in a comment, which would take the second one. -/
theorem paired_group_iff {text : String} {p : Piece} (read : piece? text = some p) :
    Paired ("(" ++ text ++ ")") ↔ ¬ EndsInComment text := by
  obtain ⟨r, parts, closed, rfl⟩ := piece?_eq_some.mp read
  have opened := readParts_opened read parts
  have outer : (r.below [({}, {})]).outer = [({}, {})] := by
    rw [Reading.below, closed]
    rfl
  rcases closing_or_comment parts closed with ⟨ends, closing⟩ | ⟨ends, comment⟩
  · refine iff_of_true ⟨text, _, rfl, opened, outer, ?_⟩ ends
    have found : (r.below [({}, {})]).flags.skip [')'] = [')'] := skip_closing r.flags []
    rw [readParts_paired read, closing [({}, {})] [] nofun, readParts_cons found]
    simp only [readPart, Reading.closeGroup?, outer, Option.map_some, Option.bind_some]
    exact readParts_nil (Flags.skip_nil _)
  · refine iff_of_false (fun paired => ?_) (not_not_intro ends)
    obtain ⟨inner, q, same, before, -, closes⟩ := paired
    have inside : text = inner := by
      have lists := congrArg String.toList same
      rw [toList_group, toList_group] at lists
      exact String.toList_injective (List.append_cancel_right (List.cons.inj lists).2)
    subst inside
    cases opened.symm.trans before
    -- the last parenthesis is part of the comment, so the group stays open
    rw [readParts_paired read, comment [({}, {})] [] nofun] at closes
    simp only [Reading.closeGroup?, outer, Option.some.injEq] at closes
    have closed : (r.below [({}, {})]).outer = [] := congrArg Reading.outer closes
    rw [outer] at closed
    cases closed

/-! ## What is found between the anchors -/

theorem holdsAt_start {text : Array Char} {i : Nat} (inside : i ≤ text.size) :
    Look.start.holdsAt text i = true ↔ i = 0 := by
  by_cases first : i = 0
  · subst first
    simp [Look.holdsAt, Look.holds]
  · have before : i - 1 < text.size := by omega
    simp [Look.holdsAt, Look.holds, Array.getElem?_eq_getElem before, first]

theorem holdsAt_finish {text : Array Char} {i : Nat} :
    Look.finish.holdsAt text i = true ↔ text.size ≤ i := by
  simp [Look.holdsAt, Look.holds]

/-- **Between the anchors a pattern is found in a text exactly if it spans all of it.** -/
theorem isFoundIn_whole {p : Pattern} {text : String} :
    (whole p).isFoundIn text = true ↔ p.SpansAll text := by
  rw [isFoundIn_iff]
  generalize size : text.toList.toArray = chars
  unfold SpansAll whole
  rw [size]
  constructor
  · intro h
    rcases h with ⟨i, inside, j, k, ⟨rfl, start⟩, l, spans, rfl, finish⟩
    have first := (holdsAt_start inside).mp start
    subst first
    have last := holdsAt_finish.mp finish
    have bounds := spans.le
    have ends : l = chars.size := by omega
    exact ends ▸ spans
  · intro spans
    exact ⟨0, Nat.zero_le _, chars.size, 0, ⟨rfl, (holdsAt_start (Nat.zero_le _)).mpr rfl⟩,
      chars.size, spans, rfl, holdsAt_finish.mpr (Nat.le_refl _)⟩

/-! ## Anchored patterns as the search sees them -/

/-- A pattern, applied from the start of a name to its end, matches. -/
def FindsWhole (regex name : String) : Prop :=
  ∃ p, ofText? (anchored regex) = some p ∧ p.isFoundIn name = true

/-- The anchors neither make nor break a pattern, and with them it is found in the names that
it spans. -/
structure Anchors (regex name : String) : Prop where
  invalid : ofText? (anchored regex) = none ↔ isValid regex = false
  spans : FindsWhole regex name ↔ ∃ p, ofText? regex = some p ∧ p.SpansAll name

theorem anchors_of_piece? {regex name : String} {p : Piece} (shallow : Shallow regex)
    (anchoredShallow : Shallow (anchored regex)) (read : piece? regex = some p)
    (between : piece? (anchored regex) = some ⟨whole p.pattern, p.depth + 2, true⟩) :
    Anchors regex name := by
  have declared : ofText? regex = some p.pattern := by rw [shallow.ofText?, read]; rfl
  have anchored : ofText? (anchored regex) = some (whole p.pattern) := by
    rw [anchoredShallow.ofText?, between]
    rfl
  constructor
  · rw [anchored, isValid, declared]
    constructor <;> nofun
  · simp only [FindsWhole, anchored, declared, Option.some.injEq, exists_eq_left']
    exact isFoundIn_whole

theorem anchors_of_refused {regex name : String} (refused : ofText? regex = none)
    (between : ofText? (anchored regex) = none) : Anchors regex name := by
  constructor
  · rw [between, isValid, refused]
    exact iff_of_true rfl rfl
  · simp [FindsWhole, between, refused]

/-- **The anchors keep what a text means exactly if** it does not end in a comment, and if it
does not close a group that it did not open, or is no pattern between them either. -/
theorem anchors_iff {regex : String} (name : String) (shallow : Shallow regex)
    (anchoredShallow : Shallow (anchored regex)) :
    Anchors regex name ↔
      ¬ EndsInComment regex ∧ (¬ ClosesForeign regex ∨ isValid (anchored regex) = false) := by
  cases read : piece? regex with
  | some p =>
      have valid : isValid regex = true := shallow.isValid_iff.mpr ⟨p, read⟩
      have own := not_closesForeign read
      rcases anchored_cases read with ⟨noComment, between⟩ | ⟨comment, between⟩
      · exact iff_of_true (anchors_of_piece? shallow anchoredShallow read between)
          ⟨noComment, .inl own⟩
      · refine iff_of_false (fun anchors => ?_) fun h => h.1 comment
        have refused : ofText? (anchored regex) = none := by
          rw [anchoredShallow.ofText?, between]
          rfl
        rw [anchors.invalid.mp refused] at valid
        cases valid
  | none =>
      have refused : ofText? regex = none := by rw [shallow.ofText?, read]; rfl
      have noComment : ¬ EndsInComment regex := by
        intro ends
        rw [EndsInComment, read] at ends
        cases ends.1
      cases between : ofText? (anchored regex) with
      | none =>
          refine iff_of_true (anchors_of_refused refused between) ⟨noComment, .inr ?_⟩
          rw [isValid, between]
          rfl
      | some q =>
          refine iff_of_false (fun anchors => ?_) ?_
          · have invalid : isValid regex = false := by rw [isValid, refused]; rfl
            rw [anchors.invalid.mpr invalid] at between
            cases between
          · intro h
            rcases h with ⟨-, own | invalid⟩
            · rw [anchoredShallow.ofText?, anchored_refused read own] at between
              cases between
            · rw [isValid, between] at invalid
              cases invalid

end ProfileAudit.Pattern
