import ProfileAudit.Proofs.Query.Occurrence
import ProfileAudit.Proofs.Query.Spelling

/-!
# What the grammar builds

The conditions of a selector stand in a plain list until the first `or`, which moves the
list into a group of its own. So no selector of a tree that the grammar builds has both a
plain list and groups: `tidy_of_ofText`. And all that is in a tree was read from its tokens, as
was what the complaint quotes if there is no tree (`yields_ofTokens`). Both are carried through the
readers of the grammar by one lemma for each of them; `Reads` says what all of them keep for one
amount of fuel.
-/

namespace ProfileAudit.Query

variable {w : Wording}

/-! ## Conditions -/

/-- Conditions stand in the plain list or in groups, but not in both. -/
def Matchers.Uniform (ms : Matchers) : Prop := ms.plain = [] ∨ ms.groups = []

theorem Matchers.Uniform.append {ms : Matchers} (uniform : ms.Uniform) (m : Matcher) :
    (ms.append m).Uniform := by
  unfold Matchers.append
  split
  · next h =>
      rw [List.reverse_eq_nil_iff] at h
      exact .inr h
  · next last before h =>
      refine uniform.imp id fun noGroups => ?_
      rw [noGroups] at h
      cases h

theorem Matchers.uniform_appendOr {ms : Matchers} (uniform : ms.Uniform) (m : Matcher) :
    (ms.appendOr m).Uniform := by
  unfold Matchers.appendOr
  split
  · exact .inl rfl
  · next grouped =>
      refine .inl (uniform.resolve_right fun noGroups => grouped ?_)
      rw [noGroups]
      rfl

theorem Matchers.mem_all_append {ms : Matchers} {m other : Matcher}
    (member : other ∈ (ms.append m).all) : other ∈ ms.all ∨ other = m := by
  unfold Matchers.append at member
  split at member
  · simp only [all, List.mem_append, List.mem_singleton] at member ⊢
    grind
  · next last before reversed =>
      have groups : ms.groups = before.reverse ++ [last] := by
        rw [← List.reverse_reverse ms.groups, reversed, List.reverse_cons]
      simp only [all, groups, List.reverse_cons, List.flatten_append, List.mem_append,
        List.flatten_singleton, List.mem_singleton] at member ⊢
      grind

theorem Matchers.mem_all_appendOr {ms : Matchers} {m other : Matcher}
    (member : other ∈ (ms.appendOr m).all) : other ∈ ms.all ∨ other = m := by
  unfold Matchers.appendOr at member
  split at member
  · next none =>
      simp only [all, List.flatten_cons, List.flatten_nil, List.nil_append, List.append_nil,
        List.mem_append, List.mem_singleton] at member ⊢
      grind
  · simp only [all, List.flatten_append, List.mem_append, List.flatten_singleton,
      List.mem_singleton] at member ⊢
    grind

/-- The conditions of a selector as the grammar builds it, with values from the query. -/
structure Matchers.Meets (w : Wording) (ms : Matchers) : Prop where
  uniform : ms.Uniform
  values : ∀ m ∈ ms.all, w.value m.value

theorem Matchers.meets_empty : Matchers.Meets w {} := ⟨.inl rfl, nofun⟩

theorem Matchers.Meets.append {ms : Matchers} {m : Matcher} (meets : ms.Meets w)
    (own : w.value m.value) : (ms.append m).Meets w := by
  refine ⟨meets.uniform.append m, fun other member => ?_⟩
  rcases mem_all_append member with before | rfl
  · exact meets.values other before
  · exact own

theorem Matchers.Meets.appendOr {ms : Matchers} {m : Matcher} (meets : ms.Meets w)
    (own : w.value m.value) : (ms.appendOr m).Meets w := by
  refine ⟨uniform_appendOr meets.uniform m, fun other member => ?_⟩
  rcases mem_all_appendOr member with before | rfl
  · exact meets.values other before
  · exact own

/-- What is known of a selector in the tree of a query. -/
structure Selector.Meets (w : Wording) (s : Selector) : Prop where
  matchers : s.matchers.Meets w
  named : ∀ n, s.name = some n → w.name n

/-- All selectors of a tree meet the wording. -/
def Expr.Meets (w : Wording) (e : Expr) : Prop := ∀ s, e.Contains s → s.Meets w

/-- Every selector of a tree has uniform conditions. -/
def Expr.Tidy (e : Expr) : Prop := ∀ s, e.Contains s → s.matchers.Uniform

/-- What was read has a property, unless it has a fault, and what follows it are words of the
query. -/
structure Parsed.Gives {α : Type} (w : Wording) (inside : Bool) (p : Parsed α) (P : α → Prop) :
    Prop where
  value : Yields w p.value P
  rest : Worded w inside p.rest

/-! ## Labels -/

/-- The labels can be shown. -/
def LabelsShow (w : Wording) (labels : List String) : Prop := ∀ label ∈ labels, w.Shows label

theorem yields_groupingLabel? {t : Token} {label : Except Fault String}
    (given : groupingLabel? t = some label) (meets : t.Meets w) :
    Yields w label w.Shows ∧ ∀ inside, t.leads inside = inside := by
  unfold groupingLabel? at given
  split at given
  · cases given
    exact ⟨meets.shows, fun _ => rfl⟩
  · cases given
    exact ⟨.quoting rfl meets.shows, fun _ => rfl⟩
  · cases given
  · cases given
    exact ⟨meets.shows, fun _ => rfl⟩
  · cases given

theorem moreLabels_gives {labels : Except Fault (List String)} {ts : List Token}
    {p : Parsed (List String)} (read : moreLabels labels ts = some p)
    (before : Yields w labels (LabelsShow w)) (worded : Worded w false ts) :
    p.Gives w false (LabelsShow w) := by
  fun_induction moreLabels labels ts with
  | case1 =>
      cases read
      exact ⟨before, worded.2⟩
  | case2 =>
      cases read
      exact ⟨before, worded.2.2⟩
  | case3 labels t ts other ih =>
      obtain ⟨label, given, read⟩ := Option.bind_eq_some_iff.mp read
      obtain ⟨shows, leads⟩ := yields_groupingLabel? given worded.2.1.1
      refine ih label read ?_ (leads false ▸ worded.2.2)
      refine before.bind fun before known => shows.bind fun label own => ?_
      exact List.forall_mem_append.mpr ⟨known, List.forall_mem_singleton.mpr own⟩
  | case4 => cases read

theorem groupingLabels_gives {ts : List Token} {p : Parsed (List String)}
    (read : groupingLabels ts = some p) (worded : Worded w false ts) :
    p.Gives w false (LabelsShow w) := by
  unfold groupingLabels at read
  split at read
  · cases read
    exact ⟨fun label member => absurd member List.not_mem_nil, worded.2.2⟩
  · obtain ⟨label, given, read⟩ := Option.bind_eq_some_iff.mp read
    obtain ⟨shows, leads⟩ := yields_groupingLabel? given worded.2.1.1
    refine moreLabels_gives read ?_ (leads false ▸ worded.2.2)
    exact shows.map fun label own => List.forall_mem_singleton.mpr own
  · cases read

/-! ## Matchers -/

theorem shows_matchOpText? {t : Token} {op : String} (given : matchOpText? t = some op) :
    w.Shows op ∧ t.leads true = true := by
  unfold matchOpText? at given
  split at given
  all_goals cases given
  all_goals exact ⟨.of_plain rfl, rfl⟩

theorem yields_mkMatcher {label op value : String} (own : w.value value) :
    Yields w (mkMatcher label op value) fun m => w.value m.value := by
  have pattern (op : Pattern → MatchOp) :
      Yields w (Matcher.ofPattern label value op) fun m => w.value m.value := by
    unfold Matcher.ofPattern
    split
    · exact own
    · exact .quoting rfl (.of_value own)
  unfold mkMatcher
  split
  · exact own
  · exact pattern _
  · exact pattern _
  · exact own

theorem matcher_gives {ts : List Token} {p : Parsed Matcher} (read : matcher ts = some p)
    (worded : Worded w true ts) : p.Gives w true fun m => w.value m.value := by
  unfold matcher at read
  split at read
  · split at read
    · split at read
      · cases read
        exact ⟨.quoting rfl worded.1.1.shows, worded.2⟩
      · next t ts' _ op given =>
          have behind : Worded w true ts' := (shows_matchOpText? given (w := w)).2 ▸ worded.2.2
          split at read
          · cases read
            exact ⟨yields_mkMatcher (behind.1.1.value _ rfl), behind.2⟩
          · cases read
            exact ⟨.quoting rfl behind.1.1.shows, behind.2⟩
          · split at read
            · cases read
            · next op' again =>
                obtain ⟨shows, leads⟩ := shows_matchOpText? again (w := w)
                have rest : Worded w true _ := leads ▸ behind.2
                split at read
                · cases read
                  exact ⟨.quoting rfl shows, rest.2⟩
                · cases read
                  exact ⟨.quoting rfl shows, rest.2⟩
                · cases read
                  exact ⟨.quoting rfl shows, rest⟩
          · cases read
    · cases read
  · cases read

theorem moreMatchers_gives {fuel : Nat} {ms : Except Fault Matchers} {ts : List Token}
    {p : Parsed Matchers} (read : moreMatchers fuel ms ts = some p)
    (before : Yields w ms (Matchers.Meets w)) (worded : Worded w true ts) :
    p.Gives w false (Matchers.Meets w) := by
  induction fuel generalizing ms ts with
  | zero => cases read
  | succ fuel ih =>
      unfold moreMatchers at read
      split at read
      · cases read
        exact ⟨before, worded.2⟩
      · cases read
        exact ⟨before, worded.2.2⟩
      · obtain ⟨m, first, read⟩ := Option.bind_eq_some_iff.mp read
        obtain ⟨value, rest⟩ := matcher_gives first worded.2
        refine ih read ?_ rest
        exact before.bind fun all known => value.bind fun here own => known.append own
      · obtain ⟨m, first, read⟩ := Option.bind_eq_some_iff.mp read
        obtain ⟨value, rest⟩ := matcher_gives first worded.2
        refine ih read ?_ rest
        exact before.bind fun all known => value.bind fun here own => known.appendOr own
      · cases read

theorem matchers_gives {ts : List Token} {p : Parsed Matchers} (read : matchers ts = some p)
    (worded : Worded w true ts) : p.Gives w false (Matchers.Meets w) := by
  unfold matchers at read
  split at read
  · cases read
    exact ⟨Matchers.meets_empty, worded.2⟩
  · cases read
    exact ⟨.silent rfl, worded.2.2⟩
  · obtain ⟨m, first, read⟩ := Option.bind_eq_some_iff.mp read
    obtain ⟨value, rest⟩ := matcher_gives first worded
    refine moreMatchers_gives read ?_ rest
    exact value.map fun here own => Matchers.meets_empty.append own

/-! ## Modifiers -/

/-- The labels that two vectors are matched on can be shown. -/
def BinaryModifier.Meets (w : Wording) (m : BinaryModifier) : Prop :=
  ∀ matching, m.matching = some matching → LabelsShow w matching.labels

theorem groupingSide_gives {modifier : Except Fault BinaryModifier}
    {side : List String → Cardinality} {ts : List Token} {p : Parsed BinaryModifier}
    (read : groupingSide groupingLabels modifier side ts = some p)
    (before : Yields w modifier (BinaryModifier.Meets w)) (worded : Worded w false ts) :
    p.Gives w false (BinaryModifier.Meets w) := by
  unfold groupingSide at read
  split at read
  · obtain ⟨l, labels, read⟩ := Option.bind_eq_some_iff.mp read
    obtain ⟨value, rest⟩ := groupingLabels_gives labels worded
    cases read
    refine ⟨?_, rest⟩
    exact before.bind fun m known => value.bind fun labels shown => known
  · cases read
    exact ⟨before.map fun m known => known, worded⟩

theorem afterMatching_gives {modifier : Except Fault BinaryModifier} {ts : List Token}
    {p : Parsed BinaryModifier} (read : afterMatching modifier ts = some p)
    (before : Yields w modifier (BinaryModifier.Meets w)) (worded : Worded w false ts) :
    p.Gives w false (BinaryModifier.Meets w) := by
  unfold afterMatching at read
  split at read
  · exact groupingSide_gives read before worded.2
  · exact groupingSide_gives read before worded.2
  · cases read
    exact ⟨before, worded⟩

theorem matching_gives {bool ignoring : Bool} {ts : List Token} {p : Parsed BinaryModifier}
    (read : matching bool ignoring ts = some p) (worded : Worded w false ts) :
    p.Gives w false (BinaryModifier.Meets w) := by
  obtain ⟨l, labels, read⟩ := Option.bind_eq_some_iff.mp read
  obtain ⟨value, rest⟩ := groupingLabels_gives labels worded
  refine afterMatching_gives read ?_ rest
  refine value.map fun labels shown => ?_
  rintro matching ⟨⟩
  exact shown

theorem binaryModifier_gives {ts : List Token} {p : Parsed BinaryModifier}
    (read : binaryModifier ts = some p) (worded : Worded w false ts) :
    p.Gives w false (BinaryModifier.Meets w) := by
  have bare (bool : Bool) : BinaryModifier.Meets w { bool } := nofun
  unfold binaryModifier at read
  split at read
  · exact matching_gives read worded.2.2
  · exact matching_gives read worded.2.2
  · cases read
    exact ⟨bare true, worded.2⟩
  · exact matching_gives read worded.2
  · exact matching_gives read worded.2
  · obtain ⟨l, labels, read⟩ := Option.bind_eq_some_iff.mp read
    obtain ⟨value, rest⟩ := groupingLabels_gives labels worded.2
    cases read
    exact ⟨value.bind fun labels shown => .quoting rfl (.of_plain rfl), rest⟩
  · obtain ⟨l, labels, read⟩ := Option.bind_eq_some_iff.mp read
    obtain ⟨value, rest⟩ := groupingLabels_gives labels worded.2
    cases read
    exact ⟨value.bind fun labels shown => .quoting rfl (.of_plain rfl), rest⟩
  · cases read
    exact ⟨bare false, worded⟩

theorem grouping?_gives {ts : List Token} {g : Option (Parsed Grouping)}
    (read : grouping? ts = some g) (worded : Worded w false ts) :
    ∀ p ∈ g, p.Gives w false fun _ => True := by
  have labelled {without : Bool} {ts : List Token} (worded : Worded w false ts)
      (read : (groupingLabels ts).map (fun l => some (l.map (⟨without, ·⟩))) = some g) :
      ∀ p ∈ g, p.Gives w false fun _ => True := by
    obtain ⟨l, labels, rfl⟩ := Option.map_eq_some_iff.mp read
    obtain ⟨value, rest⟩ := groupingLabels_gives labels worded
    rintro p ⟨⟩
    exact ⟨value.map fun _ _ => trivial, rest⟩
  unfold grouping? at read
  split at read
  · exact labelled worded.2 read
  · exact labelled worded.2 read
  · cases read
    nofun

/-! ## Numbers and durations -/

theorem yields_number {text : String} (shows : w.Shows text) :
    Yields w (number text) fun _ => True := by
  unfold number
  dsimp only
  repeat' split
  all_goals first
  | exact True.intro
  | exact .quoting rfl shows

theorem yields_duration {text : String} (shows : w.Shows text) :
    Yields w (duration text) fun _ => True := by
  unfold duration
  split
  · exact .quoting rfl shows
  · exact .silent rfl
  · exact True.intro

theorem yields_extent? {t : Token} {x : Except Fault Extent} (given : t.extent? = some x)
    (meets : t.Meets w) : (Yields w x fun _ => True) ∧ t.leads false = false := by
  unfold Token.extent? at given
  split at given
  · cases given
    exact ⟨yields_duration meets.shows, rfl⟩
  · cases given
    exact ⟨(yields_number meets.shows).map fun _ _ => trivial, rfl⟩
  · cases given

theorem yields_number? {t : Token} {x : Except Fault Float} (given : t.number? = some x)
    (meets : t.Meets w) : (Yields w x fun _ => True) ∧ t.leads false = false := by
  unfold Token.number? at given
  split at given
  · cases given
    exact ⟨yields_number meets.shows, rfl⟩
  · cases given
    exact ⟨(yields_duration meets.shows).map fun _ _ => trivial, rfl⟩
  · cases given

theorem shows_positional (d : Decimal) : w.Shows d.positional := by
  have digit {n : Nat} {c : Char} (member : c ∈ Nat.toDigits 10 n) : isPlain c = true :=
    isPlain_of_mem_toDigits (by omega) member
  have zero {n : Nat} {c : Char} (member : c ∈ List.replicate n '0') : isPlain c = true := by
    rw [List.eq_of_mem_replicate member]
    rfl
  unfold Decimal.positional
  dsimp only
  apply Wording.Shows.append
  · split <;> exact .of_plain rfl
  · intro c member
    rw [String.toList_ofList] at member
    left
    split at member
    · rcases List.mem_append.mp member with digits | zeros
      · exact digit digits
      · exact zero zeros
    · have padded {c : Char} {n : Nat} (member : c ∈ List.replicate n '0' ++
          Nat.toDigits 10 d.digits) : isPlain c = true := by
        rcases List.mem_append.mp member with zeros | digits
        · exact zero zeros
        · exact digit digits
      rcases List.mem_append.mp member with before | behind
      · exact padded (List.mem_of_mem_take before)
      · rcases List.mem_cons.mp behind with rfl | behind
        · rfl
        · exact padded (List.mem_of_mem_drop behind)

theorem shows_ofFloat (x : Float) : w.Shows (Decimal.ofFloat x) := by
  have minus : w.Shows (if x.toBits.toNat ≥ Nat.pow 2 63 then "-" else "") := by
    split <;> exact .of_plain rfl
  unfold Decimal.ofFloat
  dsimp only
  split
  · exact .of_plain rfl
  · split
    · exact .append minus (.of_plain rfl)
    · split
      · exact .append minus (.of_plain rfl)
      · exact .append minus (shows_positional _)

theorem yields_ofSeconds (x : Float) : Yields w (FixedTime.ofSeconds x) fun _ => True := by
  unfold FixedTime.ofSeconds
  dsimp only
  split
  · exact .quoting rfl (shows_ofFloat x)
  · exact True.intro

/-! ## Parts of a tree -/

namespace Expr

theorem meets_number (x : Float) : (Expr.number x).Meets w := by
  intro s h
  cases h

theorem meets_string (value : String) : (Expr.string value).Meets w := by
  intro s h
  cases h

theorem meets_selector_iff {s : Selector} : (Expr.selector s).Meets w ↔ s.Meets w := by
  constructor
  · intro meets
    exact meets s .selector
  · intro meets t h
    cases h
    exact meets

theorem meets_range_iff {s : Selector} {extent : Extent} :
    (Expr.range s extent).Meets w ↔ s.Meets w := by
  constructor
  · intro meets
    exact meets s .range
  · intro meets t h
    cases h
    exact meets

theorem meets_subquery_iff {body : Expr} {extent : Extent} {step : Option Extent}
    {timing : Timing} : (Expr.subquery body extent step timing).Meets w ↔ body.Meets w := by
  constructor
  · intro meets s h
    exact meets s (.subquery h)
  · intro meets s h
    cases h with
    | subquery h => exact meets s h

theorem Meets.paren {body : Expr} (meets : body.Meets w) : (Expr.paren body).Meets w := by
  intro s h
  cases h with
  | paren h => exact meets s h

theorem Meets.negated {body : Expr} (meets : body.Meets w) : (Expr.negated body).Meets w := by
  intro s h
  cases h with
  | negated h => exact meets s h

theorem Meets.mkNegated {e : Expr} (meets : e.Meets w) : Yields w e.mkNegated (Expr.Meets w) := by
  unfold Expr.mkNegated
  split
  · exact .silent rfl
  · exact .silent rfl
  · exact meets_number _
  · split
    · exact meets.negated
    · exact meets.negated
    · exact .silent rfl

theorem shows_binary (op : BinaryOp) : w.Shows op.text := by
  cases op <;> exact .of_plain rfl

theorem shows_aggregation (op : Aggregation) : w.Shows op.text := by
  cases op <;> exact .of_plain rfl

theorem clash?_shows {m : BinaryModifier} {label : String} (meets : m.Meets w)
    (clash : clash? m = some label) : w.Shows label := by
  unfold clash? at clash
  split at clash
  · next labels matched => exact meets _ matched label (List.mem_of_find?_eq_some clash)
  · cases clash

theorem Meets.mkBinary {op : BinaryOp} {m : BinaryModifier} {l r : Expr} (left : l.Meets w)
    (right : r.Meets w) (modifier : m.Meets w) :
    Yields w (Expr.mkBinary op m l r) (Expr.Meets w) := by
  have whole : (Expr.binary op m l r).Meets w := by
    intro s h
    cases h with
    | left h => exact left s h
    | right h => exact right s h
  unfold Expr.mkBinary
  dsimp only
  split
  · exact .silent rfl
  · split
    · exact .silent rfl
    · split
      · next label clash => exact .quoting rfl (clash?_shows modifier clash)
      · split
        · exact .quoting rfl (shows_binary op)
        · split
          · exact .quoting rfl (shows_binary op)
          · split
            · exact .silent rfl
            · split
              · exact .silent rfl
              · exact whole

theorem Meets.mkAggregation {op : Aggregation} {g : Option Grouping} {args : List Expr}
    (meets : ∀ a ∈ args, a.Meets w) :
    Yields w (Expr.mkAggregation op g args) (Expr.Meets w) := by
  unfold Expr.mkAggregation
  dsimp only
  generalize (if op.parameter?.isSome then 2 else 1) = expected
  split
  · exact .quoting rfl (shows_aggregation op)
  · next first rest =>
      have last : (rest.getLast?.getD first).Meets w := by
        cases h : rest.getLast? with
        | none => exact meets first List.mem_cons_self
        | some a => exact meets a (List.mem_cons_of_mem _ (List.mem_of_getLast? h))
      split
      · exact .silent rfl
      · split
        · exact .silent rfl
        · split
          · intro s h
            cases h with
            | body h => exact last s h
          · split
            · exact .silent rfl
            · intro s h
              cases h with
              | body h => exact last s h
              | parameter _ h => exact meets first List.mem_cons_self s h

theorem Meets.mkCall {f : Function} {args : List Expr} (shows : w.Shows f.name)
    (meets : ∀ a ∈ args, a.Meets w) : Yields w (Expr.mkCall f args) (Expr.Meets w) := by
  have whole : (Expr.call f args).Meets w := by
    intro s h
    cases h with
    | argument member h => exact meets _ member s h
  unfold Expr.mkCall
  dsimp only
  split
  · exact .quoting rfl shows
  · split
    · exact .quoting rfl shows
    · split
      · exact .quoting rfl shows
      · split
        · exact whole
        · split
          · exact .quoting rfl shows
          · exact whole

theorem Meets.mkRange {e : Expr} (meets : e.Meets w) (extent : Extent) :
    Yields w (e.mkRange extent) (Expr.Meets w) := by
  unfold Expr.mkRange
  split
  · split
    · exact .silent rfl
    · split
      · exact .silent rfl
      · exact meets_range_iff.mpr (meets_selector_iff.mp meets)
  · exact .silent rfl

theorem Meets.mkSubquery {e : Expr} (meets : e.Meets w) (extent : Extent)
    (step : Option Extent) : Yields w (e.mkSubquery extent step) (Expr.Meets w) := by
  unfold Expr.mkSubquery
  split
  · exact meets_subquery_iff.mpr meets
  · exact .silent rfl

/-- A change of the timing leaves the conditions alone. -/
theorem Meets.withTiming {e : Expr} {other : Fault} {change : Timing → Except Fault Timing}
    (meets : e.Meets w) (refused : other.texts = [])
    (changed : ∀ timing, Yields w (change timing) fun _ => True) :
    Yields w (e.withTiming other change) (Expr.Meets w) := by
  unfold Expr.withTiming
  split
  · rw [meets_selector_iff] at meets
    exact (changed _).map fun timing _ => meets_selector_iff.mpr ⟨meets.matchers, meets.named⟩
  · rw [meets_range_iff] at meets
    exact (changed _).map fun timing _ => meets_range_iff.mpr ⟨meets.matchers, meets.named⟩
  · rw [meets_subquery_iff] at meets
    exact (changed _).map fun timing _ => meets_subquery_iff.mpr meets
  · exact .silent refused

theorem Meets.mkOffset {e : Expr} (meets : e.Meets w) (o : Offset) :
    Yields w (e.mkOffset o) (Expr.Meets w) := by
  refine meets.withTiming rfl fun timing => ?_
  split
  · exact .silent rfl
  · exact True.intro

theorem Meets.mkAt {e : Expr} (meets : e.Meets w) (time : FixedTime) :
    Yields w (e.mkAt time) (Expr.Meets w) := by
  refine meets.withTiming rfl fun timing => ?_
  split
  · exact .silent rfl
  · exact True.intro

end Expr

/-- A selector is built from a name and conditions of the query. -/
theorem yields_checked {name : Option String} {ms : Matchers} (named : ∀ n ∈ name, w.name n)
    (meets : ms.Meets w) : Yields w (Selector.checked name ms) (Selector.Meets w) := by
  unfold Selector.checked
  split
  · next n =>
      split
      · next m found =>
          intro text member
          rcases List.mem_cons.mp member with rfl | member
          · exact .of_name (named _ rfl)
          · rw [List.mem_singleton.mp member]
            exact .of_value (meets.values m (List.mem_of_find?_eq_some found))
      · exact ⟨meets, named⟩
  · split
    · exact .silent rfl
    · exact ⟨meets, nofun⟩

/-! ## Suffixes of an expression -/

theorem selector_gives {name : Option String} {ms : Parsed Matchers} (named : ∀ n ∈ name, w.name n)
    (given : ms.Gives w false (Matchers.Meets w)) :
    (selector name ms).Gives w false (Expr.Meets w) := by
  refine ⟨given.value.bind fun m meets => ?_, given.rest⟩
  exact (yields_checked named meets).bind fun s meets => Expr.meets_selector_iff.mpr meets

theorem signed_worded {ts : List Token} (worded : Worded w false ts) :
    Worded w false (signed ts).2 := by
  unfold signed
  split
  · exact worded.2
  · exact worded.2
  · exact worded

theorem offset_gives {left : Except Fault Expr} {ts : List Token} {p : Parsed Expr}
    (before : Yields w left (Expr.Meets w)) (worded : Worded w false ts)
    (read : offset left ts = some p) : p.Gives w false (Expr.Meets w) := by
  unfold offset at read
  split at read
  · cases read
    exact ⟨.silent rfl, worded.2⟩
  · have behind := signed_worded worded
    dsimp only at read
    split at read
    · cases read
    · next t rest is =>
        rw [is] at behind
        obtain ⟨extent, given, read⟩ := Option.bind_eq_some_iff.mp read
        obtain ⟨value, leads⟩ := yields_extent? given behind.1.1
        cases read
        refine ⟨?_, leads ▸ behind.2⟩
        exact before.bind fun e meets => value.bind fun x _ => meets.mkOffset _

theorem fixedTime_gives {left : Except Fault Expr} {ts : List Token} {p : Parsed Expr}
    (before : Yields w left (Expr.Meets w)) (worded : Worded w false ts)
    (read : fixedTime left ts = some p) : p.Gives w false (Expr.Meets w) := by
  have marked (t : FixedTime) : Yields w (left >>= fun e => e.mkAt t) (Expr.Meets w) :=
    before.bind fun e meets => meets.mkAt t
  unfold fixedTime at read
  split at read
  · cases read
    exact ⟨.silent rfl, worded.2⟩
  · cases read
    exact ⟨marked _, worded.2.2.2⟩
  · cases read
    exact ⟨marked _, worded.2.2.2⟩
  · have behind := signed_worded worded
    dsimp only at read
    split at read
    · cases read
    · next t rest is =>
        rw [is] at behind
        obtain ⟨x, given, read⟩ := Option.bind_eq_some_iff.mp read
        obtain ⟨value, leads⟩ := yields_number? given behind.1.1
        cases read
        refine ⟨?_, leads ▸ behind.2⟩
        refine before.bind fun e meets => value.bind fun x _ => ?_
        exact (yields_ofSeconds _).bind fun t _ => meets.mkAt t

theorem range_gives {left : Except Fault Expr} {ts : List Token} {p : Parsed Expr}
    (before : Yields w left (Expr.Meets w)) (worded : Worded w false ts)
    (read : range left ts = some p) : p.Gives w false (Expr.Meets w) := by
  unfold range at read
  split at read
  · cases read
    exact ⟨.silent rfl, worded.2⟩
  · obtain ⟨extent, given, read⟩ := Option.bind_eq_some_iff.mp read
    obtain ⟨value, leads⟩ := yields_extent? given worded.1.1
    have behind := worded.2
    rw [leads] at behind
    split at read
    · cases read
      refine ⟨?_, behind.2⟩
      exact before.bind fun e meets => value.bind fun x _ => meets.mkRange x
    · cases read
      refine ⟨?_, behind.2.2⟩
      exact before.bind fun e meets => value.bind fun x _ => meets.mkSubquery x none
    · obtain ⟨step, asked, read⟩ := Option.bind_eq_some_iff.mp read
      obtain ⟨stepValue, stepLeads⟩ := yields_extent? asked behind.2.1.1
      have rest : Worded w false _ := stepLeads ▸ behind.2.2
      cases read
      refine ⟨?_, rest.2⟩
      refine before.bind fun e meets => value.bind fun x _ => stepValue.bind fun y _ => ?_
      exact meets.mkSubquery x _
    · cases read
  · cases read

/-! ## Expressions -/

/-- The readers of expressions give trees that meet the wording, with this much fuel. -/
structure Reads (w : Wording) (fuel : Nat) : Prop where
  expression : ∀ {least : Nat} {ts : List Token} {p : Parsed Expr}, Worded w false ts →
    Query.expression fuel least ts = some p → p.Gives w false (Expr.Meets w)
  afterOperand : ∀ {least : Nat} {e p : Parsed Expr}, e.Gives w false (Expr.Meets w) →
    Query.afterOperand fuel least e = some p → p.Gives w false (Expr.Meets w)
  operand : ∀ {ts : List Token} {p : Parsed Expr}, Worded w false ts →
    Query.operand fuel ts = some p → p.Gives w false (Expr.Meets w)
  named : ∀ {name : String} {ts : List Token} {p : Parsed Expr}, w.name name →
    Worded w false ts → Query.named fuel name ts = some p → p.Gives w false (Expr.Meets w)
  arguments : ∀ {ts : List Token} {p : Parsed (List Expr)}, Worded w false ts →
    Query.arguments fuel ts = some p → p.Gives w false fun args => ∀ a ∈ args, a.Meets w
  moreArguments : ∀ {es p : Parsed (List Expr)},
    (es.Gives w false fun args => ∀ a ∈ args, a.Meets w) →
    Query.moreArguments fuel es = some p → p.Gives w false fun args => ∀ a ∈ args, a.Meets w

theorem leads_of_operator? {t : Token} {op : BinaryOp} (is : t.operator? = some op) :
    t.leads false = false := by
  unfold Token.operator? at is
  split at is
  · rfl
  · rfl
  · cases is

theorem leads_of_metricName? {t : Token} {n : String} (is : t.metricName? = some n) :
    t.leads false = false := by
  unfold Token.metricName? at is
  split at is
  all_goals first | rfl | cases is

namespace Reads

variable {fuel : Nat}

theorem expression_succ (ih : Reads w fuel) {least : Nat} {ts : List Token} {p : Parsed Expr}
    (worded : Worded w false ts) (read : Query.expression (fuel + 1) least ts = some p) :
    p.Gives w false (Expr.Meets w) := by
  unfold Query.expression at read
  obtain ⟨e, first, rest⟩ := Option.bind_eq_some_iff.mp read
  exact ih.afterOperand (ih.operand worded first) rest

theorem afterOperand_succ (ih : Reads w fuel) {least : Nat} {e p : Parsed Expr}
    (given : e.Gives w false (Expr.Meets w))
    (read : Query.afterOperand (fuel + 1) least e = some p) :
    p.Gives w false (Expr.Meets w) := by
  obtain ⟨left, ts⟩ := e
  obtain ⟨before, worded⟩ := given
  dsimp only at before worded
  unfold Query.afterOperand at read
  dsimp only at read
  split at read
  · obtain ⟨q, suffix, read⟩ := Option.bind_eq_some_iff.mp read
    exact ih.afterOperand (offset_gives before worded.2 suffix) read
  · obtain ⟨q, suffix, read⟩ := Option.bind_eq_some_iff.mp read
    exact ih.afterOperand (fixedTime_gives before worded.2 suffix) read
  · obtain ⟨q, suffix, read⟩ := Option.bind_eq_some_iff.mp read
    exact ih.afterOperand (range_gives before worded.2 suffix) read
  · split at read
    · cases read
      exact ⟨before, worded⟩
    · next is =>
        split at read
        · cases read
          exact ⟨before, worded⟩
        · have behind := worded.2
          rw [leads_of_operator? is] at behind
          obtain ⟨m, modifies, read⟩ := Option.bind_eq_some_iff.mp read
          obtain ⟨modifier, rest⟩ := binaryModifier_gives modifies behind
          obtain ⟨r, right, read⟩ := Option.bind_eq_some_iff.mp read
          obtain ⟨value, rest⟩ := ih.expression rest right
          refine ih.afterOperand ?_ read
          refine ⟨?_, rest⟩
          refine before.bind fun l left => modifier.bind fun m known => value.bind fun r right => ?_
          exact left.mkBinary right known
  · cases read
    exact ⟨before, worded⟩

theorem operand_succ (ih : Reads w fuel) {ts : List Token} {p : Parsed Expr}
    (worded : Worded w false ts) (read : Query.operand (fuel + 1) ts = some p) :
    p.Gives w false (Expr.Meets w) := by
  unfold Query.operand at read
  split at read
  · exact ih.expression worded.2 read
  · obtain ⟨e, signed, read⟩ := Option.bind_eq_some_iff.mp read
    obtain ⟨value, rest⟩ := ih.expression worded.2 signed
    cases read
    exact ⟨value.bind fun body meets => meets.mkNegated, rest⟩
  · cases read
    exact ⟨(yields_number worded.1.1.shows).map fun x _ => Expr.meets_number x, worded.2⟩
  · cases read
    exact ⟨(yields_duration worded.1.1.shows).map fun d _ => Expr.meets_number _, worded.2⟩
  · cases read
    exact ⟨Expr.meets_string _, worded.2⟩
  · obtain ⟨e, inside, read⟩ := Option.bind_eq_some_iff.mp read
    obtain ⟨value, rest⟩ := ih.expression worded.2 inside
    split at read
    · next closing =>
        rw [closing] at rest
        cases read
        exact ⟨value.map fun body meets => meets.paren, rest.2⟩
    · cases read
  · obtain ⟨ms, braces, read⟩ := Option.bind_eq_some_iff.mp read
    cases read
    exact selector_gives nofun (matchers_gives braces worded.2)
  · obtain ⟨args, parens, read⟩ := Option.bind_eq_some_iff.mp read
    obtain ⟨value, rest⟩ := ih.arguments worded.2.2 parens
    cases read
    refine ⟨?_, rest⟩
    split
    · exact .quoting rfl worded.1.1.shows
    · next f found =>
        have shows : w.Shows f.name := by
          obtain ⟨family, -, rfl⟩ := Option.map_eq_some_iff.mp found
          exact worded.1.1.shows
        exact value.bind fun as meets => Expr.Meets.mkCall shows meets
  · obtain ⟨args, parens, read⟩ := Option.bind_eq_some_iff.mp read
    obtain ⟨value, rest⟩ := ih.arguments worded.2.2 parens
    obtain ⟨g, grouped, read⟩ := Option.bind_eq_some_iff.mp read
    split at read
    · cases read
      exact ⟨value.bind fun as meets => Expr.Meets.mkAggregation meets, rest⟩
    · next g =>
        obtain ⟨labels, rest⟩ := grouping?_gives grouped rest g rfl
        cases read
        refine ⟨?_, rest⟩
        exact labels.bind fun grouping _ => value.bind fun as meets =>
          Expr.Meets.mkAggregation meets
  · obtain ⟨g, grouped, read⟩ := Option.bind_eq_some_iff.mp read
    split at read
    · next g =>
        obtain ⟨labels, rest⟩ := grouping?_gives grouped worded.2 g rfl
        split at read
        · next opening =>
            rw [opening] at rest
            obtain ⟨args, parens, read⟩ := Option.bind_eq_some_iff.mp read
            obtain ⟨value, rest⟩ := ih.arguments rest.2 parens
            cases read
            refine ⟨?_, rest⟩
            exact labels.bind fun grouping _ => value.bind fun as meets =>
              Expr.Meets.mkAggregation meets
        · cases read
    · exact ih.named (worded.1.2 rfl _ rfl) worded.2 read
  · obtain ⟨name, is, read⟩ := Option.bind_eq_some_iff.mp read
    have behind := worded.2
    rw [leads_of_metricName? is] at behind
    exact ih.named (worded.1.2 rfl _ is) behind read
  · cases read

theorem named_succ {name : String} {ts : List Token} {p : Parsed Expr} (own : w.name name)
    (worded : Worded w false ts) (read : Query.named (fuel + 1) name ts = some p) :
    p.Gives w false (Expr.Meets w) := by
  have known : ∀ n ∈ some name, w.name n := by
    rintro n ⟨⟩
    exact own
  unfold Query.named at read
  dsimp only at read
  split at read
  · obtain ⟨ms, braces, read⟩ := Option.bind_eq_some_iff.mp read
    cases read
    exact selector_gives known (matchers_gives braces worded.2)
  · cases read
  · cases read
    exact selector_gives known ⟨Matchers.meets_empty, worded⟩

theorem arguments_succ (ih : Reads w fuel) {ts : List Token} {p : Parsed (List Expr)}
    (worded : Worded w false ts) (read : Query.arguments (fuel + 1) ts = some p) :
    p.Gives w false fun args => ∀ a ∈ args, a.Meets w := by
  unfold Query.arguments at read
  split at read
  · cases read
    exact ⟨fun a h => absurd h List.not_mem_nil, worded.2⟩
  · obtain ⟨e, first, read⟩ := Option.bind_eq_some_iff.mp read
    obtain ⟨value, rest⟩ := ih.expression worded first
    refine ih.moreArguments ⟨?_, rest⟩ read
    exact value.map fun e meets => List.forall_mem_singleton.mpr meets

theorem moreArguments_succ (ih : Reads w fuel) {es p : Parsed (List Expr)}
    (given : es.Gives w false fun args => ∀ a ∈ args, a.Meets w)
    (read : Query.moreArguments (fuel + 1) es = some p) :
    p.Gives w false fun args => ∀ a ∈ args, a.Meets w := by
  obtain ⟨before, ts⟩ := es
  obtain ⟨known, worded⟩ := given
  dsimp only at known worded
  unfold Query.moreArguments at read
  dsimp only at read
  split at read
  · cases read
    exact ⟨known, worded.2⟩
  · have behind : Worded w false _ := worded.2
    split at read
    · exact ih.moreArguments ⟨.silent rfl, behind⟩ read
    · exact ih.moreArguments ⟨.silent rfl, behind⟩ read
    · obtain ⟨e, next, read⟩ := Option.bind_eq_some_iff.mp read
      obtain ⟨value, rest⟩ := ih.expression behind next
      refine ih.moreArguments ⟨?_, rest⟩ read
      refine known.bind fun before known => value.bind fun last meets => ?_
      exact List.forall_mem_append.mpr ⟨known, List.forall_mem_singleton.mpr meets⟩
  · cases read

end Reads

theorem reads (w : Wording) (fuel : Nat) : Reads w fuel := by
  induction fuel with
  | zero =>
      constructor
      · intro least ts p _ read
        cases read
      · intro least e p _ read
        cases read
      · intro ts p _ read
        cases read
      · intro name ts p _ _ read
        cases read
      · intro ts p _ read
        cases read
      · intro es p _ read
        cases read
  | succ fuel ih =>
      exact ⟨ih.expression_succ, ih.afterOperand_succ, ih.operand_succ, Reads.named_succ,
        ih.arguments_succ, ih.moreArguments_succ⟩

/-- **The tree of some tokens is made of their words**, and so is the complaint if there is no
tree. -/
theorem yields_ofTokens {ts : List Token} (worded : Worded w false ts) :
    Yields w (Expr.ofTokens ts) (Expr.Meets w) := by
  unfold Expr.ofTokens
  split
  · exact .silent rfl
  · split
    · exact .silent rfl
    · next p read =>
        have given := (reads w _).expression worded read
        split
        · exact given.value
        · exact given.value
        · exact .silent rfl

/-- **The tree of a query is made of what is written in it**, and so is the complaint if there is no
tree. -/
theorem yields_ofQuery (query : String) :
    Yields (.ofText query.toList) (Expr.ofText query) (Expr.Meets (.ofText query.toList)) :=
  (yields_ofText query).bind fun _ worded => yields_ofTokens worded

theorem meets_of_ofText {query : String} {e : Expr} (parsed : Expr.ofText query = .ok e) :
    e.Meets (.ofText query.toList) := by
  have yields := yields_ofQuery query
  rw [parsed] at yields
  exact yields

/-- **In the tree of a query, a selector has plain conditions or alternatives.** -/
theorem tidy_of_ofText {query : String} {e : Expr} (parsed : Expr.ofText query = .ok e) :
    e.Tidy :=
  fun s contained => (meets_of_ofText parsed s contained).matchers.uniform

end ProfileAudit.Query
