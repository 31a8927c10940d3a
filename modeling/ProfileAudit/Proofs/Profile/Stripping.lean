import ProfileAudit.Proofs.Profile.Reconcile

/-!
# The group around a pattern

The index holds patterns without the group around them. Reconciling against it comes to the same
findings as against the patterns with their groups: an error quotes another text, and that is all
(`reconcile_unquoted`). Whether a group is taken away is decided by reading what is inside. That
tells parentheses that pair with each other from parentheses that do not, with one exception: what
is inside may end in a comment, which the closing parenthesis then belongs to.
-/

namespace ProfileAudit

open Pattern

/-! ## Findings without what they quote -/

/-- What is wrong, whatever the pattern is called that is none. -/
def FindingKind.unquoted : FindingKind → FindingKind
  | regexError _ => regexError ""
  | kind => kind

/-- A finding, whatever the pattern is called that is none. -/
def Finding.unquoted (f : Finding) : Finding := { f with kind := f.kind.unquoted }

/-- Two monitors of one name that say the same of every metric. -/
structure Admission.Agrees (a b : Admission) : Prop where
  monitor : b.monitor = a.monitor
  verdict : ∀ metric,
    (b.verdict? metric).map FindingKind.unquoted = (a.verdict? metric).map FindingKind.unquoted

/-- Monitors with the same pattern agree, however it is written down. -/
theorem Admission.agrees_of_pattern {a b : Admission} (monitor : b.monitor = a.monitor)
    (pattern : b.pattern = a.pattern) : a.Agrees b := by
  refine ⟨monitor, fun metric => ?_⟩
  unfold Admission.verdict?
  rw [pattern]
  cases a.pattern <;> rfl

variable {rules : List Rule} {loaded : NameSet} {index index' : RegexIndex}
  {as bs : List Admission}

/-- What monitors that agree find for one metric. -/
theorem Rule.asked_unquoted (rule : Rule) (agree : List.Forall₂ Admission.Agrees as bs)
    (metric : String) :
    (bs.filterMap fun b => (b.verdict? metric).map
      (.ofRule rule (some b.monitor) (some metric))).map Finding.unquoted =
    (as.filterMap fun a => (a.verdict? metric).map
      (.ofRule rule (some a.monitor) (some metric))).map Finding.unquoted := by
  have answer (a : Admission) : ((a.verdict? metric).map
      (Finding.ofRule rule (some a.monitor) (some metric))).map Finding.unquoted =
      ((a.verdict? metric).map FindingKind.unquoted).map
        (.ofRule rule (some a.monitor) (some metric)) := by
    rw [Option.map_map, Option.map_map]
    rfl
  simp only [List.map_filterMap, answer]
  induction agree with
  | nil => rfl
  | cons same _ ih => rw [List.filterMap_cons, List.filterMap_cons, same.monitor, same.verdict, ih]

theorem Rule.findings_unquoted (rule : Rule) (agree : List.Forall₂ Admission.Agrees as bs) :
    (rule.findings loaded bs).map Finding.unquoted =
      (rule.findings loaded as).map Finding.unquoted := by
  unfold Rule.findings
  split
  · rfl
  · split
    · rfl
    · split
      · rfl
      · simp only [List.map_flatMap, rule.asked_unquoted agree]

/-- Indexes whose monitors agree lead to the same findings. -/
theorem reconcile_unquoted
    (agree : List.Forall₂ (fun e e' => (Admission.ofEntry e).Agrees (.ofEntry e'))
      index.entries index'.entries) :
    (reconcile rules loaded index').map Finding.unquoted =
      (reconcile rules loaded index).map Finding.unquoted := by
  have agree : List.Forall₂ Admission.Agrees (index.entries.map .ofEntry)
      (index'.entries.map .ofEntry) :=
    List.forall₂_map_left_iff.mpr (List.forall₂_map_right_iff.mpr agree)
  simp only [reconcile, List.map_flatMap, Rule.findings_unquoted _ agree]

/-! ## Taking the group away -/

/-- An entry as it is, or without the group around its pattern. -/
def MayStrip (e e' : String × String) : Prop :=
  e'.1 = e.1 ∧ (e'.2 = e.2 ∨ e'.2 = stripOuterGroup e.2)

theorem MayStrip.agrees {e e' : String × String} (shallow : Shallow (anchored e.2))
    (stripped : MayStrip e e') : (Admission.ofEntry e).Agrees (.ofEntry e') := by
  obtain ⟨monitor, kept | bare⟩ := stripped
  · exact Admission.agrees_of_pattern monitor (congrArg (ofText? <| anchored ·) kept)
  · refine Admission.agrees_of_pattern monitor ?_
    simp only [Admission.ofEntry, bare]
    exact ofText?_anchored_stripOuterGroup shallow

theorem agrees_of_mayStrip {es es' : List (String × String)}
    (shallow : ∀ e ∈ es, Shallow (anchored e.2)) (stripped : List.Forall₂ MayStrip es es') :
    List.Forall₂ (fun e e' => (Admission.ofEntry e).Agrees (.ofEntry e')) es es' := by
  induction stripped with
  | nil => exact .nil
  | cons bare _ ih =>
      exact .cons (bare.agrees (shallow _ List.mem_cons_self))
        (ih fun e listed => shallow e (List.mem_cons_of_mem _ listed))

/-- A group is taken away only from what is a pattern without it. -/
theorem exists_piece?_of_stripped {regex : String} (stripped : stripOuterGroup regex ≠ regex) :
    regex = "(" ++ stripOuterGroup regex ++ ")" ∧
      ∃ p, piece? (stripOuterGroup regex) = some p := by
  unfold stripOuterGroup at stripped ⊢
  split
  · next inner inside =>
      rw [inside] at stripped
      split
      · next valid =>
          obtain ⟨pattern, read⟩ := Option.isSome_iff_exists.mp valid
          rw [ofText?_eq] at read
          obtain ⟨p, read, -⟩ := Option.bind_eq_some_iff.mp read
          exact ⟨eq_of_insideParens? inside, p, read⟩
      · next invalid => exact absurd (if_neg invalid) stripped
  · next outside =>
      rw [outside] at stripped
      exact absurd rfl stripped

/-- **Taking groups away preserves what patterns mean.** Reconciling comes to the same findings in
the same order, be the groups around some patterns of the index taken away or not, as long as the
patterns do not nest too deep. A group is taken away only if its parentheses pair with each other,
unless what is inside ends in a comment. -/
theorem stripping_preserves
    (stripped : List.Forall₂ MayStrip index.entries index'.entries)
    (shallow : ∀ e ∈ index.entries, Shallow (anchored e.2)) :
    (reconcile rules loaded index').map Finding.unquoted =
      (reconcile rules loaded index).map Finding.unquoted ∧
    ∀ regex, stripOuterGroup regex ≠ regex →
      (Paired regex ↔ ¬ EndsInComment (stripOuterGroup regex)) := by
  constructor
  · exact reconcile_unquoted (agrees_of_mayStrip shallow stripped)
  · intro regex stripped
    obtain ⟨group, p, read⟩ := exists_piece?_of_stripped stripped
    have paired := paired_group_iff read
    rw [← group] at paired
    exact paired

theorem stripping_preserves_alternatives :
    stripOuterGroup "(foo|bar)" = "foo|bar" ∧
    (reconcile [alertOn "foo", alertOn "baz"] .empty
        (RegexIndex.empty.insert "m" (stripOuterGroup "(foo|bar)"))).map Finding.unquoted =
      (reconcile [alertOn "foo", alertOn "baz"] .empty
        (RegexIndex.empty.insert "m" "(foo|bar)")).map Finding.unquoted ∧
    Paired "(foo|bar)" := by
  have bare : stripOuterGroup "(foo|bar)" = "foo|bar" := by cbv
  have stripped : List.Forall₂ MayStrip (RegexIndex.empty.insert "m" "(foo|bar)").entries
      (RegexIndex.empty.insert "m" (stripOuterGroup "(foo|bar)")).entries :=
    .cons ⟨rfl, .inr rfl⟩ .nil
  have shallow : ∀ e ∈ (RegexIndex.empty.insert "m" "(foo|bar)").entries,
      Shallow (anchored e.2) := by
    intro e listed
    cases List.mem_singleton.mp listed
    exact shallow_iff.mpr (by cbv)
  obtain ⟨same, pairs⟩ :=
    @stripping_preserves [alertOn "foo", alertOn "baz"] .empty _ _ stripped shallow
  refine ⟨bare, same, (pairs _ ?_).mpr ?_⟩
  · rw [bare]
    decide
  · rw [bare]
    cbv
    exact Bool.false_ne_true

/-- The closing parenthesis of `((?x)foo #c)` belongs to the comment, yet it is taken away. -/
theorem strips_commented_parenthesis :
    stripOuterGroup "((?x)foo #c)" = "(?x)foo #c" ∧ ¬ Paired "((?x)foo #c)" := by
  refine ⟨by cbv, ?_⟩
  obtain ⟨p, read⟩ : ∃ p, piece? "(?x)foo #c" = some p := Option.isSome_iff_exists.mp (by cbv)
  exact mt (paired_group_iff read).mp (not_not_intro (by cbv))

end ProfileAudit
