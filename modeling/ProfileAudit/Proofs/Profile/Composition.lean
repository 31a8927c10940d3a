import ProfileAudit.Proofs.Profile.Reconcile

/-!
# Reconciliation piece by piece

Reconciliation takes the rules one after the other, asks each metric for itself and each monitor
for itself. So the findings on a list of rules are those on its parts, one behind the other; with
more metrics loaded, or with fewer monitors, they are the same without those that are about these
metrics or about the other monitors (`reconcile_composes`). In particular what is wrong with one
rule, or with one pattern, leaves the findings on other rules and for other monitors as they are.
-/

namespace ProfileAudit

/-! ## Parts of an index -/

namespace RegexIndex

/-- The names of the monitors that have an entry. -/
def names (index : RegexIndex) : List String := index.entries.map (·.1)

/-- The entries of some monitors. -/
def restrict (index : RegexIndex) (keep : String → Bool) : RegexIndex where
  entries := index.entries.filter fun e => keep e.1
  ordered := List.Pairwise.sublist (List.filter_sublist.map _) index.ordered

/-- An index whose entries are some of another one's is a part of it. -/
theorem eq_restrict {index part : RegexIndex} (contained : part.entries ⊆ index.entries) :
    part = index.restrict (· ∈ part.names) := by
  refine eq_of_mem_iff fun e => ?_
  rw [restrict, List.mem_filter, decide_eq_true_iff]
  constructor
  · intro listed
    exact ⟨contained listed, List.mem_map_of_mem listed⟩
  · intro h
    rcases h with ⟨listed, named⟩
    obtain ⟨⟨name, regex⟩, kept, same⟩ := List.mem_map.mp named
    obtain ⟨name', regex'⟩ := e
    obtain rfl : name = name' := same
    rwa [entry_unique listed (contained kept)]

/-- A new pattern for one monitor leaves the other ones alone. -/
theorem restrict_insert (index : RegexIndex) (monitor regex : String) :
    (index.insert monitor regex).restrict (· ≠ monitor) = index.restrict (· ≠ monitor) := by
  refine eq_of_mem_iff fun e => ?_
  obtain ⟨name, pattern⟩ := e
  simp only [restrict, List.mem_filter, mem_insert, decide_eq_true_iff]
  constructor
  · intro h
    rcases h with ⟨⟨same, -⟩ | ⟨-, listed⟩, other⟩
    · exact absurd same other
    · exact ⟨listed, other⟩
  · intro h
    rcases h with ⟨listed, other⟩
    exact ⟨.inr ⟨other, listed⟩, other⟩

end RegexIndex

/-! ## The findings on one rule -/

theorem NameSet.contains_union {s t : NameSet} {name : String} :
    (s.union t).contains name = (s.contains name || t.contains name) := by
  rw [Bool.eq_iff_iff, Bool.or_eq_true]
  simp only [NameSet.contains_eq_true_iff, NameSet.mem_union]

namespace Rule

variable {loaded : NameSet} {admissions : List Admission} {metric : String} {f : Finding}

/-- What the monitors say of one metric. -/
def asked (r : Rule) (admissions : List Admission) (metric : String) : List Finding :=
  admissions.filterMap fun a => (a.verdict? metric).map (.ofRule r (some a.monitor) (some metric))

theorem metric_of_mem_asked {r : Rule} (found : f ∈ r.asked admissions metric) :
    f.metric = some metric := by
  obtain ⟨a, -, found⟩ := List.mem_filterMap.mp found
  obtain ⟨kind, -, rfl⟩ := Option.map_eq_some_iff.mp found
  rfl

/-- The findings on a rule are its own faults and, of each metric that it wants and that is not
loaded, what the monitors say. Neither the faults nor the metrics that it wants depend on what is
loaded or on the monitors. -/
structure Parts (r : Rule) (faults : List Finding) (wanted : List String) : Prop where
  own : ∀ f ∈ faults, f.metric = none ∧ f.monitor = none
  eq : ∀ loaded admissions, r.findings loaded admissions =
    faults ++ (wanted.filter (!loaded.contains ·)).flatMap (r.asked admissions)

/-- A rule that wants no metrics has its own faults only. -/
theorem parts_nil {r : Rule} {faults : List Finding}
    (own : ∀ f ∈ faults, f.metric = none ∧ f.monitor = none)
    (eq : ∀ loaded admissions, r.findings loaded admissions = faults) : r.Parts faults [] := by
  refine ⟨own, fun loaded admissions => ?_⟩
  rw [eq, List.filter_nil, List.flatMap_nil, List.append_nil]

theorem exists_parts (r : Rule) : ∃ faults wanted, r.Parts faults wanted := by
  have empty : ∀ f ∈ ([] : List Finding), f.metric = none ∧ f.monitor = none :=
    List.forall_mem_nil _
  by_cases known : ∀ name, r.kind ≠ .unknown name
  · cases asks : Blank.isAll r.query with
    | true => exact ⟨[], [], parts_nil empty fun _ _ => findings_of_blank known asks⟩
    | false =>
        cases references : Query.referencedMetrics r.query with
        | error fault =>
            refine ⟨[.ofRule r none none (.parseError fault)], [], parts_nil ?_ fun _ _ => ?_⟩
            · exact List.forall_mem_singleton.mpr ⟨rfl, rfl⟩
            · exact findings_of_fault known asks references
        | ok metrics =>
            exact ⟨[], metrics.toList, empty, fun _ _ => findings_of_references known asks references⟩
  · rw [not_forall_not] at known
    obtain ⟨name, unknown⟩ := known
    refine ⟨[.ofRule r none none (.unknownRuleKind name)], [], parts_nil ?_ fun _ _ => ?_⟩
    · exact List.forall_mem_singleton.mpr ⟨rfl, rfl⟩
    · exact findings_of_unknown unknown

/-- A metric that is loaded as well is not asked about. -/
theorem findings_union (r : Rule) (loaded loaded' : NameSet) (admissions : List Admission) :
    r.findings (loaded.union loaded') admissions =
      (r.findings loaded admissions).filter fun f => ∀ metric ∈ f.metric, metric ∉ loaded' := by
  obtain ⟨faults, wanted, own, eq⟩ := r.exists_parts
  have ownKept : (faults.filter fun f => ∀ metric ∈ f.metric, metric ∉ loaded') = faults := by
    refine List.filter_eq_self.mpr fun f found => ?_
    simp [(own f found).1]
  have said (metric : String) :
      ((r.asked admissions metric).filter fun f => ∀ metric ∈ f.metric, metric ∉ loaded') =
        if !loaded'.contains metric then r.asked admissions metric else [] := by
    have same : ∀ f ∈ r.asked admissions metric,
        decide (∀ metric ∈ f.metric, metric ∉ loaded') = !loaded'.contains metric := by
      intro f found
      simp [metric_of_mem_asked found, ← NameSet.contains_eq_true_iff]
    rw [List.filter_congr same]
    cases loaded'.contains metric with
    | true => simp
    | false => simp
  have missing : wanted.filter (!(loaded.union loaded').contains ·) =
      (wanted.filter (!loaded.contains ·)).filter (!loaded'.contains ·) := by
    rw [List.filter_filter]
    simp only [NameSet.contains_union, Bool.not_or, Bool.and_comm]
  rw [eq, eq, List.filter_append, ownKept, List.filter_flatMap, missing, flatMap_of_filter]
  simp only [said]

/-- A monitor that is left out is not asked. -/
theorem findings_filter (r : Rule) (loaded : NameSet) (admissions : List Admission)
    (keep : String → Bool) : r.findings loaded (admissions.filter (keep ·.monitor)) =
      (r.findings loaded admissions).filter fun f => ∀ monitor ∈ f.monitor, keep monitor := by
  obtain ⟨faults, wanted, own, eq⟩ := r.exists_parts
  have ownKept : (faults.filter fun f => ∀ monitor ∈ f.monitor, keep monitor) = faults := by
    refine List.filter_eq_self.mpr fun f found => ?_
    simp [(own f found).2]
  have said (metric : String) : r.asked (admissions.filter (keep ·.monitor)) metric =
      (r.asked admissions metric).filter fun f => ∀ monitor ∈ f.monitor, keep monitor := by
    rw [Rule.asked, Rule.asked, List.filterMap_filter, List.filter_filterMap]
    refine List.filterMap_congr fun a _ => ?_
    cases a.verdict? metric with
    | none => simp
    | some kind => simp [Option.filter, Finding.ofRule]
  rw [eq, eq, List.filter_append, ownKept, List.filter_flatMap]
  simp only [← said]

end Rule

/-! ## Reconciliation -/

/-- Reconciliation is compositional in the rules, in what is loaded and in the monitors. -/
structure Composes (rules : List Rule) (loaded : NameSet) (index : RegexIndex) : Prop where
  append : ∀ rules', reconcile (rules ++ rules') loaded index =
    reconcile rules loaded index ++ reconcile rules' loaded index
  union : ∀ loaded', reconcile rules (loaded.union loaded') index =
    (reconcile rules loaded index).filter fun f => ∀ metric ∈ f.metric, metric ∉ loaded'
  part : ∀ part : RegexIndex, part.entries ⊆ index.entries → reconcile rules loaded part =
    (reconcile rules loaded index).filter fun f => ∀ monitor ∈ f.monitor, monitor ∈ part.names
  /-- Loading more metrics adds no finding. -/
  more : ∀ loaded', (∀ name ∈ loaded, name ∈ loaded') →
    (reconcile rules loaded' index).Sublist (reconcile rules loaded index)
  /-- Whatever is wrong with a rule, the findings on the other ones stand around its own. -/
  rule : ∀ r rules', reconcile (rules ++ r :: rules') loaded index =
    reconcile rules loaded index ++ reconcile [r] loaded index ++ reconcile rules' loaded index
  /-- Whatever the pattern of a monitor is, the findings for the other ones are the same. -/
  pattern : ∀ monitor regex,
    (reconcile rules loaded (index.insert monitor regex)).filter (·.monitor ≠ some monitor) =
      (reconcile rules loaded index).filter (·.monitor ≠ some monitor)

section

variable (rules rules' : List Rule) (loaded loaded' : NameSet) (index : RegexIndex)

theorem reconcile_append : reconcile (rules ++ rules') loaded index =
    reconcile rules loaded index ++ reconcile rules' loaded index :=
  List.flatMap_append

theorem reconcile_union : reconcile rules (loaded.union loaded') index =
    (reconcile rules loaded index).filter fun f => ∀ metric ∈ f.metric, metric ∉ loaded' := by
  simp only [reconcile, List.filter_flatMap, Rule.findings_union]

theorem reconcile_restrict (keep : String → Bool) :
    reconcile rules loaded (index.restrict keep) =
      (reconcile rules loaded index).filter fun f => ∀ monitor ∈ f.monitor, keep monitor := by
  have entries : (index.restrict keep).entries.map Admission.ofEntry =
      (index.entries.map Admission.ofEntry).filter (keep ·.monitor) := by
    rw [List.filter_map]
    rfl
  simp only [reconcile, entries, List.filter_flatMap, Rule.findings_filter]

/-- The findings for all monitors but one are those of the index without it. -/
theorem filter_monitor_ne (monitor : String) :
    (reconcile rules loaded index).filter (·.monitor ≠ some monitor) =
      reconcile rules loaded (index.restrict (· ≠ monitor)) := by
  rw [reconcile_restrict]
  refine List.filter_congr fun f _ => ?_
  cases f.monitor with
  | none => simp
  | some name => simp

/-- **Reconciliation can be taken apart**, by its rules, by what is loaded and by the monitors. -/
theorem reconcile_composes : Composes rules loaded index where
  append rules' := reconcile_append rules rules' loaded index
  union loaded' := reconcile_union rules loaded loaded' index
  part part contained := by
    conv_lhs => rw [RegexIndex.eq_restrict contained]
    rw [reconcile_restrict]
    simp only [decide_eq_true_iff]
  more loaded' fewer := by
    have both : loaded' = loaded.union loaded' := by
      refine NameSet.eq_of_mem_iff fun name => ?_
      rw [NameSet.mem_union]
      exact ⟨.inr, fun h => h.elim (fewer name) id⟩
    rw [both, reconcile_union]
    exact List.filter_sublist
  rule r rules' := by
    rw [reconcile_append, List.append_assoc, ← reconcile_append [r]]
    rfl
  pattern monitor regex := by
    -- Without the monitor there is no telling the two indexes apart.
    rw [filter_monitor_ne, filter_monitor_ne, RegexIndex.restrict_insert]

end

/-- A monitor whose pattern is none takes nothing away from the findings for another one. -/
theorem reconcile_composes_beside_error :
    .ofRule (alertOn "foo") (some "bad") (some "foo") (.regexError "[z-a]") ∈
        reconcile [alertOn "foo"] .empty
          ((RegexIndex.empty.insert "good" "foo").insert "bad" "[z-a]") ∧
      reconcile [alertOn "foo"] .empty (RegexIndex.empty.insert "good" "foo") =
        (reconcile [alertOn "foo"] .empty
          ((RegexIndex.empty.insert "good" "foo").insert "bad" "[z-a]")).filter
            fun f => ∀ monitor ∈ f.monitor, monitor ∈ ["good"] := by
  have both : ((RegexIndex.empty.insert "good" "foo").insert "bad" "[z-a]").entries =
      [("bad", "[z-a]"), ("good", "foo")] := by decide
  constructor
  · refine (mem_reconcile_iff (List.mem_singleton_self _) alertOn_foo_needs).mpr
      ⟨List.not_mem_nil, "[z-a]", ?_, by cbv⟩
    rw [both]
    exact List.mem_cons_self
  · refine (reconcile_composes _ _ _).part _ ?_
    rw [both]
    exact List.subset_cons_self _ _

end ProfileAudit
