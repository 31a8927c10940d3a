import Mathlib
import ProfileAudit.Profile.Reconcile
import ProfileAudit.Proofs.Monitor.Index
import ProfileAudit.Proofs.Query.Metrics

/-!
# What reconciliation finds

A rule is asked for its metrics, and of those that are not loaded every monitor of the index is
asked. So a finding on a rule, a monitor and a metric is what the monitor's anchored pattern says
of the metric (`mem_reconcile_iff`). It follows which of several monitors of one name decides
whether a missing metric is found, and when the answer is that of the pattern as it was declared.
-/

namespace ProfileAudit

open Pattern

/-- A rule of a known kind whose query, which is not blank, references a metric. -/
structure Rule.Needs (r : Rule) (metric : String) : Prop where
  known : ∀ name, r.kind ≠ .unknown name
  asks : Blank.isAll r.query = false
  references : ∃ metrics, Query.referencedMetrics r.query = .ok metrics ∧ metric ∈ metrics

/-- The answer of a monitor with the pattern given. -/
def verdict? (regex metric : String) : Option FindingKind :=
  (Admission.ofEntry ("", regex)).verdict? metric

section

variable {rules : List Rule} {loaded : NameSet} {index : RegexIndex} {rule : Rule}
  {monitor metric regex : String} {kind : FindingKind}

theorem Rule.findings_of_unknown {name : String} {admissions : List Admission}
    (unknown : rule.kind = .unknown name) :
    rule.findings loaded admissions = [.ofRule rule none none (.unknownRuleKind name)] := by
  unfold Rule.findings
  rw [unknown]

theorem Rule.findings_of_blank {admissions : List Admission}
    (known : ∀ name, rule.kind ≠ .unknown name) (blank : Blank.isAll rule.query = true) :
    rule.findings loaded admissions = [] := by
  unfold Rule.findings
  split
  · next name unknown => exact absurd unknown (known name)
  · rw [if_pos blank]

theorem Rule.findings_of_fault {fault : Query.Fault} {admissions : List Admission}
    (known : ∀ name, rule.kind ≠ .unknown name) (asks : Blank.isAll rule.query = false)
    (fails : Query.referencedMetrics rule.query = .error fault) :
    rule.findings loaded admissions = [.ofRule rule none none (.parseError fault)] := by
  unfold Rule.findings
  split
  · next name unknown => exact absurd unknown (known name)
  · rw [asks, fails]
    rfl

theorem Rule.findings_of_references {metrics : NameSet} {admissions : List Admission}
    (known : ∀ name, rule.kind ≠ .unknown name) (asks : Blank.isAll rule.query = false)
    (references : Query.referencedMetrics rule.query = .ok metrics) :
    rule.findings loaded admissions =
      (metrics.toList.filter (!loaded.contains ·)).flatMap fun metric =>
        admissions.filterMap fun a =>
          (a.verdict? metric).map (.ofRule rule (some a.monitor) (some metric)) := by
  unfold Rule.findings
  split
  · next name unknown => exact absurd unknown (known name)
  · rw [asks, references]
    rfl

/-- A finding for a monitor and a metric is the monitor's answer on a metric that is not
loaded. -/
theorem Rule.verdict?_of_mem_findings {f : Finding}
    (found : f ∈ rule.findings loaded (index.entries.map Admission.ofEntry))
    (of : f.monitor = some monitor) (on : f.metric = some metric) :
    metric ∉ loaded ∧ ∃ regex, (monitor, regex) ∈ index.entries ∧
      verdict? regex metric = some f.kind := by
  unfold Rule.findings at found
  split at found
  · rw [List.mem_singleton.mp found] at of
    cases of
  · split at found
    · cases found
    · split at found
      · rw [List.mem_singleton.mp found] at of
        cases of
      · obtain ⟨asked, needed, found⟩ := List.mem_flatMap.mp found
        obtain ⟨a, member, found⟩ := List.mem_filterMap.mp found
        obtain ⟨kind, answer, rfl⟩ := Option.map_eq_some_iff.mp found
        obtain ⟨entry, listed, rfl⟩ := List.mem_map.mp member
        cases of
        cases on
        have missing := (List.mem_filter.mp needed).2
        rw [Bool.not_eq_true', ← Bool.not_eq_true, NameSet.contains_eq_true_iff] at missing
        exact ⟨missing, entry.2, listed, answer⟩

theorem Rule.mem_findings (needs : rule.Needs metric) (missing : metric ∉ loaded)
    (entry : (monitor, regex) ∈ index.entries) (answer : verdict? regex metric = some kind) :
    .ofRule rule (some monitor) (some metric) kind ∈
      rule.findings loaded (index.entries.map Admission.ofEntry) := by
  obtain ⟨known, asks, metrics, references, needed⟩ := needs
  rw [Rule.findings_of_references known asks references]
  refine List.mem_flatMap.mpr ⟨metric, List.mem_filter.mpr ⟨needed, ?_⟩, ?_⟩
  · rw [Bool.not_eq_true', ← Bool.not_eq_true, NameSet.contains_eq_true_iff]
    exact missing
  · refine List.mem_filterMap.mpr ⟨_, List.mem_map_of_mem entry, ?_⟩
    exact Option.map_eq_some_iff.mpr ⟨kind, answer, rfl⟩

/-- **The findings on a metric that a rule needs are what the monitors answer**, and there are
some only if it is not loaded. -/
theorem mem_reconcile_iff (listed : rule ∈ rules) (needs : rule.Needs metric) :
    .ofRule rule (some monitor) (some metric) kind ∈ reconcile rules loaded index ↔
      metric ∉ loaded ∧ ∃ regex, (monitor, regex) ∈ index.entries ∧
        verdict? regex metric = some kind := by
  constructor
  · intro found
    obtain ⟨other, -, found⟩ := List.mem_flatMap.mp found
    exact Rule.verdict?_of_mem_findings found rfl rfl
  · intro h
    rcases h with ⟨missing, regex, entry, answer⟩
    exact List.mem_flatMap.mpr ⟨rule, listed, Rule.mem_findings needs missing entry answer⟩

/-! ## Answers -/

theorem verdict?_eq_notLoaded_iff :
    verdict? regex metric = some .notLoaded ↔ FindsWhole regex metric := by
  simp only [verdict?, Admission.ofEntry, Admission.verdict?, FindsWhole]
  cases ofText? (anchored regex) with
  | none => simp
  | some p => simp

theorem verdict?_eq_regexError_iff {r : String} : verdict? regex metric = some (.regexError r) ↔
    ofText? (anchored regex) = none ∧ r = regex := by
  simp only [verdict?, Admission.ofEntry, Admission.verdict?]
  cases ofText? (anchored regex) with
  | none => simp [eq_comm]
  | some p => simp

theorem verdict?_cases (answer : verdict? regex metric = some kind) :
    kind = .regexError regex ∨ kind = .notLoaded := by
  simp only [verdict?, Admission.ofEntry, Admission.verdict?] at answer
  split at answer
  · cases answer
    exact .inl rfl
  · split at answer
    · cases answer
      exact .inr rfl
    · cases answer

/-- What matches with a group around the pattern matches without it. -/
theorem findsWhole_stripOuterGroup (finds : FindsWhole regex metric) :
    FindsWhole (stripOuterGroup regex) metric := by
  obtain ⟨p, read, found⟩ := finds
  have shallow : Shallow (anchored regex) := by
    intro q between
    rw [ofText?_eq, between, Option.bind_some] at read
    split at read
    · assumption
    · cases read
  exact ⟨p, (ofText?_anchored_stripOuterGroup shallow).trans read, found⟩

/-! ## Several monitors of one name -/

/-- **Of the monitors that share a name the one declared last decides.** A metric that a rule
needs and that is not loaded is found for a monitor exactly if the pattern declared last under
the monitor's name matches it, without the group around it; whether the monitor's own pattern
matches it makes no difference. -/
theorem notLoaded_iff_last {monitors : List Monitor} {m : Monitor} (monitored : m ∈ monitors)
    (declares : regex ∈ m.keepRegexes) (listed : rule ∈ rules) (needs : rule.Needs metric)
    (missing : metric ∉ loaded) :
    ∃ last, (declared monitors m.name).getLast? = some last ∧
      (.ofRule rule (some m.name) (some metric) .notLoaded ∈
        reconcile rules loaded (aggregate monitors) ↔
          FindsWhole (stripOuterGroup last) metric) ∧
      (FindsWhole last metric → .ofRule rule (some m.name) (some metric) .notLoaded ∈
        reconcile rules loaded (aggregate monitors)) := by
  obtain ⟨last, ends⟩ := exists_last monitored declares
  have decides : .ofRule rule (some m.name) (some metric) .notLoaded ∈
      reconcile rules loaded (aggregate monitors) ↔
        FindsWhole (stripOuterGroup last) metric := by
    rw [mem_reconcile_iff listed needs, ← verdict?_eq_notLoaded_iff]
    constructor
    · intro h
      rcases h with ⟨-, stripped, entry, answer⟩
      obtain ⟨last', ends', rfl⟩ := mem_aggregate_iff.mp entry
      rw [ends] at ends'
      cases ends'
      exact answer
    · intro answer
      exact ⟨missing, _, mem_aggregate_iff.mpr ⟨last, ends, rfl⟩, answer⟩
  exact ⟨last, ends, decides, fun finds => decides.mpr (findsWhole_stripOuterGroup finds)⟩

/-- A rule that alerts on a metric. -/
def alertOn (metric : String) : Rule where
  name := "Absent"
  query := metric
  kind := .alerting
  group := "g"
  file := "/etc/rules/a.yaml"

theorem alertOn_needs {name : String} (asks : Blank.isAll name = false)
    (references : Query.referencedMetrics name = .ok (.ofList [name])) :
    (alertOn name).Needs name :=
  ⟨nofun, asks, _, references, NameSet.mem_ofList.mpr (List.mem_singleton_self _)⟩

theorem alertOn_foo_needs : (alertOn "foo").Needs "foo" := alertOn_needs (by decide) (by cbv)

/-- A monitor that keeps the metrics of a pattern. -/
def keeping (kind : MonitorKind) (name regex : String) : Monitor where
  name := name
  kind := kind
  endpoints := [⟨[{ action := some "keep", sourceLabels := ["__name__"], regex := some regex }]⟩]

theorem keepRegexes_keeping (kind : MonitorKind) (name regex : String) :
    (keeping kind name regex).keepRegexes = [regex] := by
  have keeps : LetterCase.eqPlain "keep" "keep" = true := by cbv
  simp [Monitor.keepRegexes, keeping, RelabelRule.keepRegex?, keeps, Query.nameLabel]

/-- Declared last, the pattern of the pods' monitor is the one that is asked. -/
theorem notLoaded_of_declared_last :
    .ofRule (alertOn "foo") (some "m") (some "foo") .notLoaded ∈ reconcile [alertOn "foo"] .empty
      (aggregate [keeping .service "m" "bar", keeping .pod "m" "foo"]) := by
  have finds : FindsWhole "foo" "foo" := verdict?_eq_notLoaded_iff.mp (by cbv)
  have monitored : keeping .pod "m" "foo" ∈
      [keeping .service "m" "bar", keeping .pod "m" "foo"] :=
    List.mem_cons_of_mem _ (List.mem_singleton_self _)
  have declares : "foo" ∈ (keeping .pod "m" "foo").keepRegexes := by
    rw [keepRegexes_keeping]
    exact List.mem_singleton_self _
  have missing : "foo" ∉ NameSet.empty := List.not_mem_nil
  have listed : alertOn "foo" ∈ [alertOn "foo"] := List.mem_singleton_self _
  obtain ⟨last, ends, -, found⟩ :=
    notLoaded_iff_last monitored declares listed alertOn_foo_needs missing
  have latest : (declared [keeping .service "m" "bar", keeping .pod "m" "foo"] "m").getLast? =
      some "foo" := by cbv
  obtain rfl : "foo" = last := Option.some.inj (latest.symm.trans ends)
  exact found finds

/-- A monitor's own pattern, its only one, matches a metric that a rule needs and that is not
loaded, and nothing is found for the monitor. -/
def Suppresses (monitors : List Monitor) (rule : Rule) (metric : String) : Prop :=
  ∃ m ∈ monitors, ∃ regex, m.keepRegexes = [regex] ∧ FindsWhole regex metric ∧
    rule.Needs metric ∧ .ofRule rule (some m.name) (some metric) .notLoaded ∉
      reconcile [rule] .empty (aggregate monitors)

/-- A monitor of services takes the place of the monitor of pods of the same name. -/
theorem suppresses_same_name :
    Suppresses [keeping .pod "m" "foo", keeping .service "m" "bar"] (alertOn "foo") "foo" := by
  refine ⟨_, List.mem_cons_self, "foo", keepRegexes_keeping .pod "m" "foo",
    verdict?_eq_notLoaded_iff.mp (by cbv), alertOn_foo_needs, fun found => ?_⟩
  obtain ⟨-, regex, entry, answer⟩ :=
    (mem_reconcile_iff (List.mem_singleton_self _) alertOn_foo_needs).mp found
  obtain ⟨last, ends, rfl⟩ := mem_aggregate_iff.mp entry
  have latest : (declared [keeping .pod "m" "foo", keeping .service "m" "bar"] "m").getLast? =
      some "bar" := by cbv
  obtain rfl : "bar" = last := Option.some.inj (latest.symm.trans ends)
  have bare : stripOuterGroup "bar" = "bar" := by cbv
  have bar : ofText? (anchored "bar") = some (whole (.seq (.one (.range 'b' 'b'))
      (.seq (.one (.range 'a' 'a')) (.one (.range 'r' 'r'))))) := by cbv
  have absent : (whole (.seq (.one (.range 'b' 'b')) (.seq (.one (.range 'a' 'a'))
      (.one (.range 'r' 'r'))))).isFoundIn "foo" = false := by cbv
  obtain ⟨p, read, found⟩ := verdict?_eq_notLoaded_iff.mp answer
  rw [bare, bar] at read
  cases read
  rw [absent] at found
  cases found

/-! ## The pattern as it was declared -/

/-- The findings for a monitor and a metric are those that its pattern, as it was declared,
stands for: an error if it is no pattern, a missing metric if it spans all of the name, and
nothing else. -/
structure Faithful (rules : List Rule) (loaded : NameSet) (index : RegexIndex) (rule : Rule)
    (monitor regex metric : String) : Prop where
  invalid : .ofRule rule (some monitor) (some metric) (.regexError regex) ∈
    reconcile rules loaded index ↔ isValid regex = false
  spans : .ofRule rule (some monitor) (some metric) .notLoaded ∈ reconcile rules loaded index ↔
    ∃ p, ofText? regex = some p ∧ p.SpansAll metric
  only : ∀ kind, .ofRule rule (some monitor) (some metric) kind ∈ reconcile rules loaded index →
    kind = .regexError regex ∨ kind = .notLoaded

/-- **The answers are those of the declared pattern exactly if** it does not end in a comment,
and if it does not close a group that it did not open, or is no pattern between the anchors
either. The nesting limit is left aside. -/
theorem faithful_iff (listed : rule ∈ rules) (needs : rule.Needs metric)
    (missing : metric ∉ loaded) (entry : (monitor, regex) ∈ index.entries)
    (shallow : Shallow regex) (anchoredShallow : Shallow (anchored regex)) :
    Faithful rules loaded index rule monitor regex metric ↔
      ¬ EndsInComment regex ∧ (¬ ClosesForeign regex ∨ isValid (anchored regex) = false) := by
  have answers (kind : FindingKind) : .ofRule rule (some monitor) (some metric) kind ∈
      reconcile rules loaded index ↔ verdict? regex metric = some kind := by
    rw [mem_reconcile_iff listed needs]
    constructor
    · intro h
      rcases h with ⟨-, r, other, answer⟩
      exact RegexIndex.entry_unique entry other ▸ answer
    · exact fun answer => ⟨missing, regex, entry, answer⟩
  rw [← anchors_iff metric shallow anchoredShallow]
  constructor
  · intro h
    rcases h with ⟨invalid, spans, -⟩
    rw [answers, verdict?_eq_regexError_iff, and_iff_left rfl] at invalid
    rw [answers, verdict?_eq_notLoaded_iff] at spans
    exact ⟨invalid, spans⟩
  · intro h
    rcases h with ⟨invalid, spans⟩
    refine ⟨?_, ?_, fun kind found => verdict?_cases ((answers kind).mp found)⟩
    · rw [answers, verdict?_eq_regexError_iff, and_iff_left rfl]
      exact invalid
    · rw [answers, verdict?_eq_notLoaded_iff]
      exact spans

/-- A repetition keeps its meaning between the anchors. -/
theorem faithful_repetition :
    Faithful [alertOn "foo"] .empty (RegexIndex.empty.insert "m" "fo+") (alertOn "foo") "m" "fo+"
      "foo" := by
  have shallow : Shallow "fo+" := shallow_iff.mpr (by cbv)
  have anchoredShallow : Shallow (anchored "fo+") := shallow_iff.mpr (by cbv)
  refine (faithful_iff (List.mem_singleton_self _) alertOn_foo_needs List.not_mem_nil
    (List.mem_singleton_self _) shallow anchoredShallow).mpr ⟨fun ends => ?_, ?_⟩
  · have refused : (piece? ("fo+" ++ ")")).isSome = false := by cbv
    cases refused.symm.trans ends.2
  · have pattern : (piece? "fo+").isSome = true := by cbv
    obtain ⟨p, read⟩ := Option.isSome_iff_exists.mp pattern
    exact .inl (not_closesForeign read)

/-- A text that is no pattern is taken for one, and a pattern for none. -/
theorem mistakes_parenthesis_and_comment :
    (isValid "foo)|(?:bar" = false ∧
      .ofRule (alertOn "foobar") (some "m") (some "foobar") .notLoaded ∈
        reconcile [alertOn "foobar"] .empty (RegexIndex.empty.insert "m" "foo)|(?:bar")) ∧
    ((∃ p, ofText? "(?x)foo #c" = some p ∧ p.SpansAll "foo") ∧
      .ofRule (alertOn "foo") (some "m") (some "foo") (.regexError "(?x)foo #c") ∈
        reconcile [alertOn "foo"] .empty (RegexIndex.empty.insert "m" "(?x)foo #c")) := by
  have needs : (alertOn "foobar").Needs "foobar" := alertOn_needs (by decide) (by cbv)
  refine ⟨⟨by cbv, ?_⟩, ?_, ?_⟩
  · exact (mem_reconcile_iff (List.mem_singleton_self _) needs).mpr
      ⟨List.not_mem_nil, _, List.mem_singleton_self _, by cbv⟩
  · have read : ofText? "(?x)foo #c" = some (.seq .nothing (.seq (.one (.range 'f' 'f'))
        (.seq (.one (.range 'o' 'o')) (.one (.range 'o' 'o'))))) := by cbv
    refine ⟨_, read, isFoundIn_whole.mp (by cbv)⟩
  · exact (mem_reconcile_iff (List.mem_singleton_self _) alertOn_foo_needs).mpr
      ⟨List.not_mem_nil, _, List.mem_singleton_self _, by cbv⟩

end

end ProfileAudit
