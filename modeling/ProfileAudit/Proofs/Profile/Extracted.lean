import ProfileAudit.Proofs.Profile.Reconcile
import ProfileAudit.Proofs.Report.Relabel
import ProfileAudit.Proofs.RuleFile

/-!
# Monitors that keep what a rule file needs

From the metrics of a rule file a relabeling is made that keeps them. A monitor with this
relabeling is then reconciled with the rules of the file: its index entry is the choice between
the escaped names (`stripOuterGroup_ofMetrics`), which matches each of them, and all rules parse.
So a finding stands exactly where a metric is not loaded (`reconcile_extracted`).
-/

namespace ProfileAudit

open Pattern

/-! ## The entry of the monitor -/

theorem insideParens?_group (inner : String) : insideParens? ("(" ++ inner ++ ")") = some inner := by
  unfold insideParens?
  rw [toList_group]
  change (if (inner.toList ++ [')']).getLast? = some ')' then
    some (String.ofList (inner.toList ++ [')']).dropLast) else none) = some inner
  rw [List.getLast?_concat, if_pos rfl, List.dropLast_concat, String.ofList_toList]

/-- The group of the relabeling is taken away again. -/
theorem stripOuterGroup_ofMetrics (metrics : NameSet) :
    stripOuterGroup (KeepRelabelConfig.ofMetrics metrics).regex = anyOf metrics.toList := by
  obtain ⟨p, chooses⟩ := exists_chooses metrics.toList
  rw [KeepRelabelConfig.regex_ofMetrics, stripOuterGroup, insideParens?_group]
  exact if_pos chooses.isValid

/-- Every metric of the set is matched. -/
theorem findsWhole_anyOf {metrics : NameSet} {metric : String} (member : metric ∈ metrics) :
    FindsWhole (anyOf metrics.toList) metric := by
  obtain ⟨p, chooses⟩ := exists_chooses metrics.toList
  refine ⟨_, chooses.ofText?_anchored, (chooses.isFoundIn metric).mpr ?_⟩
  rw [if_neg (List.ne_nil_of_mem member)]
  exact member

/-- A monitor with one pattern has one entry. -/
theorem entries_aggregate_singleton {m : Monitor} {regex : String}
    (keeps : m.keepRegexes = [regex]) :
    (aggregate [m]).entries = [(m.name, stripOuterGroup regex)] := by
  rw [aggregate_eq, declarations, List.flatMap_singleton, keeps]
  rfl

/-! ## Findings -/

/-- The rules of a file as a backend has loaded them, in some order: their kinds are known, and
their queries are those of the file. -/
structure LoadedFrom (held : List FileRule) (rules : List Rule) : Prop where
  known : ∀ r ∈ rules, ∀ name, r.kind ≠ .unknown name
  queries : (rules.map (·.query)).Perm (held.map (·.query))

/-- What is found on a rule whose metrics are all matched by the only monitor. -/
theorem Rule.findings_of_matched {r : Rule} {needed loaded : NameSet} {monitor regex : String}
    (known : ∀ name, r.kind ≠ .unknown name) (asks : Blank.isAll r.query = false)
    (references : Query.referencedMetrics r.query = .ok needed)
    (matched : ∀ metric ∈ needed, FindsWhole regex metric) :
    r.findings loaded ([(monitor, regex)].map Admission.ofEntry) =
      (needed.toList.filter (!loaded.contains ·)).map fun metric =>
        .ofRule r (some monitor) (some metric) .notLoaded := by
  rw [Rule.findings_of_references known asks references]
  refine (List.flatMap_congr fun metric listed => ?_).trans List.map_eq_flatMap.symm
  have answer : (Admission.ofEntry (monitor, regex)).verdict? metric = some .notLoaded :=
    verdict?_eq_notLoaded_iff.mpr (matched metric (List.mem_filter.mp listed).1)
  rw [List.map_singleton, List.filterMap_cons, answer]
  rfl

theorem LoadedFrom.mem_query {held : List FileRule} {rules : List Rule} {r : Rule}
    (loads : LoadedFrom held rules) (listed : r ∈ rules) : ∃ h ∈ held, h.query = r.query :=
  List.mem_map.mp (loads.queries.mem_iff.mp (List.mem_map_of_mem listed))

theorem LoadedFrom.exists_rule {held : List FileRule} {rules : List Rule} {h : FileRule}
    (loads : LoadedFrom held rules) (listed : h ∈ held) : ∃ r ∈ rules, r.query = h.query :=
  List.mem_map.mp (loads.queries.mem_iff.mpr (List.mem_map_of_mem listed))

/-- The metrics that the query of a rule references, of a query that parses. -/
def Rule.needs (r : Rule) : NameSet := (Query.referencedMetrics r.query).toOption.getD .empty

/-- The rules of a file that is accepted parse, and the metrics of the file are theirs. -/
theorem LoadedFrom.needs_iff {held : List FileRule} {rules : List Rule} {metrics : NameSet}
    (loads : LoadedFrom held rules) (covers : Covers held metrics) :
    (∀ r ∈ rules, Blank.isAll r.query = false ∧
      Query.referencedMetrics r.query = .ok r.needs) ∧
    ∀ a, a ∈ metrics ↔ ∃ r ∈ rules, a ∈ r.needs := by
  have own {r : Rule} {h : FileRule} {refs : NameSet} (same : h.query = r.query)
      (needed : h.References refs) : Blank.isAll r.query = false ∧
        Query.referencedMetrics r.query = .ok refs ∧ r.needs = refs := by
    obtain ⟨asks, references⟩ := needed
    rw [same] at asks references
    exact ⟨asks, references, by rw [Rule.needs, references]; rfl⟩
  refine ⟨fun r listed => ?_, fun a => ?_⟩
  · obtain ⟨h, member, same⟩ := loads.mem_query listed
    obtain ⟨refs, needed⟩ := covers.each h member
    obtain ⟨asks, references, rfl⟩ := own same needed
    exact ⟨asks, references⟩
  · rw [covers.mem_iff]
    constructor
    · intro needed
      rcases needed with ⟨h, member, refs, needed, listed⟩
      obtain ⟨r, loaded, same⟩ := loads.exists_rule member
      obtain ⟨-, -, rfl⟩ := own same.symm needed
      exact ⟨r, loaded, listed⟩
    · intro needed
      rcases needed with ⟨r, loaded, listed⟩
      obtain ⟨h, member, same⟩ := loads.mem_query loaded
      obtain ⟨refs, needed⟩ := covers.each h member
      obtain ⟨-, -, rfl⟩ := own same needed
      exact ⟨h, member, _, needed, listed⟩

/-- **Extraction and validation close the loop.** The rules of a file that is accepted are
reconciled with a monitor that keeps the metrics of the file: the findings are that a metric is
not loaded, one for each rule and each such metric that it references, and there are none
exactly if all metrics of the file are loaded. -/
theorem reconcile_extracted {files : FileTree} {path : String} {metrics : NameSet}
    (accepted : metricsInRuleFile files path = .ok metrics) {m : Monitor}
    (keeps : m.keepRegexes = [(KeepRelabelConfig.ofMetrics metrics).regex]) :
    ∃ held, rulesInFile? files path = some held ∧
      ∀ rules, LoadedFrom held rules →
        (∀ r ∈ rules, Query.referencedMetrics r.query = .ok r.needs) ∧
        ∀ loaded,
          (reconcile rules loaded (aggregate [m]) = rules.flatMap fun r =>
            (r.needs.toList.filter (!loaded.contains ·)).map fun metric =>
              .ofRule r (some m.name) (some metric) .notLoaded) ∧
          (reconcile rules loaded (aggregate [m]) = [] ↔
            ∀ metric ∈ metrics, metric ∈ loaded) := by
  obtain ⟨held, read, covers⟩ := covers_of_accepted accepted
  refine ⟨held, read, fun rules loads => ?_⟩
  obtain ⟨parse, mem_iff⟩ := loads.needs_iff covers
  refine ⟨fun r listed => (parse r listed).2, fun loaded => ?_⟩
  have found : reconcile rules loaded (aggregate [m]) = rules.flatMap fun r =>
      (r.needs.toList.filter (!loaded.contains ·)).map fun metric =>
        .ofRule r (some m.name) (some metric) .notLoaded := by
    unfold reconcile
    rw [entries_aggregate_singleton keeps, stripOuterGroup_ofMetrics]
    refine List.flatMap_congr fun r listed => ?_
    obtain ⟨asks, references⟩ := parse r listed
    exact Rule.findings_of_matched (loads.known r listed) asks references fun metric needed =>
      findsWhole_anyOf ((mem_iff metric).mpr ⟨r, listed, needed⟩)
  refine ⟨found, ?_⟩
  simp only [found, List.flatMap_eq_nil_iff, List.map_eq_nil_iff, List.filter_eq_nil_iff,
    Bool.not_eq_true', Bool.not_eq_false, NameSet.contains_eq_true_iff, mem_iff]
  constructor
  · intro all metric needed
    rcases needed with ⟨r, listed, needed⟩
    exact all r listed metric needed
  · exact fun all r listed metric needed => all metric ⟨r, listed, needed⟩

/-- A file with two rules, one of which asks for a metric with a bar in its name. -/
def twoRules : FileTree where
  nodes := [(["rules.yaml"], .file (.text
    "groups:\n- name: g\n  rules:\n  - alert: A\n    expr: up\n  - record: r\n    expr: '\x7b__name__=\"a|b\"\x7d'\n"))]

/-- The bar is taken for no choice: of the two metrics the one that is not loaded is found. -/
theorem reconcile_extracted_twoRules :
    ∃ metrics, metricsInRuleFile twoRules "rules.yaml" = .ok metrics ∧
      reconcile [alertOn "up", alertOn "\x7b__name__=\"a|b\"\x7d"] (.ofList ["up"])
          (aggregate [keeping .pod "m" (KeepRelabelConfig.ofMetrics metrics).regex]) =
        [.ofRule (alertOn "\x7b__name__=\"a|b\"\x7d") (some "m") (some "a|b") .notLoaded] := by
  have valid : (metricsInRuleFile twoRules "rules.yaml").toOption.isSome = true := by
    decide +kernel
  obtain ⟨metrics, accepted⟩ : ∃ metrics, metricsInRuleFile twoRules "rules.yaml" = .ok metrics := by
    cases read : metricsInRuleFile twoRules "rules.yaml" with
    | ok metrics => exact ⟨metrics, rfl⟩
    | error failure =>
        rw [read] at valid
        cases valid
  refine ⟨metrics, accepted, ?_⟩
  obtain ⟨held, read, closes⟩ := reconcile_extracted accepted (keepRegexes_keeping .pod "m" _)
  have queries : (rulesInFile? twoRules "rules.yaml").map (·.map (·.query)) =
      some ["up", "\x7b__name__=\"a|b\"\x7d"] := by decide +kernel
  rw [read, Option.map_some, Option.some.injEq] at queries
  obtain ⟨-, found⟩ := closes [alertOn "up", alertOn "\x7b__name__=\"a|b\"\x7d"]
    ⟨by simp [alertOn], by rw [queries]; exact .refl _⟩
  have up : (alertOn "up").needs.toList = ["up"] := by decide +kernel
  have bar : (alertOn "\x7b__name__=\"a|b\"\x7d").needs.toList = ["a|b"] := by decide +kernel
  have loaded : (NameSet.ofList ["up"]).contains "up" = true := by decide
  have missing : (NameSet.ofList ["up"]).contains "a|b" = false := by decide
  rw [(found _).1, List.flatMap_cons, List.flatMap_singleton, up, bar]
  simp only [List.filter, loaded, missing]
  rfl

end ProfileAudit
