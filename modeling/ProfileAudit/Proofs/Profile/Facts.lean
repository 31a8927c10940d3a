import Mathlib
import ProfileAudit.Proofs.Profile.Reconcile

/-!
# Every fact once

What there is to report is settled without regard to how reconciliation goes about it: a kind
that is not known, a query that cannot be read, and of every metric that a rule needs and that
is not loaded, the monitors whose patterns are none or match it. Reconciliation lists exactly
these facts, each one once (`lists_reconcile`). The order of the list is that of the rules, then
of the metrics, then of the monitors; it leaves no room for a fact to come twice.
-/

namespace ProfileAudit

open Pattern

/-! ## Facts -/

/-- What there is to report about one rule: about itself, or about a metric and a monitor. -/
inductive Rule.Reports (r : Rule) (loaded : NameSet) (index : RegexIndex) :
    Option (String × String) → FindingKind → Prop
  | unknown {name : String} : r.kind = .unknown name →
    r.Reports loaded index none (.unknownRuleKind name)
  | unread {fault : Query.Fault} : (∀ name, r.kind ≠ .unknown name) →
    Blank.isAll r.query = false → Query.referencedMetrics r.query = .error fault →
    r.Reports loaded index none (.parseError fault)
  | invalid {metric monitor regex : String} : r.Needs metric → metric ∉ loaded →
    (monitor, regex) ∈ index.entries → isValid (anchored regex) = false →
    r.Reports loaded index (some (metric, monitor)) (.regexError regex)
  | admitted {metric monitor regex : String} : r.Needs metric → metric ∉ loaded →
    (monitor, regex) ∈ index.entries → FindsWhole regex metric →
    r.Reports loaded index (some (metric, monitor)) .notLoaded

/-- Something to report about the rule at a position. -/
structure Fact where
  position : Nat
  rule : Rule
  /-- The metric and the monitor, unless it is about the rule alone. -/
  subject : Option (String × String)
  kind : FindingKind

namespace Fact

def finding (f : Fact) : Finding :=
  .ofRule f.rule (f.subject.map (·.2)) (f.subject.map (·.1)) f.kind

/-- The order of the rules, then of the metrics, then of the monitors. Facts about one and the
same subject do not come before one another. -/
def Before (f g : Fact) : Prop :=
  f.position < g.position ∨ f.position = g.position ∧
    ∃ p ∈ f.subject, ∃ q ∈ g.subject, p.1 < q.1 ∨ p.1 = q.1 ∧ p.2 < q.2

/-- The fact holds of the rule that stands at its position. -/
def Holds (rules : List Rule) (loaded : NameSet) (index : RegexIndex) (f : Fact) : Prop :=
  rules[f.position]? = some f.rule ∧ f.rule.Reports loaded index f.subject f.kind

/-- The fact holds of the given rule at the given position. -/
def HoldsOf (position : Nat) (rule : Rule) (loaded : NameSet) (index : RegexIndex)
    (f : Fact) : Prop :=
  f.position = position ∧ f.rule = rule ∧ rule.Reports loaded index f.subject f.kind

end Fact

/-! ## Lists of facts -/

/-- Findings that are just the given facts, in order and each one once. -/
def Lists (found : List Finding) (what : Fact → Prop) : Prop :=
  ∃ facts : List Fact, found = facts.map Fact.finding ∧ facts.Pairwise Fact.Before ∧
    ∀ f, f ∈ facts ↔ what f

namespace Lists

variable {found found' : List Finding} {what what' : Fact → Prop}

theorem congr (lists : Lists found what) (same : ∀ f, what f ↔ what' f) : Lists found what' := by
  obtain ⟨facts, eq, ordered, complete⟩ := lists
  exact ⟨facts, eq, ordered, fun f => (complete f).trans (same f)⟩

theorem none (nothing : ∀ f, ¬ what f) : Lists [] what :=
  ⟨[], rfl, .nil, fun f => iff_of_false List.not_mem_nil (nothing f)⟩

theorem one (fact : Fact) (only : ∀ f, what f ↔ f = fact) : Lists [fact.finding] what :=
  ⟨[fact], rfl, List.pairwise_singleton _ _, fun f => List.mem_singleton.trans (only f).symm⟩

theorem append (lists : Lists found what) (lists' : Lists found' what')
    (apart : ∀ f g, what f → what' g → f.Before g) :
    Lists (found ++ found') fun f => what f ∨ what' f := by
  obtain ⟨facts, rfl, ordered, complete⟩ := lists
  obtain ⟨facts', rfl, ordered', complete'⟩ := lists'
  refine ⟨facts ++ facts', List.map_append.symm, List.pairwise_append.mpr ?_, fun f => ?_⟩
  · exact ⟨ordered, ordered', fun f hf g hg => apart f g ((complete f).mp hf) ((complete' g).mp hg)⟩
  · rw [List.mem_append, complete, complete']

/-- What a loop lists, if what its rounds list stands in the order of the rounds. -/
theorem flatMap {α : Type} {as : List α} {found : α → List Finding} {what : α → Fact → Prop}
    (each : ∀ a ∈ as, Lists (found a) (what a))
    (apart : as.Pairwise fun a b => ∀ f g, what a f → what b g → f.Before g) :
    Lists (as.flatMap found) fun f => ∃ a ∈ as, what a f := by
  induction as with
  | nil => exact .none (by simp)
  | cons a as ih =>
      rw [List.pairwise_cons] at apart
      have rest := ih (fun b member => each b (List.mem_cons_of_mem a member)) apart.2
      have first := each a List.mem_cons_self
      refine (first.append rest fun f g hf hg => ?_).congr fun f => ?_
      · obtain ⟨b, member, hg⟩ := hg
        exact apart.1 b member f g hf hg
      · rw [List.exists_mem_cons_iff]

end Lists

/-! ## Reconciliation -/

section

variable {rule : Rule} {loaded : NameSet} {index : RegexIndex} {metric monitor regex : String}
  {kind : FindingKind}

/-- What a monitor's pattern has to say of a metric is a fact, and all facts are of that kind. -/
theorem Rule.reports_about_iff : rule.Reports loaded index (some (metric, monitor)) kind ↔
    rule.Needs metric ∧ metric ∉ loaded ∧ ∃ regex, (monitor, regex) ∈ index.entries ∧
      verdict? regex metric = some kind := by
  constructor
  · intro reports
    cases reports with
    | invalid needs missing entry invalid =>
        refine ⟨needs, missing, _, entry, verdict?_eq_regexError_iff.mpr ⟨?_, rfl⟩⟩
        simpa [isValid] using invalid
    | admitted needs missing entry finds =>
        exact ⟨needs, missing, _, entry, verdict?_eq_notLoaded_iff.mpr finds⟩
  · intro h
    obtain ⟨needs, missing, regex, entry, answer⟩ := h
    rcases verdict?_cases answer with rfl | rfl
    · refine .invalid needs missing entry ?_
      rw [isValid, (verdict?_eq_regexError_iff.mp answer).1]
      rfl
    · exact .admitted needs missing entry (verdict?_eq_notLoaded_iff.mp answer)

/-- The monitors are asked about one metric in the order of their names. -/
theorem lists_monitors (position : Nat) (rule : Rule) (index : RegexIndex) (metric : String) :
    Lists ((index.entries.map Admission.ofEntry).filterMap fun a =>
        (a.verdict? metric).map (.ofRule rule (some a.monitor) (some metric)))
      fun f => f.position = position ∧ f.rule = rule ∧ ∃ monitor regex,
        (monitor, regex) ∈ index.entries ∧ f.subject = some (metric, monitor) ∧
          verdict? regex metric = some f.kind := by
  have rounds : ∀ e ∈ index.entries, Lists
      ((verdict? e.2 metric).map (.ofRule rule (some e.1) (some metric))).toList
      fun f => f.position = position ∧ f.rule = rule ∧ f.subject = some (metric, e.1) ∧
        verdict? e.2 metric = some f.kind := by
    intro e _
    cases answer : verdict? e.2 metric with
    | none => exact .none (by simp)
    | some kind =>
        refine .one ⟨position, rule, some (metric, e.1), kind⟩ fun f => ?_
        obtain ⟨p, r, s, k⟩ := f
        simp [eq_comm]
  have apart : index.entries.Pairwise fun e e' => e.1 < e'.1 := List.pairwise_map.mp index.ordered
  rw [List.filterMap_map, List.filterMap_eq_flatMap_toList]
  refine (Lists.flatMap rounds (apart.imp ?_)).congr fun f => ?_
  · rintro e e' less f g ⟨hf, -, sf, -⟩ ⟨hg, -, sg, -⟩
    exact .inr ⟨hf.trans hg.symm, _, sf, _, sg, .inr ⟨rfl, less⟩⟩
  · constructor
    · rintro ⟨e, entry, hp, hr, hs, answer⟩
      exact ⟨hp, hr, e.1, e.2, entry, hs, answer⟩
    · rintro ⟨hp, hr, monitor, regex, entry, hs, answer⟩
      exact ⟨(monitor, regex), entry, hp, hr, hs, answer⟩

/-- A rule's metrics are taken in the order of their names. -/
theorem lists_metrics {metrics : NameSet} (position : Nat)
    (known : ∀ name, rule.kind ≠ .unknown name) (asks : Blank.isAll rule.query = false)
    (references : Query.referencedMetrics rule.query = .ok metrics) :
    Lists (rule.findings loaded (index.entries.map Admission.ofEntry))
      (Fact.HoldsOf position rule loaded index) := by
  have needs_iff (metric : String) : metric ∈ metrics.toList.filter (!loaded.contains ·) ↔
      rule.Needs metric ∧ metric ∉ loaded := by
    rw [List.mem_filter, Bool.not_eq_true', ← Bool.not_eq_true, NameSet.contains_eq_true_iff]
    refine and_congr_left fun _ => ⟨fun member => ⟨known, asks, metrics, references, member⟩, ?_⟩
    rintro ⟨-, -, others, same, member⟩
    rw [references] at same
    cases same
    exact member
  rw [Rule.findings_of_references known asks references]
  refine (Lists.flatMap (fun metric _ => lists_monitors position rule index metric)
    ((metrics.ordered.filter _).imp ?_)).congr fun f => ?_
  · rintro m m' less f g ⟨hf, -, n, -, -, sf, -⟩ ⟨hg, -, n', -, -, sg, -⟩
    exact .inr ⟨hf.trans hg.symm, (m, n), sf, (m', n'), sg, .inl less⟩
  · obtain ⟨p, r, s, k⟩ := f
    constructor
    · rintro ⟨metric, member, rfl, rfl, monitor, regex, entry, rfl, answer⟩
      obtain ⟨needs, missing⟩ := (needs_iff metric).mp member
      exact ⟨rfl, rfl, Rule.reports_about_iff.mpr ⟨needs, missing, regex, entry, answer⟩⟩
    · rintro ⟨rfl, rfl, reports⟩
      rcases s with _ | ⟨metric, monitor⟩
      · -- a rule that can be asked for its metrics is no fact of its own
        cases reports with
        | unknown unknown => exact absurd unknown (known _)
        | unread _ _ fails => cases references.symm.trans fails
      · obtain ⟨needs, missing, regex, entry, answer⟩ := Rule.reports_about_iff.mp reports
        exact ⟨metric, (needs_iff metric).mpr ⟨needs, missing⟩, rfl, rfl, monitor, regex, entry,
          rfl, answer⟩

/-- A rule of an unknown kind has its kind reported. -/
theorem lists_unknown {name : String} (position : Nat) (unknown : rule.kind = .unknown name) :
    Lists (rule.findings loaded (index.entries.map Admission.ofEntry))
      (Fact.HoldsOf position rule loaded index) := by
  rw [Rule.findings_of_unknown unknown]
  refine .one ⟨position, rule, none, .unknownRuleKind name⟩ fun f => ?_
  obtain ⟨p, r, s, k⟩ := f
  constructor
  · rintro ⟨rfl, rfl, reports⟩
    cases reports with
    | unknown other =>
        cases unknown.symm.trans other
        rfl
    | unread known => exact absurd unknown (known name)
    | invalid needs => exact absurd unknown (needs.known name)
    | admitted needs => exact absurd unknown (needs.known name)
  · intro same
    cases same
    exact ⟨rfl, rfl, .unknown unknown⟩

/-- A query of blanks alone is passed over. -/
theorem lists_blank (position : Nat) (known : ∀ name, rule.kind ≠ .unknown name)
    (blank : Blank.isAll rule.query = true) :
    Lists (rule.findings loaded (index.entries.map Admission.ofEntry))
      (Fact.HoldsOf position rule loaded index) := by
  rw [Rule.findings_of_blank known blank]
  refine .none fun f h => ?_
  obtain ⟨-, -, reports⟩ := h
  generalize f.subject = s, f.kind = k at reports
  cases reports with
  | unknown unknown => exact known _ unknown
  | unread _ asks => cases blank.symm.trans asks
  | invalid needs => cases blank.symm.trans needs.asks
  | admitted needs => cases blank.symm.trans needs.asks

/-- A query that cannot be read has its fault reported. -/
theorem lists_unread {fault : Query.Fault} (position : Nat)
    (known : ∀ name, rule.kind ≠ .unknown name) (asks : Blank.isAll rule.query = false)
    (fails : Query.referencedMetrics rule.query = .error fault) :
    Lists (rule.findings loaded (index.entries.map Admission.ofEntry))
      (Fact.HoldsOf position rule loaded index) := by
  have unreadable (metric : String) : ¬ rule.Needs metric := by
    intro needs
    obtain ⟨metrics, references, -⟩ := needs.references
    cases fails.symm.trans references
  rw [Rule.findings_of_fault known asks fails]
  refine .one ⟨position, rule, none, .parseError fault⟩ fun f => ?_
  obtain ⟨p, r, s, k⟩ := f
  constructor
  · rintro ⟨rfl, rfl, reports⟩
    cases reports with
    | unknown unknown => exact absurd unknown (known _)
    | unread _ _ fails' =>
        cases fails.symm.trans fails'
        rfl
    | invalid needs => exact absurd needs (unreadable _)
    | admitted needs => exact absurd needs (unreadable _)
  · intro same
    cases same
    exact ⟨rfl, rfl, .unread known asks fails⟩

/-- The findings on a rule are what there is to report about it. -/
theorem Rule.lists_findings (position : Nat) (rule : Rule) (loaded : NameSet)
    (index : RegexIndex) : Lists (rule.findings loaded (index.entries.map Admission.ofEntry))
      (Fact.HoldsOf position rule loaded index) := by
  by_cases known : ∀ name, rule.kind ≠ .unknown name
  · cases asks : Blank.isAll rule.query with
    | true => exact lists_blank position known asks
    | false =>
        cases references : Query.referencedMetrics rule.query with
        | ok metrics => exact lists_metrics position known asks references
        | error fault => exact lists_unread position known asks references
  · rw [not_forall_not] at known
    obtain ⟨name, unknown⟩ := known
    exact lists_unknown position unknown

end

end ProfileAudit
