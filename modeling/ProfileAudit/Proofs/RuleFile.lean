import ProfileAudit.Proofs.Names
import ProfileAudit.Proofs.Result
import ProfileAudit.RuleFile

/-!
# Files of rules that are accepted

A file is accepted if and only if its groups have different names and each of its rules records
or raises an alert from an expression that is not blank and parses
(`exists_metricsInRuleFile_iff`). Its metrics are those that some expression references
(`covers_of_accepted`).
-/

namespace ProfileAudit

/-- The rules that a file holds, group by group. -/
def rulesInFile? (files : FileTree) (path : String) : Option (List FileRule) := do
  let text ← (files.readFor path "reading rule file").toOption
  let groups ← RuleGroup.listOfText? text
  return groups.flatMap (·.rules)

/-- The text that a rule asks for. -/
def FileRule.query (r : FileRule) : String := r.expr.getD ""

/-- The query of a rule is not blank, and it references some metrics. -/
structure FileRule.References (r : FileRule) (metrics : NameSet) : Prop where
  asks : Blank.isAll r.query = false
  references : Query.referencedMetrics r.query = .ok metrics

/-- All rules reference metrics, and taken together they reference those of the set. -/
structure Covers (rules : List FileRule) (metrics : NameSet) : Prop where
  each : ∀ r ∈ rules, ∃ own, r.References own
  mem_iff : ∀ a, a ∈ metrics ↔ ∃ r ∈ rules, ∃ own, r.References own ∧ a ∈ own

variable {path group : String} {metrics : NameSet}

theorem FileRule.references_of_metrics {r : FileRule} {place : Nat}
    (accepted : r.metrics path group place = .ok metrics) : r.References metrics := by
  obtain ⟨label, -, accepted⟩ := bind_eq_ok_iff.mp accepted
  dsimp only at accepted
  split at accepted
  · cases accepted
  · next asks =>
      split at accepted
      · next own references =>
          cases accepted
          exact ⟨Bool.not_eq_true _ ▸ asks, references⟩
      · cases accepted

theorem FileRule.References.unique {r : FileRule} {own other : NameSet}
    (first : r.References own) (second : r.References other) : own = other :=
  Except.ok.inj (first.references.symm.trans second.references)

namespace Covers

theorem nil : Covers [] .empty := by
  refine ⟨fun r member => absurd member List.not_mem_nil, fun a => ?_⟩
  exact iff_of_false List.not_mem_nil fun ⟨r, member, _⟩ => List.not_mem_nil member

theorem cons {r : FileRule} {rules : List FileRule} {own : NameSet} (first : r.References own)
    (rest : Covers rules metrics) : Covers (r :: rules) (own.union metrics) := by
  refine ⟨List.forall_mem_cons.mpr ⟨⟨own, first⟩, rest.each⟩, fun a => ?_⟩
  simp only [NameSet.mem_union, rest.mem_iff, List.mem_cons, exists_eq_or_imp]
  refine or_congr_left ?_
  constructor
  · exact fun member => ⟨own, first, member⟩
  · rintro ⟨other, second, member⟩
    exact first.unique second ▸ member

theorem append {rules more : List FileRule} {own : NameSet} (first : Covers rules own)
    (rest : Covers more metrics) : Covers (rules ++ more) (own.union metrics) := by
  refine ⟨List.forall_mem_append.mpr ⟨first.each, rest.each⟩, fun a => ?_⟩
  simp only [NameSet.mem_union, first.mem_iff, rest.mem_iff, List.mem_append, or_and_right,
    exists_or]

end Covers

theorem FileRule.allMetrics_cons_eq_ok_iff {r : FileRule} {rules : List FileRule} {place : Nat} :
    FileRule.allMetrics path group place (r :: rules) = .ok metrics ↔
      ∃ own, r.metrics path group place = .ok own ∧
        ∃ later, FileRule.allMetrics path group (place + 1) rules = .ok later ∧
          own.union later = metrics := by
  simp only [FileRule.allMetrics, bind_eq_ok_iff, pure, Except.pure, Except.ok.injEq]

theorem RuleGroup.allMetrics_cons_eq_ok_iff {g : RuleGroup} {groups : List RuleGroup}
    {seen : List String} :
    RuleGroup.allMetrics path seen (g :: groups) = .ok metrics ↔ g.name ≠ "" ∧ g.name ∉ seen ∧
      ∃ own, FileRule.allMetrics path g.name 1 g.rules = .ok own ∧
        ∃ later, RuleGroup.allMetrics path (g.name :: seen) groups = .ok later ∧
          own.union later = metrics := by
  rw [RuleGroup.allMetrics]
  by_cases nameless : g.name = ""
  · simp [nameless, bind_eq_ok_iff]
  · by_cases again : g.name ∈ seen
    · simp [nameless, again, bind_eq_ok_iff]
    · simp only [String.isEmpty_iff, nameless, List.contains_iff_mem, again, if_false,
        bind_eq_ok_iff, pure, Except.pure, Except.ok.injEq, ne_eq, not_false_eq_true, true_and]

theorem covers_of_rules {rules : List FileRule} {place : Nat}
    (accepted : FileRule.allMetrics path group place rules = .ok metrics) :
    Covers rules metrics := by
  induction rules generalizing place metrics with
  | nil =>
      cases accepted
      exact .nil
  | cons r rules ih =>
      obtain ⟨own, here, later, rest, rfl⟩ := FileRule.allMetrics_cons_eq_ok_iff.mp accepted
      exact .cons (FileRule.references_of_metrics here) (ih rest)

theorem covers_of_groups {groups : List RuleGroup} {seen : List String}
    (accepted : RuleGroup.allMetrics path seen groups = .ok metrics) :
    Covers (groups.flatMap (·.rules)) metrics := by
  induction groups generalizing seen metrics with
  | nil =>
      cases accepted
      exact .nil
  | cons g groups ih =>
      obtain ⟨-, -, own, here, later, rest, rfl⟩ := RuleGroup.allMetrics_cons_eq_ok_iff.mp accepted
      exact .append (covers_of_rules here) (ih rest)

/-- **The metrics of a file that is accepted are those that its rules reference**, all of
them. -/
theorem covers_of_accepted {files : FileTree}
    (accepted : metricsInRuleFile files path = .ok metrics) :
    ∃ rules, rulesInFile? files path = some rules ∧ Covers rules metrics := by
  obtain ⟨text, held, accepted⟩ := bind_eq_ok_iff.mp accepted
  obtain ⟨groups, parsed, accepted⟩ := bind_eq_ok_iff.mp accepted
  have parsed : RuleGroup.listOfText? text = some groups := orFail_eq_ok_iff.mp parsed
  refine ⟨_, ?_, covers_of_groups accepted⟩
  rw [rulesInFile?, held]
  change (RuleGroup.listOfText? text).bind _ = _
  rw [parsed]
  rfl

/-! ## Acceptance -/

theorem readFor_eq_ok_iff {files : FileTree} {what text : String} :
    files.readFor path what = .ok text ↔ files.read path = .ok text := by
  unfold FileTree.readFor
  cases files.read path with
  | error fault => exact iff_of_false nofun nofun
  | ok held =>
      change (Except.ok held : Except Failure String) = Except.ok text ↔ _
      rw [Except.ok.injEq, Except.ok.injEq]

/-- A rule either records or raises an alert, and references some metrics. -/
structure FileRule.InOrder (r : FileRule) : Prop where
  kind : r.record.isSome ≠ r.alert.isSome
  references : ∃ own, r.References own

/-- The groups have names, no two of them the same, and their rules are in order. -/
structure RuleGroup.InOrder (groups : List RuleGroup) : Prop where
  named : ∀ g ∈ groups, g.name ≠ ""
  distinct : (groups.map (·.name)).Nodup
  rules : ∀ g ∈ groups, ∀ r ∈ g.rules, r.InOrder

theorem FileRule.exists_label_iff {r : FileRule} {complain : String → Failure} :
    (∃ label, r.label? complain = .ok label) ↔ r.record.isSome ≠ r.alert.isSome := by
  unfold FileRule.label?
  cases r.record <;> cases r.alert <;> simp

theorem FileRule.inOrder_iff {r : FileRule} {place : Nat} :
    r.InOrder ↔ ∃ metrics, r.metrics path group place = .ok metrics := by
  constructor
  · rintro ⟨kind, own, asks, references⟩
    obtain ⟨label, labelled⟩ := exists_label_iff.mpr kind
    refine ⟨own, bind_eq_ok_iff.mpr ⟨label, labelled, ?_⟩⟩
    unfold query at asks references
    simp only [asks, references, Bool.false_eq_true, if_false]
  · rintro ⟨metrics, accepted⟩
    obtain ⟨label, labelled, -⟩ := bind_eq_ok_iff.mp accepted
    exact ⟨exists_label_iff.mp ⟨label, labelled⟩, metrics, references_of_metrics accepted⟩

theorem exists_rules_iff {rules : List FileRule} {place : Nat} :
    (∀ r ∈ rules, r.InOrder) ↔
      ∃ metrics, FileRule.allMetrics path group place rules = .ok metrics := by
  induction rules generalizing place with
  | nil => exact iff_of_true (fun r member => absurd member List.not_mem_nil) ⟨.empty, rfl⟩
  | cons r rules ih =>
      simp only [FileRule.allMetrics_cons_eq_ok_iff]
      rw [List.forall_mem_cons, FileRule.inOrder_iff, ih]
      constructor
      · rintro ⟨⟨own, here⟩, later, rest⟩
        exact ⟨own.union later, own, here, later, rest, rfl⟩
      · rintro ⟨_, own, here, later, rest, -⟩
        exact ⟨⟨own, here⟩, later, rest⟩

theorem RuleGroup.inOrder_cons {g : RuleGroup} {groups : List RuleGroup} :
    InOrder (g :: groups) ↔ (g.name ≠ "" ∧ ∀ r ∈ g.rules, r.InOrder) ∧
      (∀ g' ∈ groups, g'.name ≠ g.name) ∧ InOrder groups := by
  constructor
  · rintro ⟨named, distinct, rules⟩
    rw [List.forall_mem_cons] at named rules
    rw [List.map_cons, List.nodup_cons, List.mem_map] at distinct
    refine ⟨⟨named.1, rules.1⟩, ?_, named.2, distinct.2, rules.2⟩
    exact fun g' member same => distinct.1 ⟨g', member, same⟩
  · rintro ⟨⟨name, first⟩, fresh, named, distinct, rules⟩
    refine ⟨List.forall_mem_cons.mpr ⟨name, named⟩, List.nodup_cons.mpr ⟨?_, distinct⟩,
      List.forall_mem_cons.mpr ⟨first, rules⟩⟩
    rw [List.mem_map]
    exact fun ⟨g', member, same⟩ => fresh g' member same

/-- Groups are accepted if they are in order, and none of them has a name seen before. -/
theorem exists_groups_iff {groups : List RuleGroup} {seen : List String} :
    (RuleGroup.InOrder groups ∧ ∀ g ∈ groups, g.name ∉ seen) ↔
      ∃ metrics, RuleGroup.allMetrics path seen groups = .ok metrics := by
  induction groups generalizing seen with
  | nil =>
      refine iff_of_true ⟨⟨?_, .nil, ?_⟩, ?_⟩ ⟨.empty, rfl⟩
      all_goals exact fun g member => absurd member List.not_mem_nil
  | cons g groups ih =>
      simp only [RuleGroup.allMetrics_cons_eq_ok_iff]
      rw [RuleGroup.inOrder_cons, List.forall_mem_cons]
      constructor
      · rintro ⟨⟨⟨name, first⟩, fresh, rest⟩, new, others⟩
        obtain ⟨own, here⟩ := exists_rules_iff.mp first
        obtain ⟨later, rest⟩ := ih.mp ⟨rest, fun g' member => List.not_mem_cons_of_ne_of_not_mem
          (fresh g' member) (others g' member)⟩
        exact ⟨_, name, new, own, here, later, rest, rfl⟩
      · rintro ⟨_, name, new, own, here, later, rest, -⟩
        obtain ⟨rest, others⟩ := ih.mpr ⟨later, rest⟩
        refine ⟨⟨⟨name, exists_rules_iff.mpr ⟨own, here⟩⟩, fun g' member => ?_, rest⟩, new,
          fun g' member => ?_⟩
        · exact List.ne_of_not_mem_cons (others g' member)
        · exact List.not_mem_of_not_mem_cons (others g' member)

/-- A file of rules is accepted if and only if it can be read and its groups are in order. -/
theorem exists_metricsInRuleFile_iff {files : FileTree} :
    (∃ metrics, metricsInRuleFile files path = .ok metrics) ↔
      ∃ text, files.read path = .ok text ∧
        ∃ groups, RuleGroup.listOfText? text = some groups ∧ RuleGroup.InOrder groups := by
  have accepted (groups : List RuleGroup) : RuleGroup.InOrder groups ↔
      ∃ metrics, RuleGroup.allMetrics path [] groups = .ok metrics :=
    (and_iff_left fun g _ => List.not_mem_nil).symm.trans exists_groups_iff
  simp only [metricsInRuleFile, bind_eq_ok_iff, readFor_eq_ok_iff, orFail_eq_ok_iff, accepted]
  constructor
  · rintro ⟨metrics, text, held, groups, parsed, accepted⟩
    exact ⟨text, held, groups, parsed, metrics, accepted⟩
  · rintro ⟨text, held, groups, parsed, metrics, accepted⟩
    exact ⟨metrics, text, held, groups, parsed, accepted⟩

end ProfileAudit
