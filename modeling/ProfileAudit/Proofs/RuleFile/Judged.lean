import Mathlib.Data.List.Forall2
import ProfileAudit.Proofs.RuleFile.FirstViolation

/-!
# Files of rules, accepted or refused

A file of which all groups are in order has the metrics that its rules reference, in whatever
order these are written. Any other file has no metrics, and is refused for its first violation
(`metricsInRuleFile_judged`).
-/

namespace ProfileAudit

variable {path : String} {metrics : NameSet}

/-! ## Other orders -/

theorem Covers.unique {rules : List FileRule} {other : NameSet} (first : Covers rules metrics)
    (second : Covers rules other) : metrics = other :=
  NameSet.eq_of_mem_iff fun a => (first.mem_iff a).trans (second.mem_iff a).symm

theorem Covers.of_perm {rules rules' : List FileRule} (perm : rules.Perm rules')
    (covers : Covers rules metrics) : Covers rules' metrics := by
  refine ⟨fun r member => covers.each r (perm.mem_iff.mpr member), fun a => ?_⟩
  simp only [covers.mem_iff, perm.mem_iff]

/-- Groups have metrics if and only if they are in order, and then those that their rules
reference. -/
theorem RuleGroup.allMetrics_eq_ok_iff {groups : List RuleGroup} :
    allMetrics path [] groups = .ok metrics ↔
      InOrder groups ∧ Covers (groups.flatMap (·.rules)) metrics := by
  constructor
  · intro accepted
    exact ⟨(exists_groups_iff.mpr ⟨metrics, accepted⟩).1, covers_of_groups accepted⟩
  · rintro ⟨inOrder, covers⟩
    obtain ⟨own, accepted⟩ := exists_groups_iff.mp ⟨inOrder, fun _ _ => List.not_mem_nil⟩
    rw [accepted, covers.unique (covers_of_groups accepted)]

/-- A group of the same name, with the same rules in some other order. -/
def RuleGroup.Reordered (g g' : RuleGroup) : Prop := g.name = g'.name ∧ g.rules.Perm g'.rules

/-- The same groups in some other order, each with its rules in some other order. -/
def Reordered (groups groups' : List RuleGroup) : Prop :=
  ∃ moved, groups.Perm moved ∧ List.Forall₂ RuleGroup.Reordered moved groups'

/-- Whether groups are in order depends on their names and on their rules, taken together. -/
theorem RuleGroup.inOrder_iff {groups : List RuleGroup} : InOrder groups ↔
    (∀ name ∈ groups.map (·.name), name ≠ "") ∧ (groups.map (·.name)).Nodup ∧
      ∀ r ∈ groups.flatMap (·.rules), r.InOrder := by
  rw [List.forall_mem_map, List.forall_mem_flatMap]
  constructor
  · rintro ⟨named, distinct, rules⟩
    exact ⟨named, distinct, rules⟩
  · rintro ⟨named, distinct, rules⟩
    exact ⟨named, distinct, rules⟩

theorem Reordered.perm_names {groups groups' : List RuleGroup}
    (reordered : Reordered groups groups') :
    (groups.map (·.name)).Perm (groups'.map (·.name)) := by
  obtain ⟨moved, perm, each⟩ := reordered
  have same : moved.map (·.name) = groups'.map (·.name) := by
    clear perm
    induction each with
    | nil => rfl
    | cons here _ ih => rw [List.map_cons, List.map_cons, here.1, ih]
  rw [← same]
  exact perm.map _

theorem Reordered.perm_rules {groups groups' : List RuleGroup}
    (reordered : Reordered groups groups') :
    (groups.flatMap (·.rules)).Perm (groups'.flatMap (·.rules)) := by
  obtain ⟨moved, perm, each⟩ := reordered
  refine (perm.flatMap_right _).trans ?_
  clear perm
  induction each with
  | nil => exact .refl _
  | cons here _ ih => exact here.2.append ih

theorem Reordered.inOrder_iff {groups groups' : List RuleGroup}
    (reordered : Reordered groups groups') :
    RuleGroup.InOrder groups ↔ RuleGroup.InOrder groups' := by
  simp only [RuleGroup.inOrder_iff, reordered.perm_names.mem_iff, reordered.perm_names.nodup_iff,
    reordered.perm_rules.mem_iff]

/-- The order of the groups and of their rules makes no difference to the metrics. -/
theorem Reordered.allMetrics_eq_ok_iff {groups groups' : List RuleGroup} {path' : String}
    (reordered : Reordered groups groups') :
    RuleGroup.allMetrics path [] groups = .ok metrics ↔
      RuleGroup.allMetrics path' [] groups' = .ok metrics := by
  rw [RuleGroup.allMetrics_eq_ok_iff, RuleGroup.allMetrics_eq_ok_iff, reordered.inOrder_iff]
  refine and_congr_right fun _ => ?_
  exact ⟨.of_perm reordered.perm_rules, .of_perm reordered.perm_rules.symm⟩

/-! ## Files -/

/-- What a file of groups is to give. -/
structure Judged (files : FileTree) (path : String) (groups : List RuleGroup) : Prop where
  /-- It has metrics if and only if its groups are in order. -/
  accepts : (∃ metrics, metricsInRuleFile files path = .ok metrics) ↔ RuleGroup.InOrder groups
  /-- These are the metrics that its rules reference. -/
  union : ∀ metrics, metricsInRuleFile files path = .ok metrics → ∀ a, a ∈ metrics ↔
    ∃ g ∈ groups, ∃ r ∈ g.rules, ∃ own, Query.referencedMetrics r.query = .ok own ∧ a ∈ own
  /-- Any file with the same groups in another order has the same ones. -/
  reordered : ∀ files' path' text' groups', files'.read path' = .ok text' →
    RuleGroup.listOfText? text' = some groups' → Reordered groups groups' → ∀ metrics,
      metricsInRuleFile files path = .ok metrics ↔ metricsInRuleFile files' path' = .ok metrics
  /-- Without metrics it is refused for the violation that stands first, and for no other. -/
  refuses : ∀ failure, metricsInRuleFile files path = .error failure ↔
    ∃ p, RuleGroup.ViolatesFirst path groups p failure

theorem metricsInRuleFile_eq {files : FileTree} {text : String} {groups : List RuleGroup}
    (held : files.read path = .ok text) (decoded : RuleGroup.listOfText? text = some groups) :
    metricsInRuleFile files path = RuleGroup.allMetrics path [] groups := by
  unfold metricsInRuleFile
  rw [readFor_eq_ok_iff.mpr held]
  change orFail _ _ (RuleGroup.listOfText? text) >>= _ = _
  rw [decoded]
  rfl

theorem Covers.mem_iff_of_groups {groups : List RuleGroup}
    (covers : Covers (groups.flatMap (·.rules)) metrics) (a : String) : a ∈ metrics ↔
      ∃ g ∈ groups, ∃ r ∈ g.rules, ∃ own, Query.referencedMetrics r.query = .ok own ∧ a ∈ own := by
  rw [covers.mem_iff]
  constructor
  · rintro ⟨r, listed, own, references, member⟩
    obtain ⟨g, group, listed⟩ := List.mem_flatMap.mp listed
    exact ⟨g, group, r, listed, own, references.references, member⟩
  · rintro ⟨g, group, r, listed, own, references, member⟩
    have listed := List.mem_flatMap.mpr ⟨g, group, listed⟩
    obtain ⟨_, asks, -⟩ := covers.each r listed
    exact ⟨r, listed, own, ⟨asks, references⟩, member⟩

/-- **A file of rules has the metrics that all its rules reference, or it is refused for its first
violation.** -/
theorem metricsInRuleFile_judged {files : FileTree} {text : String} {groups : List RuleGroup}
    (held : files.read path = .ok text) (decoded : RuleGroup.listOfText? text = some groups) :
    Judged files path groups := by
  have result := metricsInRuleFile_eq held decoded
  constructor
  · rw [result, ← exists_groups_iff, and_iff_left fun _ _ => List.not_mem_nil]
  · intro metrics accepted
    rw [result, RuleGroup.allMetrics_eq_ok_iff] at accepted
    exact accepted.2.mem_iff_of_groups
  · intro files' path' text' groups' held' decoded' reordered metrics
    rw [result, metricsInRuleFile_eq held' decoded']
    exact reordered.allMetrics_eq_ok_iff
  · intro failure
    rw [result]
    exact RuleGroup.allMetrics_eq_error_iff

/-- A file with two violations: a rule without a name, and a group that is there twice. -/
def twoViolations : FileTree where
  nodes := [(["rules.yaml"], .file (.text "groups:\n- name: g\n  rules:\n  - expr: up\n- name: g\n"))]

/-- The rule is written before the second group. -/
theorem metricsInRuleFile_judged_twoViolations :
    let groups : List RuleGroup := [{ name := "g", rules := [{ expr := some "up" }] },
      { name := "g" }]
    twoViolations.read "rules.yaml" =
        .ok "groups:\n- name: g\n  rules:\n  - expr: up\n- name: g\n" ∧
      RuleGroup.listOfText? "groups:\n- name: g\n  rules:\n  - expr: up\n- name: g\n" =
        some groups ∧
      Judged twoViolations "rules.yaml" groups ∧
      metricsInRuleFile twoViolations "rules.yaml" = .error
        (FileRule.complaint "rules.yaml" "g" 1 "one of 'record' or 'alert' must be set") := by
  intro groups
  have held : twoViolations.read "rules.yaml" =
      .ok "groups:\n- name: g\n  rules:\n  - expr: up\n- name: g\n" :=
    eq_ok_of_toOption (by decide +kernel)
  have decoded : RuleGroup.listOfText? "groups:\n- name: g\n  rules:\n  - expr: up\n- name: g\n" =
      some groups := by decide +kernel
  have judged := metricsInRuleFile_judged held decoded
  refine ⟨held, decoded, judged, (judged.refuses _).mpr ⟨⟨0, 1, .kind⟩, ?_, ?_⟩⟩
  · exact .rule rfl rfl (.neither rfl rfl)
  · rintro ⟨i, n, check⟩ other violates (less | ⟨rfl, less⟩)
    · exact Nat.not_lt_zero _ less
    · rcases violates.cases_of_group rfl with ⟨-, -, nameless⟩ | ⟨-, -, again⟩ |
        ⟨m, r, rfl, -, kind⟩
      · exact absurd nameless (by decide)
      · exact List.not_mem_nil again
      · rcases less with less | ⟨-, less⟩
        · exact Nat.not_lt_zero _ (Nat.lt_of_succ_lt_succ less)
        · exact Nat.not_lt_of_le kind.kind_le less

end ProfileAudit
