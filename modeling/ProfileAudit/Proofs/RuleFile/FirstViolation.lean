import Mathlib.Data.List.Nodup
import ProfileAudit.Proofs.RuleFile

/-!
# The first violation in a file of rules

The groups of a file, and the rules of a group, are looked at in the order in which they are
written, and some checks are made of each. A violation is described at its place on its own
(`RuleGroup.Violates`), whatever else is wrong with the file. Of all violations the one that stands
first, by the group, then the rule, then the check, is the one that a file is refused for
(`RuleGroup.allMetrics_eq_error_iff`).
-/

namespace ProfileAudit

/-! ## Places -/

/-- The checks of a group and of its rules, in the order in which they are made. -/
inductive FileCheck where
  /-- A group has a name. -/
  | named
  /-- No group before it has the same name. -/
  | fresh
  /-- A rule either records or raises an alert. -/
  | kind
  /-- It has an expression that is not blank. -/
  | asks
  /-- The expression parses. -/
  | parses

def FileCheck.rank : FileCheck → ℕ
  | named => 0
  | fresh => 1
  | kind => 2
  | asks => 3
  | parses => 4

/-- Where a check is made. -/
structure FilePlace where
  /-- The number of groups before this one. -/
  group : ℕ
  /-- The number of the rule, counted from one; zero is the group itself. -/
  rule : ℕ
  check : FileCheck

/-- What is looked at before what: a group before those that follow, the group itself before its
rules, a rule before those that follow. -/
def FilePlace.Before (p q : FilePlace) : Prop :=
  p.group < q.group ∨ p.group = q.group ∧
    (p.rule < q.rule ∨ p.rule = q.rule ∧ p.check.rank < q.check.rank)

theorem FileCheck.eq_of_rank {c d : FileCheck} (same : c.rank = d.rank) : c = d := by
  cases c <;> cases d <;> first | rfl | cases same

theorem FilePlace.eq_of_not_before {p q : FilePlace} (no : ¬ p.Before q) (yes : ¬ q.Before p) :
    p = q := by
  obtain ⟨i, n, c⟩ := p
  obtain ⟨j, m, d⟩ := q
  unfold FilePlace.Before at no yes
  dsimp only at no yes
  obtain rfl : i = j := by omega
  obtain rfl : n = m := by omega
  obtain rfl : c = d := FileCheck.eq_of_rank (by omega)
  rfl

/-! ## Violations -/

/-- The name that a rule goes by, if it has just one. -/
def FileRule.Labelled (r : FileRule) (label : String) : Prop :=
  r.record = some label ∧ r.alert = none ∨ r.record = none ∧ r.alert = some label

/-- What is said about a rule that has no name to go by: its number takes the place of the name. -/
def FileRule.complaint (path group : String) (number : ℕ) (message : String) : Failure :=
  .ofText s!"{path}: group '{group}', rule {number}: {message}"

/-- A check that a rule does not pass, and what is said about it. -/
inductive FileRule.Violates (path group : String) (number : ℕ) (r : FileRule) :
    FileCheck → Failure → Prop
  | both {record alert : String} : r.record = some record → r.alert = some alert →
      Violates path group number r .kind
        (complaint path group number "only one of 'record' and 'alert' may be set")
  | neither : r.record = none → r.alert = none →
      Violates path group number r .kind
        (complaint path group number "one of 'record' or 'alert' must be set")
  | blank {label : String} : r.Labelled label → Blank.isAll r.query = true →
      Violates path group number r .asks
        (.ofText s!"{path}: group '{group}', rule '{label}': field 'expr' must be set")
  | unread {label : String} {fault : Query.Fault} : r.Labelled label →
      Query.Expr.ofText r.query = .error fault →
      Violates path group number r .parses
        ⟨.query (.fault fault), [s!"{path}: group '{group}', rule '{label}'"]⟩

/-- A check that a group of a file or one of its rules does not pass, where it is made, and what
is said about it. -/
inductive RuleGroup.Violates (path : String) (groups : List RuleGroup) :
    FilePlace → Failure → Prop
  | nameless {i : ℕ} {g : RuleGroup} : groups[i]? = some g → g.name = "" →
      Violates path groups ⟨i, 0, .named⟩ (.ofText s!"{path}: rule group without a name")
  | again {i j : ℕ} {g g' : RuleGroup} : groups[i]? = some g → j < i → groups[j]? = some g' →
      g'.name = g.name → Violates path groups ⟨i, 0, .fresh⟩
        (.ofText s!"{path}: group '{g.name}' is defined more than once")
  | rule {i n : ℕ} {g : RuleGroup} {r : FileRule} {check : FileCheck} {failure : Failure} :
      groups[i]? = some g → g.rules[n]? = some r →
      r.Violates path g.name (n + 1) check failure →
      Violates path groups ⟨i, n + 1, check⟩ failure

/-- The violation of a file that stands before all others. -/
structure RuleGroup.ViolatesFirst (path : String) (groups : List RuleGroup) (p : FilePlace)
    (failure : Failure) : Prop where
  violates : Violates path groups p failure
  first : ∀ q other, Violates path groups q other → ¬ q.Before p

variable {path group : String} {metrics : NameSet} {failure : Failure}

theorem FileRule.Labelled.unique {r : FileRule} {label other : String}
    (first : r.Labelled label) (second : r.Labelled other) : label = other := by
  rcases first with ⟨here, none⟩ | ⟨none, here⟩ <;> rcases second with ⟨there, -⟩ | ⟨-, there⟩ <;>
    simp_all

/-- What is said about a rule that does not pass a check is given by the rule. -/
theorem FileRule.Violates.unique {number : ℕ} {r : FileRule} {check : FileCheck} {other : Failure}
    (first : r.Violates path group number check failure)
    (second : r.Violates path group number check other) : failure = other := by
  cases first with
  | both record alert =>
      cases second with
      | both => rfl
      | neither none => cases record.symm.trans none
  | neither record alert =>
      cases second with
      | both some => cases some.symm.trans record
      | neither => rfl
  | blank label _ =>
      cases second with
      | blank label' _ => rw [label.unique label']
  | unread label unread =>
      cases second with
      | unread label' unread' =>
          rw [label.unique label', Except.error.inj (unread.symm.trans unread')]

theorem RuleGroup.Violates.unique {groups : List RuleGroup} {p : FilePlace} {other : Failure}
    (first : Violates path groups p failure) (second : Violates path groups p other) :
    failure = other := by
  cases first with
  | nameless =>
      cases second
      rfl
  | again here =>
      cases second with
      | again there => rw [Option.some.inj (here.symm.trans there)]
  | rule here listed violates =>
      cases second with
      | rule there listed' violates' =>
          obtain rfl := Option.some.inj (here.symm.trans there)
          obtain rfl := Option.some.inj (listed.symm.trans listed')
          exact violates.unique violates'

/-- No two violations stand first. -/
theorem RuleGroup.ViolatesFirst.unique {groups : List RuleGroup} {p q : FilePlace}
    {other : Failure} (first : ViolatesFirst path groups p failure)
    (second : ViolatesFirst path groups q other) : failure = other := by
  obtain rfl := FilePlace.eq_of_not_before (second.first p failure first.violates)
    (first.first q other second.violates)
  exact first.violates.unique second.violates

/-! ## The checks of a rule -/

theorem FileRule.label?_eq_ok_iff {r : FileRule} {complain : String → Failure} {label : String} :
    r.label? complain = .ok label ↔ r.Labelled label := by
  unfold FileRule.label? FileRule.Labelled
  cases r.record <;> cases r.alert <;> simp

theorem FileRule.referencedMetrics_eq_error_iff {query : String} {fault : Query.Fault} :
    Query.referencedMetrics query = .error fault ↔ Query.Expr.ofText query = .error fault :=
  map_eq_error_iff

/-- Rules that are in order pass all checks. -/
theorem FileRule.InOrder.not_violates {number : ℕ} {r : FileRule} {check : FileCheck}
    (inOrder : r.InOrder) : ¬ r.Violates path group number check failure := by
  obtain ⟨kind, own, asks, references⟩ := inOrder
  intro violates
  cases violates with
  | both record alert => simp [record, alert] at kind
  | neither record alert => simp [record, alert] at kind
  | blank _ blank => rw [blank] at asks; cases asks
  | unread _ unread =>
      rw [FileRule.referencedMetrics_eq_error_iff.mpr unread] at references
      cases references

theorem FileRule.Violates.kind_le {number : ℕ} {r : FileRule} {check : FileCheck}
    (violates : r.Violates path group number check failure) :
    FileCheck.kind.rank ≤ check.rank := by
  cases violates <;> decide

/-- A rule with a name to go by passes the check that it has one. -/
theorem FileRule.Violates.asks_le {number : ℕ} {r : FileRule} {check : FileCheck} {label : String}
    (violates : r.Violates path group number check failure) (labelled : r.Labelled label) :
    FileCheck.asks.rank ≤ check.rank := by
  cases violates with
  | both record alert => simp [FileRule.Labelled, record, alert] at labelled
  | neither record alert => simp [FileRule.Labelled, record, alert] at labelled
  | blank => decide
  | unread => decide

theorem FileRule.violates_of_label? {number : ℕ} {r : FileRule}
    (failed : r.label? (complaint path group number) = .error failure) :
    r.Violates path group number .kind failure := by
  unfold FileRule.label? at failed
  split at failed
  · cases failed
  · cases failed
  · next record alert =>
      cases failed
      exact .both record alert
  · next record alert =>
      cases failed
      exact .neither record alert

/-- A rule that has no metrics is refused for the first check that it does not pass. -/
theorem FileRule.violates_of_metrics {number : ℕ} {r : FileRule}
    (failed : r.metrics path group number = .error failure) :
    ∃ check, r.Violates path group number check failure ∧ ∀ earlier other,
      r.Violates path group number earlier other → check.rank ≤ earlier.rank := by
  rcases bind_eq_error_iff.mp failed with failed | ⟨label, labelled, failed⟩
  · exact ⟨.kind, violates_of_label? failed, fun _ _ violates => violates.kind_le⟩
  · have labelled := label?_eq_ok_iff.mp labelled
    dsimp only at failed
    split at failed
    · next blank =>
        cases failed
        exact ⟨.asks, .blank labelled blank, fun _ _ violates => violates.asks_le labelled⟩
    · next asks =>
        split at failed
        · cases failed
        · next fault unread =>
            cases failed
            refine ⟨.parses, .unread labelled (referencedMetrics_eq_error_iff.mp unread), ?_⟩
            intro earlier other violates
            cases violates with
            | both record alert => simp [FileRule.Labelled, record, alert] at labelled
            | neither record alert => simp [FileRule.Labelled, record, alert] at labelled
            | blank _ blank => exact absurd blank asks
            | unread => exact Nat.le_refl _

/-! ## The rules of a group, and the groups of a file -/

/-- Rules without metrics are refused for the first one that has none. -/
theorem FileRule.exists_of_allMetrics {rules : List FileRule} {number : ℕ}
    (failed : FileRule.allMetrics path group number rules = .error failure) :
    ∃ n r, rules[n]? = some r ∧ (∀ earlier ∈ rules.take n, earlier.InOrder) ∧
      r.metrics path group (number + n) = .error failure := by
  induction rules generalizing number with
  | nil => cases failed
  | cons r rules ih =>
      rcases bind_eq_error_iff.mp failed with here | ⟨own, accepted, failed⟩
      · exact ⟨0, r, rfl, nofun, here⟩
      · rcases bind_eq_error_iff.mp failed with later | ⟨_, _, done⟩
        · obtain ⟨n, r', listed, before, failed⟩ := ih later
          refine ⟨n + 1, r', listed, ?_, ?_⟩
          · exact List.forall_mem_cons.mpr ⟨FileRule.inOrder_iff.mpr ⟨own, accepted⟩, before⟩
          · rwa [Nat.add_right_comm, Nat.add_assoc] at failed
        · cases done

/-- Why a group is refused where some names were seen before. -/
inductive RuleGroup.Fails (path : String) (seen : List String) (g : RuleGroup) : Failure → Prop
  | nameless : g.name = "" → Fails path seen g (.ofText s!"{path}: rule group without a name")
  | again : g.name ≠ "" → g.name ∈ seen →
      Fails path seen g (.ofText s!"{path}: group '{g.name}' is defined more than once")
  | rule {failure : Failure} : g.name ≠ "" → g.name ∉ seen →
      FileRule.allMetrics path g.name 1 g.rules = .error failure → Fails path seen g failure

theorem RuleGroup.fails_or_of_allMetrics {seen : List String} {g : RuleGroup}
    {groups : List RuleGroup} (failed : allMetrics path seen (g :: groups) = .error failure) :
    g.Fails path seen failure ∨ (g.name ≠ "" ∧ g.name ∉ seen ∧
      ∃ own, FileRule.allMetrics path g.name 1 g.rules = .ok own) ∧
        allMetrics path (g.name :: seen) groups = .error failure := by
  rw [allMetrics] at failed
  by_cases nameless : g.name = ""
  · rw [if_pos (String.isEmpty_iff.mpr nameless)] at failed
    cases failed
    exact .inl (.nameless nameless)
  · rw [if_neg (mt String.isEmpty_iff.mp nameless)] at failed
    by_cases again : g.name ∈ seen
    · rw [if_pos (List.contains_iff_mem.mpr again)] at failed
      cases failed
      exact .inl (.again nameless again)
    · rw [if_neg (mt List.contains_iff_mem.mp again)] at failed
      rcases bind_eq_error_iff.mp failed with here | ⟨own, accepted, failed⟩
      · exact .inl (.rule nameless again here)
      · rcases bind_eq_error_iff.mp failed with later | ⟨_, _, done⟩
        · exact .inr ⟨⟨nameless, again, own, accepted⟩, later⟩
        · cases done

/-- Groups without metrics are refused for the first one that is refused after those before it. -/
theorem RuleGroup.exists_of_allMetrics {seen : List String} {groups : List RuleGroup}
    (failed : allMetrics path seen groups = .error failure) :
    ∃ i g, groups[i]? = some g ∧ (∃ metrics, allMetrics path seen (groups.take i) = .ok metrics) ∧
      g.Fails path (((groups.take i).map (·.name)).reverse ++ seen) failure := by
  induction groups generalizing seen with
  | nil => cases failed
  | cons g groups ih =>
      rcases fails_or_of_allMetrics failed with here | ⟨⟨name, fresh, own, accepted⟩, later⟩
      · exact ⟨0, g, rfl, ⟨.empty, rfl⟩, here⟩
      · -- The names seen on the way are those of the groups passed, the latest one first.
        obtain ⟨i, g', listed, ⟨metrics, before⟩, fails⟩ := ih later
        refine ⟨i + 1, g', listed, ⟨own.union metrics, ?_⟩, ?_⟩
        · exact allMetrics_cons_eq_ok_iff.mpr ⟨name, fresh, own, accepted, metrics, before, rfl⟩
        · rw [List.take_succ_cons, List.map_cons, List.reverse_cons, List.append_assoc]
          exact fails

theorem mem_take_iff {α : Type} {as : List α} {n : ℕ} {a : α} :
    a ∈ as.take n ↔ ∃ i, i < n ∧ as[i]? = some a := by
  simp only [List.mem_iff_getElem?, List.getElem?_take, Option.ite_none_right_eq_some]

/-- The groups before some violation are not all in order. -/
theorem RuleGroup.le_of_violates {groups : List RuleGroup} {i : ℕ} {p : FilePlace}
    (inOrder : InOrder (groups.take i)) (violates : Violates path groups p failure) :
    i ≤ p.group := by
  by_contra before
  have before := Nat.lt_of_not_le before
  have among {j : ℕ} {g : RuleGroup} (listed : groups[j]? = some g) (less : j < i) :
      (groups.take i)[j]? = some g := (List.getElem?_take_of_lt less).trans listed
  cases violates with
  | nameless listed nameless =>
      exact inOrder.named _ (List.mem_of_getElem? (among listed before)) nameless
  | again listed less listed' same =>
      have named {j : ℕ} {g : RuleGroup} (listed : (groups.take i)[j]? = some g) :
          ((groups.take i).map (·.name))[j]? = some g.name := by
        rw [List.getElem?_map, listed, Option.map_some]
      have here := named (among listed before)
      have there := named (among listed' (Nat.lt_trans less before))
      obtain ⟨bound, -⟩ := List.getElem?_eq_some_iff.mp here
      refine List.nodup_iff_getElem?_ne_getElem?.mp inOrder.distinct _ _ less bound ?_
      rw [there, here, same]
  | rule listed rule violates =>
      have member := List.mem_of_getElem? (among listed before)
      exact (inOrder.rules _ member _ (List.mem_of_getElem? rule)).not_violates violates

/-- Groups that are in order pass all checks. -/
theorem RuleGroup.InOrder.not_violates {groups : List RuleGroup} {p : FilePlace}
    (inOrder : InOrder groups) : ¬ Violates path groups p failure := by
  intro violates
  have beyond : groups.length ≤ p.group :=
    le_of_violates (groups.take_length.symm ▸ inOrder) violates
  obtain ⟨g, listed⟩ : ∃ g, groups[p.group]? = some g := by
    cases violates with
    | nameless listed => exact ⟨_, listed⟩
    | again listed => exact ⟨_, listed⟩
    | rule listed => exact ⟨_, listed⟩
  rw [List.getElem?_eq_none beyond] at listed
  cases listed

/-- What is violated at a group that is known. -/
theorem RuleGroup.Violates.cases_of_group {groups : List RuleGroup} {p : FilePlace} {g : RuleGroup}
    (violates : Violates path groups p failure) (listed : groups[p.group]? = some g) :
    p.rule = 0 ∧ p.check = .named ∧ g.name = "" ∨
      p.rule = 0 ∧ p.check = .fresh ∧ g.name ∈ (groups.take p.group).map (·.name) ∨
        ∃ n r, p.rule = n + 1 ∧ g.rules[n]? = some r ∧
          r.Violates path g.name (n + 1) p.check failure := by
  cases violates with
  | nameless listed' nameless =>
      obtain rfl := Option.some.inj (listed.symm.trans listed')
      exact .inl ⟨rfl, rfl, nameless⟩
  | again listed' less earlier same =>
      obtain rfl := Option.some.inj (listed.symm.trans listed')
      exact .inr (.inl ⟨rfl, rfl, List.mem_map.mpr ⟨_, mem_take_iff.mpr ⟨_, less, earlier⟩, same⟩⟩)
  | rule listed' rule violates =>
      obtain rfl := Option.some.inj (listed.symm.trans listed')
      exact .inr (.inr ⟨_, _, rfl, rule, violates⟩)

section

variable {groups : List RuleGroup} {g : RuleGroup}

/-- After groups that are in order it is enough that no violation of the same group stands
before. -/
theorem RuleGroup.violatesFirst_of_group {p : FilePlace} (before : InOrder (groups.take p.group))
    (violates : Violates path groups p failure)
    (first : ∀ q other, Violates path groups q other → q.group = p.group →
      q.rule < p.rule ∨ q.rule = p.rule ∧ q.check.rank < p.check.rank → False) :
    ViolatesFirst path groups p failure := by
  refine ⟨violates, fun q other violates earlier => ?_⟩
  have := le_of_violates before violates
  rcases earlier with less | ⟨same, less⟩
  · omega
  · exact first q other violates same less

theorem RuleGroup.violatesFirst_of_nameless {i : ℕ} (listed : groups[i]? = some g)
    (before : InOrder (groups.take i)) (nameless : g.name = "") :
    ViolatesFirst path groups ⟨i, 0, .named⟩ (.ofText s!"{path}: rule group without a name") := by
  refine violatesFirst_of_group before (.nameless listed nameless) fun q other _ _ less => ?_
  rcases less with less | ⟨-, less⟩
  · exact Nat.not_lt_zero _ less
  · exact Nat.not_lt_zero _ less

theorem RuleGroup.violatesFirst_of_again {i : ℕ} (listed : groups[i]? = some g)
    (before : InOrder (groups.take i)) (named : g.name ≠ "")
    (again : g.name ∈ (groups.take i).map (·.name)) : ViolatesFirst path groups ⟨i, 0, .fresh⟩
      (.ofText s!"{path}: group '{g.name}' is defined more than once") := by
  obtain ⟨g', member, same⟩ := List.mem_map.mp again
  obtain ⟨j, earlier, listed'⟩ := mem_take_iff.mp member
  refine violatesFirst_of_group before (.again listed earlier listed' same) ?_
  intro q other violates (here : q.group = i) less
  rcases violates.cases_of_group (here ▸ listed) with ⟨-, -, nameless⟩ | ⟨none, check, -⟩ |
    ⟨n, r, number, -⟩
  · exact named nameless
  · rw [none, check] at less
    exact less.elim (Nat.lt_irrefl _) fun less => Nat.lt_irrefl _ less.2
  · rw [number] at less
    exact less.elim (Nat.not_lt_zero _) fun less => Nat.succ_ne_zero _ less.1

theorem RuleGroup.exists_violatesFirst_of_rule {i : ℕ} (listed : groups[i]? = some g)
    (before : InOrder (groups.take i)) (named : g.name ≠ "")
    (fresh : g.name ∉ (groups.take i).map (·.name))
    (failed : FileRule.allMetrics path g.name 1 g.rules = .error failure) :
    ∃ p, ViolatesFirst path groups p failure := by
  obtain ⟨n, r, rule, inOrder, failed⟩ := FileRule.exists_of_allMetrics failed
  obtain ⟨check, violates, first⟩ := FileRule.violates_of_metrics failed
  rw [Nat.add_comm] at violates first
  refine ⟨⟨i, n + 1, check⟩, violatesFirst_of_group before (.rule listed rule violates) ?_⟩
  -- The group itself passes its checks, the rules before this one are in order, and of the checks
  -- of this one the first that it does not pass is the one that was found.
  intro q other violates (here : q.group = i) less
  rcases violates.cases_of_group (here ▸ listed) with ⟨-, -, nameless⟩ | ⟨-, -, again⟩ |
    ⟨m, r', number, rule', violates⟩
  · exact named nameless
  · exact fresh (here ▸ again)
  · rw [number] at less
    rcases less with less | ⟨same, less⟩
    · have member := mem_take_iff.mpr ⟨m, Nat.lt_of_succ_lt_succ less, rule'⟩
      exact (inOrder _ member).not_violates violates
    · obtain rfl := Nat.succ.inj same
      obtain rfl := Option.some.inj (rule.symm.trans rule')
      exact absurd (first _ _ violates) (Nat.not_le_of_lt less)

end

/-- Groups without metrics are refused for the violation that stands first. -/
theorem RuleGroup.violatesFirst_of_allMetrics {groups : List RuleGroup}
    (failed : allMetrics path [] groups = .error failure) :
    ∃ p, ViolatesFirst path groups p failure := by
  obtain ⟨i, g, listed, accepted, fails⟩ := exists_of_allMetrics failed
  obtain ⟨before, -⟩ := exists_groups_iff.mpr accepted
  rw [List.append_nil] at fails
  cases fails with
  | nameless nameless => exact ⟨_, violatesFirst_of_nameless listed before nameless⟩
  | again named again =>
      exact ⟨_, violatesFirst_of_again listed before named (List.mem_reverse.mp again)⟩
  | rule named fresh failed =>
      have fresh := mt List.mem_reverse.mpr fresh
      exact exists_violatesFirst_of_rule listed before named fresh failed

/-- **Groups are refused for the violation that stands first**, and for no other. -/
theorem RuleGroup.allMetrics_eq_error_iff {groups : List RuleGroup} :
    allMetrics path [] groups = .error failure ↔ ∃ p, ViolatesFirst path groups p failure := by
  refine ⟨violatesFirst_of_allMetrics, ?_⟩
  rintro ⟨p, first⟩
  cases result : allMetrics path [] groups with
  | ok metrics =>
      obtain ⟨inOrder, -⟩ := exists_groups_iff.mpr ⟨metrics, result⟩
      exact absurd first.violates inOrder.not_violates
  | error other =>
      obtain ⟨q, second⟩ := violatesFirst_of_allMetrics result
      rw [second.unique first]

end ProfileAudit
