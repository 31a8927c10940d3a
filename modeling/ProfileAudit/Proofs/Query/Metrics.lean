import Mathlib
import ProfileAudit.Proofs.Query.Grammar
import ProfileAudit.Proofs.Query.Walk

/-!
# Which metrics a query refers to

The metrics of a query are the names of the selectors that the walk over its tree sees. A
selector is overlooked in two ways: the walk does not enter the parameter of an aggregation,
and a selector with alternatives between its braces shows only the name before them. A query's
metrics are complete exactly when every overlooked name is also the name of a selector that is
seen.

For the strict reading the same selectors are out of sight, with all their conditions
(`Expr.exists_violation_iff`).
-/

namespace ProfileAudit.Query

/-- The name of a selector: the one before the braces, or the value that the first condition
of equality on the name asks for, wherever it stands between them. -/
def Selector.fullName? (s : Selector) : Option String :=
  s.name.or <|
    (s.matchers.all.find? fun m => m.label == nameLabel && m.op.isEqual).map (·.value)

/-- The walk comes to the selector, and finds its name. -/
def Expr.Shows (e : Expr) (s : Selector) : Prop :=
  e.Visits s ∧ (s.name ≠ none ∨ s.matchers.groups = [])

theorem Selector.metric?_eq_fullName? {s : Selector} (plain : s.matchers.groups = []) :
    s.metric? = s.fullName? := by
  rw [Selector.metric?, Selector.fullName?, Matchers.all, plain, List.flatten_nil,
    List.append_nil]

/-- A selector with alternatives has no name but the one before its braces. -/
theorem Selector.metric?_of_groups {s : Selector} (uniform : s.matchers.Uniform)
    (grouped : s.matchers.groups ≠ []) : s.metric? = s.name := by
  rw [Selector.metric?, uniform.resolve_right grouped]
  exact Option.or_none

/-- The name that the walk finds is the full name of a selector that it shows. -/
theorem Selector.metric?_eq_some_iff {s : Selector} (uniform : s.matchers.Uniform) {n : String} :
    s.metric? = some n ↔ (s.name ≠ none ∨ s.matchers.groups = []) ∧ s.fullName? = some n := by
  by_cases plain : s.matchers.groups = []
  · rw [metric?_eq_fullName? plain]
    exact ⟨fun h => ⟨.inr plain, h⟩, And.right⟩
  · rw [metric?_of_groups uniform plain]
    cases named : s.name with
    | none => simp [plain]
    | some n' => simp [Selector.fullName?, named]

theorem Expr.mem_metrics_iff {e : Expr} (tidy : e.Tidy) {n : String} :
    n ∈ e.metrics ↔ ∃ s, e.Shows s ∧ s.fullName? = some n := by
  rw [Expr.metrics, NameSet.mem_ofList, List.mem_filterMap]
  constructor
  · intro h
    rcases h with ⟨s, walked, named⟩
    have visits := mem_selectors_iff.mp walked
    obtain ⟨shown, named⟩ := (Selector.metric?_eq_some_iff (tidy s visits.contains)).mp named
    exact ⟨s, ⟨visits, shown⟩, named⟩
  · intro h
    rcases h with ⟨s, ⟨visits, shown⟩, named⟩
    refine ⟨s, mem_selectors_iff.mpr visits, ?_⟩
    exact (Selector.metric?_eq_some_iff (tidy s visits.contains)).mpr ⟨shown, named⟩

theorem referencedMetrics_of_ofText {query : String} {e : Expr}
    (parsed : Expr.ofText query = .ok e) : referencedMetrics query = .ok e.metrics := by
  rw [referencedMetrics_eq, parsed]
  rfl

/-- **A query's metrics are complete exactly when every name that it contains is shown.**
The metrics are the names of the selectors that stand outside the parameters of aggregations
and have their name before the braces or no alternatives between them; they are the names of
all selectors if and only if no other selector contributes a name of its own. -/
theorem referencedMetrics_complete_iff {query : String} {e : Expr}
    (parsed : Expr.ofText query = .ok e) :
    ∃ ms, referencedMetrics query = .ok ms ∧
      (∀ n, n ∈ ms ↔ ∃ s, e.Shows s ∧ s.fullName? = some n) ∧
      ((∀ n, n ∈ ms ↔ ∃ s, e.Contains s ∧ s.fullName? = some n) ↔
        ∀ s n, e.Contains s → s.fullName? = some n →
          ∃ s', e.Shows s' ∧ s'.fullName? = some n) := by
  have shown : ∀ n, n ∈ e.metrics ↔ ∃ s, e.Shows s ∧ s.fullName? = some n := fun n =>
    Expr.mem_metrics_iff (tidy_of_ofText parsed)
  refine ⟨e.metrics, referencedMetrics_of_ofText parsed, shown, ?_⟩
  constructor
  · intro complete s n contains named
    exact (shown n).mp ((complete n).mpr ⟨s, contains, named⟩)
  · intro covered n
    constructor
    · intro member
      obtain ⟨s, shows, named⟩ := (shown n).mp member
      exact ⟨s, shows.1.contains, named⟩
    · intro h
      rcases h with ⟨s, contains, named⟩
      exact (shown n).mpr (covered s n contains named)

/-- The name of a parameter's selector is no loss where the body has it too. -/
theorem referencedMetrics_complete_of_shared_name :
    ∃ e ms, Expr.ofText "topk(scalar(up), up)" = .ok e ∧
      referencedMetrics "topk(scalar(up), up)" = .ok ms ∧
      ∀ n, n ∈ ms ↔ ∃ s, e.Contains s ∧ s.fullName? = some n := by
  have parsed : Expr.ofText "topk(scalar(up), up)" =
      .ok (.aggregation .topk none
        (some (.call ⟨"scalar", [.vector], false, false, .scalar⟩
          [.selector { name := some "up" }]))
        (.selector { name := some "up" })) := by cbv
  obtain ⟨ms, read, -, complete⟩ := referencedMetrics_complete_iff parsed
  refine ⟨_, ms, parsed, read, complete.mpr ?_⟩
  intro s n contains named
  have same : s = { name := some "up" } := by
    cases contains with
    | body contains =>
        cases contains
        rfl
    | parameter _ contains =>
        cases contains with
        | argument member contains =>
            rw [List.mem_singleton.mp member] at contains
            cases contains
            rfl
  exact ⟨s, ⟨same ▸ .body .selector, .inl (same ▸ Option.some_ne_none _)⟩, named⟩

/-- A query contains a selector of this name, but does not refer to the metric. -/
def Overlooks (query name : String) : Prop :=
  ∃ e ms s, Expr.ofText query = .ok e ∧ referencedMetrics query = .ok ms ∧ e.Contains s ∧
    s.fullName? = some name ∧ ¬ name ∈ ms

/-- A name is overlooked in a parameter, and between braces with alternatives. -/
theorem overlooks_parameter_and_alternative :
    Overlooks "topk(scalar(foo), bar)" "foo" ∧
      Overlooks "\x7b__name__=\"foo\" or job=\"x\"\x7d" "foo" := by
  constructor
  · have parsed : Expr.ofText "topk(scalar(foo), bar)" =
        .ok (.aggregation .topk none
          (some (.call ⟨"scalar", [.vector], false, false, .scalar⟩
            [.selector { name := some "foo" }]))
          (.selector { name := some "bar" })) := by cbv
    refine ⟨_, _, { name := some "foo" }, parsed, referencedMetrics_of_ofText parsed, ?_, rfl, ?_⟩
    · exact .parameter rfl (.argument List.mem_cons_self .selector)
    · decide
  · have parsed : Expr.ofText "\x7b__name__=\"foo\" or job=\"x\"\x7d" =
        .ok (.selector { matchers :=
          ⟨[], [[⟨"__name__", .equal, "foo"⟩], [⟨"job", .equal, "x"⟩]]⟩ }) := by cbv
    refine ⟨_, _, _, parsed, referencedMetrics_of_ofText parsed, .selector, rfl, ?_⟩
    decide

/-! ## The strict reading -/

/-- A condition other than equality that the walk comes to: it stands outside every parameter
of an aggregation, in a selector without alternatives. -/
def Expr.Exposes (e : Expr) (m : Matcher) : Prop :=
  m.op.isEqual = false ∧ ∃ s, e.Visits s ∧ s.matchers.groups = [] ∧ m ∈ s.matchers.all

/-- A selector's plain list is all that it has, or it is empty. -/
theorem Matchers.Uniform.mem_plain_iff {ms : Matchers} (uniform : ms.Uniform) {m : Matcher} :
    m ∈ ms.plain ↔ ms.groups = [] ∧ m ∈ ms.all := by
  rcases uniform with noPlain | noGroups
  · rw [noPlain]
    constructor
    · intro member
      cases member
    · intro h
      rcases h with ⟨noGroups, member⟩
      rw [Matchers.all, noPlain, noGroups] at member
      exact member
  · rw [Matchers.all, noGroups]
    simp

theorem Selector.violation?_isSome_iff {s : Selector} :
    s.violation?.isSome ↔ ∃ m ∈ s.matchers.plain, m.op.isEqual = false := by
  rw [Selector.violation?, Option.isSome_map, List.find?_isSome]
  simp

/-- The walk meets a violation exactly if a condition other than equality is exposed. -/
theorem Expr.exists_violation_iff {e : Expr} (tidy : e.Tidy) :
    (∃ r, e.selectors.findSome? Selector.violation? = some r) ↔ ∃ m, e.Exposes m := by
  rw [← Option.isSome_iff_exists, List.findSome?_isSome_iff]
  constructor
  · intro h
    rcases h with ⟨s, walked, violated⟩
    obtain ⟨m, plain, unequal⟩ := Selector.violation?_isSome_iff.mp violated
    have visits := mem_selectors_iff.mp walked
    exact ⟨m, unequal, s, visits, (tidy s visits.contains).mem_plain_iff.mp plain⟩
  · intro h
    rcases h with ⟨m, unequal, s, visits, placed⟩
    have plain := (tidy s visits.contains).mem_plain_iff.mpr placed
    exact ⟨s, mem_selectors_iff.mpr visits, Selector.violation?_isSome_iff.mpr ⟨m, plain, unequal⟩⟩

/-- A refusal names the condition, and the selector as far as it is named. -/
theorem Selector.violation?_eq_some {s : Selector} {r : Refusal} (h : s.violation? = some r) :
    ∃ label op metric, r = .unsupportedMatcher label op metric := by
  obtain ⟨m, -, rfl⟩ := Option.map_eq_some_iff.mp h
  exact ⟨_, _, _, rfl⟩

/-- A query with an exposed condition other than equality is refused for such a condition. -/
theorem strictMetrics_of_exposes {query : String} {e : Expr} {m : Matcher}
    (parsed : Expr.ofText query = .ok e) (exposes : e.Exposes m) :
    ∃ label op metric, strictMetrics query = .error (.unsupportedMatcher label op metric) := by
  obtain ⟨r, found⟩ := (Expr.exists_violation_iff (tidy_of_ofText parsed)).mpr ⟨m, exposes⟩
  obtain ⟨s, -, violated⟩ := List.exists_of_findSome?_eq_some found
  obtain ⟨label, op, metric, rfl⟩ := Selector.violation?_eq_some violated
  refine ⟨label, op, metric, ?_⟩
  rw [strictMetrics_of_ofText parsed, found]

/-- Without an exposed condition other than equality a query is accepted. -/
theorem strictMetrics_of_not_exposes {query : String} {e : Expr}
    (parsed : Expr.ofText query = .ok e) (none : ¬ ∃ m, e.Exposes m) :
    strictMetrics query = .ok e.metrics := by
  have unviolated : e.selectors.findSome? Selector.violation? = .none := by
    rw [Option.eq_none_iff_forall_ne_some]
    intro r found
    exact none ((Expr.exists_violation_iff (tidy_of_ofText parsed)).mp ⟨r, found⟩)
  rw [strictMetrics_of_ofText parsed, unviolated]

/-! ## Where the names of metrics stand -/

theorem Expr.Meets.of_mem_metrics {w : Wording} {e : Expr} (meets : e.Meets w) {n : String}
    (member : n ∈ e.metrics) : w.name n ∨ w.value n := by
  rw [Expr.metrics, NameSet.mem_ofList, List.mem_filterMap] at member
  obtain ⟨s, walked, is⟩ := member
  obtain ⟨matchers, named⟩ := meets s (mem_selectors_iff.mp walked).contains
  rw [Selector.metric?, Option.or_eq_some_iff] at is
  rcases is with before | ⟨-, between⟩
  · exact .inl (named n before)
  · obtain ⟨m, found, rfl⟩ := Option.map_eq_some_iff.mp between
    exact .inr (matchers.values m (List.mem_append_left _ (List.mem_of_find?_eq_some found)))

/-- A metric that a query refers to is named before the braces of a selector, or by a value between
them. -/
theorem yields_referencedMetrics {w : Wording} {query : String}
    (yields : Yields w (Expr.ofText query) (Expr.Meets w)) :
    Yields w (referencedMetrics query) fun ms => ∀ n ∈ ms, w.name n ∨ w.value n := by
  rw [referencedMetrics_eq]
  exact yields.map fun e meets n => meets.of_mem_metrics

/-- A name that a query refers to stands for its metric anywhere, or it stands between quotes in the
query. -/
theorem spelled_or_enclosed {query : String} {ms : NameSet} {n : String}
    (references : referencedMetrics query = .ok ms) (member : n ∈ ms) :
    IsMetricName n ∨ Encloses query.toList n := by
  have yields := yields_referencedMetrics (yields_ofQuery query)
  rw [references] at yields
  exact yields n member

end ProfileAudit.Query
