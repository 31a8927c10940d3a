import ProfileAudit.Proofs.Names
import ProfileAudit.Proofs.Query.Occurrence

/-!
# What a walk collects

A walk over a tree takes in the selectors of `Expr.selectors`, one after the other
(`Collector.visit_eq`). So what it has collected in the end is read off that list: the names of
all of them, and of the strict walk's violations the first one. A violation that is there stays
there (`Collector.violation_of_some`), whatever else is visited.
-/

namespace ProfileAudit.Query

/-- The metrics that a tree refers to. -/
def Expr.metrics (e : Expr) : NameSet := .ofList (e.selectors.filterMap Selector.metric?)

namespace Collector

variable {c : Collector} {ss : List Selector} {r : Refusal}

mutual

/-- Visiting a tree is taking in its selectors. -/
theorem visit_eq (c : Collector) : ∀ e : Expr, c.visit e = e.selectors.foldl collect c
  | .number _ => rfl
  | .string _ => rfl
  | .selector _ => rfl
  | .range _ _ => rfl
  | .subquery body _ _ _ => visit_eq c body
  | .paren body => visit_eq c body
  | .negated body => visit_eq c body
  | .binary _ _ left right => by
      rw [visit, Expr.selectors, List.foldl_append, visit_eq c left, visit_eq _ right]
  | .aggregation _ _ _ body => visit_eq c body
  | .call _ arguments => visitAll_eq c arguments

theorem visitAll_eq (c : Collector) :
    ∀ es : List Expr, visit.visitAll c es = (Expr.selectors.all es).foldl collect c
  | [] => rfl
  | e :: es => by
      rw [visit.visitAll, Expr.selectors.all, List.foldl_append, visit_eq c e, visitAll_eq _ es]

end

/-! ## One selector after the other -/

theorem metrics_foldl (c : Collector) (ss : List Selector) :
    (ss.foldl collect c).metrics = (ss.filterMap Selector.metric?).foldl NameSet.insert c.metrics := by
  induction ss generalizing c with
  | nil => rfl
  | cons s ss ih =>
      rw [List.foldl_cons, ih, List.filterMap_cons, collect]
      cases s.metric? with
      | none => rfl
      | some name => rfl

/-- A walk that accepts everything meets no violation. -/
theorem violation_foldl_any (lenient : c.policy = .any) :
    (ss.foldl collect c).violation = c.violation := by
  induction ss generalizing c with
  | nil => rfl
  | cons s ss ih =>
      have step : (c.collect s).violation = c.violation := by
        rw [collect, lenient]
      rw [List.foldl_cons, ih (c := c.collect s) lenient, step]

/-- A strict walk keeps the violation that it has, and takes the first one otherwise. -/
theorem violation_foldl (strict : c.policy = .equalityOnly) :
    (ss.foldl collect c).violation = c.violation.or (ss.findSome? Selector.violation?) := by
  induction ss generalizing c with
  | nil => exact (Option.or_none).symm
  | cons s ss ih =>
      have step : (c.collect s).violation = c.violation.or s.violation? := by
        rw [collect, strict]
      rw [List.foldl_cons, ih (c := c.collect s) strict, step, List.findSome?_cons, Option.or_assoc]
      cases s.violation? with
      | none => rfl
      | some r => rfl

/-- **A violation stays**, whatever is taken in after it. -/
theorem violation_of_some (violated : c.violation = some r) :
    (ss.foldl collect c).violation = some r := by
  cases policy : c.policy with
  | any => rw [violation_foldl_any policy, violated]
  | equalityOnly => rw [violation_foldl policy, violated, Option.some_or]

/-! ## The whole tree -/

theorem metrics_visit (policy : Policy) (e : Expr) :
    (visit { policy } e).metrics = e.metrics := by
  rw [visit_eq, metrics_foldl]
  rfl

theorem finish_any (e : Expr) : (visit { policy := .any } e).finish = .ok e.metrics := by
  have clean : (visit { policy := .any } e).violation = none := by
    rw [visit_eq]
    exact violation_foldl_any rfl
  rw [finish, clean, metrics_visit]

theorem finish_equalityOnly (e : Expr) : (visit { policy := .equalityOnly } e).finish =
    match e.selectors.findSome? Selector.violation? with
    | some refusal => .error refusal
    | none => .ok e.metrics := by
  have first : (visit { policy := .equalityOnly } e).violation =
      e.selectors.findSome? Selector.violation? := by
    rw [visit_eq, violation_foldl rfl]
    exact Option.none_or
  cases found : e.selectors.findSome? Selector.violation? with
  | some refusal => rw [finish, first, found]
  | none => rw [finish, first, found, metrics_visit]

end Collector

/-! ## Queries -/

theorem referencedMetrics_eq (query : String) :
    referencedMetrics query = (Expr.ofText query).map Expr.metrics := by
  unfold referencedMetrics
  simp only [Collector.metrics_visit]

theorem strictMetrics_of_ofText {query : String} {e : Expr}
    (parsed : Expr.ofText query = .ok e) :
    strictMetrics query = match e.selectors.findSome? Selector.violation? with
      | some refusal => .error refusal
      | none => .ok e.metrics := by
  unfold strictMetrics walk
  generalize Expr.ofText query = read at parsed
  subst parsed
  exact Collector.finish_equalityOnly e

/-- The lenient walk ends with the metrics, or with a fault of the query. -/
theorem walk_any (query : String) :
    walk .any query = (referencedMetrics query).mapError .fault := by
  rw [referencedMetrics_eq]
  unfold walk
  cases Expr.ofText query with
  | error f => rfl
  | ok e => exact Collector.finish_any e

end ProfileAudit.Query
