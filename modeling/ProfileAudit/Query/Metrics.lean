import ProfileAudit.Query.Parser
import ProfileAudit.Names

/-!
The metrics that a query refers to. The strict reading accepts conditions of equality
only, since other conditions cannot be answered by the name of a metric; the lenient
reading accepts all.
-/

namespace ProfileAudit.Query

/-- Why a query yields no metrics. -/
inductive Refusal where
  | fault (f : Fault)
  /-- A condition other than equality, with the name of the selector it belongs to. -/
  | unsupportedMatcher (label operator metric : String)

def Refusal.message : Refusal → String
  | fault f => s!"failed to parse query: {f.message}"
  | unsupportedMatcher label operator metric =>
    s!"unsupported matcher '{label}{operator}' in selector '{metric}', only '=' is supported"

/-- The name of a selector: the one before the braces, or the value that a plain
condition asks of the name's label. -/
def Selector.metric? (s : Selector) : Option String :=
  s.name.or <|
    (s.matchers.plain.find? fun m => m.label == nameLabel && m.op.isEqual).map (·.value)

/-- The first plain condition other than equality. -/
def Selector.violation? (s : Selector) : Option Refusal :=
  (s.matchers.plain.find? fun m => !m.op.isEqual).map fun m =>
    .unsupportedMatcher m.label m.op.text (s.metric?.getD "")

/-! ## The walk -/

/-- Which conditions a walk accepts. -/
inductive Policy where
  | equalityOnly
  | any
  deriving DecidableEq, Inhabited

/-- What a walk over a tree has collected so far. -/
structure Collector where
  policy : Policy
  metrics : NameSet := .empty
  /-- The first condition that the policy does not accept. -/
  violation : Option Refusal := none

namespace Collector

/-- Takes in a selector. The walk goes on after a violation, and the first one stays. -/
def collect (c : Collector) (s : Selector) : Collector where
  policy := c.policy
  metrics :=
    match s.metric? with
    | some name => c.metrics.insert name
    | none => c.metrics
  violation :=
    match c.policy with
    | .equalityOnly => c.violation.or s.violation?
    | .any => c.violation

/-- Takes in the selectors of a tree, from left to right. The parameter of an aggregation is
not visited. -/
def visit (c : Collector) : Expr → Collector
  | .number _ => c
  | .string _ => c
  | .selector s => c.collect s
  | .range s _ => c.collect s
  | .subquery body _ _ _ => c.visit body
  | .paren body => c.visit body
  | .negated body => c.visit body
  | .binary _ _ left right => (c.visit left).visit right
  | .aggregation _ _ _ body => c.visit body
  | .call _ arguments => visitAll c arguments
where
  visitAll (c : Collector) : List Expr → Collector
    | [] => c
    | e :: es => visitAll (c.visit e) es

/-- The metrics, unless there is a violation. -/
def finish (c : Collector) : Except Refusal NameSet :=
  match c.violation with
  | some refusal => .error refusal
  | none => .ok c.metrics

end Collector

/-- Walks over the tree of a query. -/
def walk (policy : Policy) (query : String) : Except Refusal NameSet :=
  match Expr.ofText query with
  | .error f => .error (.fault f)
  | .ok e => (Collector.visit { policy } e).finish

/-- The metrics that a query with conditions of equality refers to. -/
def strictMetrics (query : String) : Except Refusal NameSet := walk .equalityOnly query

/-- The metrics that a query refers to, whatever its conditions. Such a walk has no
violation to report, so all that can go wrong is a fault of the query. -/
def referencedMetrics (query : String) : Except Fault NameSet :=
  (Expr.ofText query).map fun e => (Collector.visit { policy := .any } e).metrics

end ProfileAudit.Query
