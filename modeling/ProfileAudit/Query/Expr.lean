import ProfileAudit.Query.Literal
import ProfileAudit.Query.Matcher

/-!
The tree of a query, the types of its parts, and the functions that can be called.
-/

namespace ProfileAudit.Query

/-- A shift in time. -/
structure Offset where
  backwards : Bool
  extent : Extent

/-- A fixed time of evaluation. -/
inductive FixedTime where
  | seconds (x : Float)
  | start
  | finish

/-- The shift and the fixed time of a selector or a subquery. -/
structure Timing where
  offset : Option Offset := none
  at? : Option FixedTime := none

/-- A selector of series. -/
structure Selector where
  name : Option String := none
  matchers : Matchers := {}
  timing : Timing := {}

/-- The labels that an aggregation keeps, or drops. -/
structure Grouping where
  without : Bool
  labels : List String

/-- One side of a binary operation that may have several series for one of the other. -/
inductive Cardinality where
  | oneToOne
  | manyToOne (labels : List String)
  | oneToMany (labels : List String)

/-- The labels on which two vectors are matched, or those that are left out. -/
structure Matching where
  ignoring : Bool
  labels : List String

/-- What stands between a binary operator and its right operand. -/
structure BinaryModifier where
  bool : Bool := false
  matching : Option Matching := none
  cardinality : Cardinality := .oneToOne

/-- A function that queries can call. An optional last parameter may be left out; of an
unbounded one there may be more. -/
structure Function where
  name : String
  parameters : List ValueType
  optional : Bool := false
  unbounded : Bool := false
  result : ValueType := .vector

/-- The tree of a query. -/
inductive Expr where
  | number (value : Float)
  | string (value : String)
  | selector (s : Selector)
  | range (s : Selector) (extent : Extent)
  | subquery (body : Expr) (extent : Extent) (step : Option Extent) (timing : Timing)
  | paren (body : Expr)
  | negated (body : Expr)
  | binary (op : BinaryOp) (modifier : BinaryModifier) (left right : Expr)
  | aggregation (op : Aggregation) (grouping : Option Grouping) (parameter : Option Expr)
      (body : Expr)
  | call (f : Function) (arguments : List Expr)

instance : Inhabited Expr := ⟨.number 0⟩

/-- The type of an expression's value. -/
def Expr.type : Expr → ValueType
  | number _ => .scalar
  | string _ => .string
  | selector _ => .vector
  | range _ _ => .matrix
  | subquery _ _ _ _ => .matrix
  | paren body => body.type
  | negated body => body.type
  | binary _ _ left right =>
    if left.type = .scalar ∧ right.type = .scalar then .scalar else .vector
  | aggregation _ _ _ _ => .vector
  | call f _ => f.result

/-! ## Functions -/

namespace Function

/-- Functions by the types of their parameters. -/
def families : List (List String × Function) := [
  (["abs", "absent", "acos", "acosh", "asin", "asinh", "atan", "atanh", "ceil", "cos", "cosh",
    "deg", "exp", "floor", "histogram_count", "histogram_sum", "ln", "log10", "log2", "rad",
    "sgn", "sin", "sinh", "sort", "sort_desc", "sqrt", "tan", "tanh", "timestamp"],
    ⟨"", [.vector], false, false, .vector⟩),
  (["scalar"], ⟨"", [.vector], false, false, .scalar⟩),
  (["days_in_month", "day_of_month", "day_of_week", "day_of_year", "hour", "minute", "month",
    "year"], ⟨"", [.vector], true, false, .vector⟩),
  (["absent_over_time", "avg_over_time", "changes", "count_over_time", "delta", "deriv",
    "idelta", "increase", "irate", "last_over_time", "max_over_time", "min_over_time",
    "present_over_time", "rate", "resets", "stddev_over_time", "stdvar_over_time",
    "sum_over_time"], ⟨"", [.matrix], false, false, .vector⟩),
  (["pi", "time"], ⟨"", [], false, false, .scalar⟩),
  (["vector"], ⟨"", [.scalar], false, false, .vector⟩),
  (["clamp_max", "clamp_min"], ⟨"", [.vector, .scalar], false, false, .vector⟩),
  (["round"], ⟨"", [.vector, .scalar], true, false, .vector⟩),
  (["clamp"], ⟨"", [.vector, .scalar, .scalar], false, false, .vector⟩),
  (["histogram_fraction"], ⟨"", [.scalar, .scalar, .vector], false, false, .vector⟩),
  (["histogram_quantile"], ⟨"", [.scalar, .vector], false, false, .vector⟩),
  (["holt_winters"], ⟨"", [.matrix, .scalar, .scalar], false, false, .vector⟩),
  (["predict_linear"], ⟨"", [.matrix, .scalar], false, false, .vector⟩),
  (["quantile_over_time"], ⟨"", [.scalar, .matrix], false, false, .vector⟩),
  (["label_replace"],
    ⟨"", [.vector, .string, .string, .string, .string], false, false, .vector⟩),
  (["label_join"], ⟨"", [.vector, .string, .string, .string], true, true, .vector⟩),
  (["sort_by_label", "sort_by_label_desc"],
    ⟨"", [.vector, .string, .string], true, true, .vector⟩)]

/-- The function of that name; case matters. -/
def find? (name : String) : Option Function :=
  (families.find? fun family => family.1.contains name).map fun family =>
    { family.2 with name }

end Function

end ProfileAudit.Query
