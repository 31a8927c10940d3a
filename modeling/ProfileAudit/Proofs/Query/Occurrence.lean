import ProfileAudit.Query.Metrics

/-!
# Where selectors stand

`Stands` says that a selector stands somewhere in a tree, and `Expr.selectors` is the list
that the walk over the tree makes. The walk does not look into the parameters of
aggregations, which is the only difference: `mem_selectors_iff`.
-/

namespace ProfileAudit.Query

/-- The selectors that the walk over a tree visits, from left to right. The parameter of
an aggregation is not visited. -/
def Expr.selectors : Expr → List Selector
  | number _ => []
  | string _ => []
  | selector s => [s]
  | range s _ => [s]
  | subquery body _ _ _ => body.selectors
  | paren body => body.selectors
  | negated body => body.selectors
  | binary _ _ left right => left.selectors ++ right.selectors
  | aggregation _ _ _ body => body.selectors
  | call _ arguments => all arguments
where
  all : List Expr → List Selector
    | [] => []
    | e :: es => e.selectors ++ all es

/-- A selector stands in a tree. Parameters of aggregations count only if asked for. -/
inductive Stands (parameters : Bool) (s : Selector) : Expr → Prop
  | selector : Stands parameters s (.selector s)
  | range {extent : Extent} : Stands parameters s (.range s extent)
  | subquery {body : Expr} {extent : Extent} {step : Option Extent} {timing : Timing} :
    Stands parameters s body → Stands parameters s (.subquery body extent step timing)
  | paren {body : Expr} : Stands parameters s body → Stands parameters s (.paren body)
  | negated {body : Expr} : Stands parameters s body → Stands parameters s (.negated body)
  | left {op : BinaryOp} {m : BinaryModifier} {l r : Expr} :
    Stands parameters s l → Stands parameters s (.binary op m l r)
  | right {op : BinaryOp} {m : BinaryModifier} {l r : Expr} :
    Stands parameters s r → Stands parameters s (.binary op m l r)
  | body {op : Aggregation} {g : Option Grouping} {p : Option Expr} {body : Expr} :
    Stands parameters s body → Stands parameters s (.aggregation op g p body)
  | parameter {op : Aggregation} {g : Option Grouping} {p body : Expr} :
    parameters = true → Stands parameters s p →
    Stands parameters s (.aggregation op g (some p) body)
  | argument {f : Function} {args : List Expr} {a : Expr} :
    a ∈ args → Stands parameters s a → Stands parameters s (.call f args)

/-- A selector stands somewhere in a tree, be it in a parameter. -/
abbrev Expr.Contains (e : Expr) (s : Selector) : Prop := Stands true s e

/-- A selector stands in a tree outside every parameter. -/
abbrev Expr.Visits (e : Expr) (s : Selector) : Prop := Stands false s e

theorem Expr.Visits.contains {e : Expr} {s : Selector} (visits : e.Visits s) :
    e.Contains s := by
  induction visits with
  | selector => exact .selector
  | range => exact .range
  | subquery _ ih => exact .subquery ih
  | paren _ ih => exact .paren ih
  | negated _ ih => exact .negated ih
  | left _ ih => exact .left ih
  | right _ ih => exact .right ih
  | body _ ih => exact .body ih
  | parameter h _ _ => cases h
  | argument member _ ih => exact .argument member ih

/-! ## The walk -/

theorem mem_selectors_all {s : Selector} {es : List Expr} :
    s ∈ Expr.selectors.all es ↔ ∃ e ∈ es, s ∈ e.selectors := by
  induction es with
  | nil => simp [Expr.selectors.all]
  | cons e es ih => simp [Expr.selectors.all, ih]

theorem Expr.Visits.mem_selectors {e : Expr} {s : Selector} (visits : e.Visits s) :
    s ∈ e.selectors := by
  induction visits with
  | selector => exact List.mem_singleton_self s
  | range => exact List.mem_singleton_self s
  | subquery _ ih => exact ih
  | paren _ ih => exact ih
  | negated _ ih => exact ih
  | left _ ih => exact List.mem_append_left _ ih
  | right _ ih => exact List.mem_append_right _ ih
  | body _ ih => exact ih
  | parameter h _ _ => cases h
  | argument member _ ih => exact mem_selectors_all.mpr ⟨_, member, ih⟩

/-- What the walk collects stands outside every parameter. -/
theorem Expr.visits_of_mem_selectors {s : Selector} :
    ∀ {e : Expr}, s ∈ e.selectors → e.Visits s
  | .number _, member => by cases member
  | .string _, member => by cases member
  | .selector _, member => by
      rw [List.mem_singleton.mp member]
      exact .selector
  | .range _ _, member => by
      rw [List.mem_singleton.mp member]
      exact .range
  | .subquery _ _ _ _, member => .subquery (visits_of_mem_selectors member)
  | .paren _, member => .paren (visits_of_mem_selectors member)
  | .negated _, member => .negated (visits_of_mem_selectors member)
  | .binary _ _ _ _, member => by
      rcases List.mem_append.mp member with inLeft | inRight
      · exact .left (visits_of_mem_selectors inLeft)
      · exact .right (visits_of_mem_selectors inRight)
  | .aggregation _ _ _ _, member => .body (visits_of_mem_selectors member)
  | .call _ args, member => by
      obtain ⟨a, inArgs, inside⟩ := mem_selectors_all.mp member
      exact .argument inArgs (visits_of_mem_selectors inside)

/-- **The walk visits exactly the selectors outside parameters.** -/
theorem mem_selectors_iff {e : Expr} {s : Selector} : s ∈ e.selectors ↔ e.Visits s :=
  ⟨Expr.visits_of_mem_selectors, Expr.Visits.mem_selectors⟩

end ProfileAudit.Query
