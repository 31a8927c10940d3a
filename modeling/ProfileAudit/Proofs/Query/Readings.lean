import ProfileAudit.Proofs.Query.Metrics

/-!
# The strict and the lenient reading

Both readings of a query walk over the same tree. They have the same faults, and what the strict
one accepts the lenient one accepts too, with the same metrics. What the strict one refuses it
refuses for the first condition other than equality that it looks at, and nothing that the walk
comes to afterwards makes a difference (`readings_agree`). It does not look at alternatives, so
this is the first such condition of all unless alternatives with one stand before it.
-/

namespace ProfileAudit.Query

/-- The refusal that names a condition, and the selector that it belongs to. -/
def Selector.refusal (s : Selector) (m : Matcher) : Refusal :=
  .unsupportedMatcher m.label m.op.text (s.fullName?.getD "")

/-- Of the conditions that are looked at, a condition `m` of the selector `s` is the first one
other than equality: before it in `s`, and in the selectors that the walk visits before `s`,
there are only equalities. -/
structure Expr.FirstUnequal (e : Expr) (look : Matchers → List Matcher) (before : List Selector)
    (s : Selector) (m : Matcher) : Prop where
  walked : before ++ [s] <+: e.selectors
  clear : ∀ t ∈ before, ∀ m' ∈ look t.matchers, m'.op.isEqual = true
  first : ∃ ms ms', look s.matchers = ms ++ m :: ms' ∧ ∀ m' ∈ ms, m'.op.isEqual = true
  unequal : m.op.isEqual = false

/-- A query is refused for the condition `m` of the selector `s`, which the walk visits after the
selectors `before`. -/
structure RefusedFor (query : String) (e : Expr) (before : List Selector) (s : Selector)
    (m : Matcher) : Prop where
  first : e.FirstUnequal Matchers.plain before s m
  answer : strictMetrics query = .error (s.refusal m)
  /-- What the walk visits afterwards makes no difference. -/
  lasting : ∀ query' e', Expr.ofText query' = .ok e' → before ++ [s] <+: e'.selectors →
    strictMetrics query' = strictMetrics query
  /-- It is the first condition other than equality, unless there is one in alternatives. -/
  overall : e.FirstUnequal Matchers.all before s m ↔
    ∀ t ∈ before, t.matchers.groups ≠ [] → ∀ m' ∈ t.matchers.all, m'.op.isEqual = true

/-- The strict and the lenient reading of a query agree. -/
structure ReadingsAgree (query : String) : Prop where
  fault : ∀ f, strictMetrics query = .error (.fault f) ↔ referencedMetrics query = .error f
  /-- The lenient walk refuses no condition. -/
  lenient : walk .any query = (referencedMetrics query).mapError .fault
  accepted : ∀ ms, strictMetrics query = .ok ms → referencedMetrics query = .ok ms
  refused : ∀ e, Expr.ofText query = .ok e → (∀ ms, strictMetrics query ≠ .ok ms) →
    ∃ before s m, RefusedFor query e before s m

/-! ## Violations -/

theorem Matchers.Uniform.all_eq_plain {ms : Matchers} (uniform : ms.Uniform)
    (plain : ms.plain ≠ []) : ms.groups = [] ∧ ms.all = ms.plain := by
  have noGroups : ms.groups = [] := uniform.resolve_left plain
  refine ⟨noGroups, ?_⟩
  rw [Matchers.all, noGroups, List.flatten_nil, List.append_nil]

theorem Selector.violation?_eq_none_iff {s : Selector} :
    s.violation? = none ↔ ∀ m ∈ s.matchers.plain, m.op.isEqual = true := by
  rw [Selector.violation?, Option.map_eq_none_iff, List.find?_eq_none]
  simp only [Bool.not_eq_true', Bool.not_eq_false]

/-- A violation is that of the first condition other than equality. -/
theorem Selector.exists_of_violation? {s : Selector} {r : Refusal} (uniform : s.matchers.Uniform)
    (violated : s.violation? = some r) : ∃ m, r = s.refusal m ∧ m.op.isEqual = false ∧
      ∃ ms ms', s.matchers.plain = ms ++ m :: ms' ∧ ∀ m' ∈ ms, m'.op.isEqual = true := by
  obtain ⟨m, found, rfl⟩ := Option.map_eq_some_iff.mp violated
  obtain ⟨unequal, ms, ms', listed, equal⟩ := List.find?_eq_some_iff_append.mp found
  have plain : s.matchers.plain ≠ [] := by
    rw [listed]
    exact List.append_ne_nil_of_right_ne_nil ms (List.cons_ne_nil m ms')
  have noGroups := (uniform.all_eq_plain plain).1
  refine ⟨m, ?_, ?_, ms, ms', listed, fun m' member => ?_⟩
  · rw [Selector.refusal, Selector.metric?_eq_fullName? noGroups]
  · simpa using unequal
  · simpa using equal m' member

/-- What a walk has refused at some point it still refuses in the end. -/
theorem Collector.finish_of_violation {policy : Policy} {ss : List Selector} {r : Refusal}
    {e : Expr} (violated : (ss.foldl collect { policy }).violation = some r)
    (walked : ss <+: e.selectors) : (visit { policy } e).finish = .error r := by
  obtain ⟨after, selectors⟩ := walked
  rw [finish, visit_eq, ← selectors, List.foldl_append, violation_of_some violated]

theorem strictMetrics_of_prefix {query : String} {e : Expr} {before : List Selector}
    {s : Selector} {r : Refusal} (clear : ∀ t ∈ before, t.violation? = none)
    (violated : s.violation? = some r) (parsed : Expr.ofText query = .ok e)
    (walked : before ++ [s] <+: e.selectors) : strictMetrics query = .error r := by
  have met : ((before ++ [s]).foldl Collector.collect { policy := .equalityOnly }).violation =
      some r := by
    rw [Collector.violation_foldl rfl, Option.none_or, List.findSome?_append,
      List.findSome?_eq_none_iff.mpr clear, Option.none_or, List.findSome?_singleton, violated]
  unfold strictMetrics walk
  rw [parsed]
  exact Collector.finish_of_violation met walked

/-- It is the first condition other than equality of all if none is passed over. -/
theorem Expr.FirstUnequal.all_iff {e : Expr} {before : List Selector} {s : Selector} {m : Matcher}
    (tidy : e.Tidy) (first : e.FirstUnequal Matchers.plain before s m) :
    e.FirstUnequal Matchers.all before s m ↔
      ∀ t ∈ before, t.matchers.groups ≠ [] → ∀ m' ∈ t.matchers.all, m'.op.isEqual = true := by
  obtain ⟨walked, clear, ⟨ms, ms', listed, equal⟩, unequal⟩ := first
  have uniform {t : Selector} (visited : t ∈ before ++ [s]) : t.matchers.Uniform :=
    tidy t (mem_selectors_iff.mp (walked.subset visited)).contains
  constructor
  · intro overall t member _
    exact overall.clear t member
  · intro equals
    refine ⟨walked, fun t member m' looked => ?_, ⟨ms, ms', ?_, equal⟩, unequal⟩
    · by_cases plain : t.matchers.groups = []
      · rw [Matchers.all, plain, List.flatten_nil, List.append_nil] at looked
        exact clear t member m' looked
      · exact equals t member plain m' looked
    · have plain : s.matchers.plain ≠ [] := by
        rw [listed]
        exact List.append_ne_nil_of_right_ne_nil ms (List.cons_ne_nil m ms')
      rw [((uniform (List.mem_append_right _ List.mem_cons_self)).all_eq_plain plain).2, listed]

/-- A query that parses is accepted, or it is refused for a condition. -/
theorem accepted_or_refusedFor {query : String} {e : Expr} (parsed : Expr.ofText query = .ok e) :
    strictMetrics query = .ok e.metrics ∨ ∃ before s m, RefusedFor query e before s m := by
  have tidy := tidy_of_ofText parsed
  have answer := strictMetrics_of_ofText parsed
  cases found : e.selectors.findSome? Selector.violation? with
  | none =>
      rw [found] at answer
      exact .inl answer
  | some r =>
      obtain ⟨before, s, after, selectors, violated, clear⟩ := List.findSome?_eq_some_iff.mp found
      have walked : before ++ [s] <+: e.selectors := ⟨after, by rw [selectors]; simp⟩
      have visited : s ∈ e.selectors := walked.subset (List.mem_append_right _ List.mem_cons_self)
      have uniform := tidy s (mem_selectors_iff.mp visited).contains
      obtain ⟨m, rfl, unequal, first⟩ := Selector.exists_of_violation? uniform violated
      have answers {query' : String} {e' : Expr} (parsed' : Expr.ofText query' = .ok e') :=
        strictMetrics_of_prefix clear violated parsed'
      have earliest : e.FirstUnequal Matchers.plain before s m :=
        ⟨walked, fun t member => Selector.violation?_eq_none_iff.mp (clear t member), first,
          unequal⟩
      refine .inr ⟨before, s, m, earliest, answers parsed walked, ?_, earliest.all_iff tidy⟩
      intro query' e' parsed' walked'
      rw [answers parsed' walked', answers parsed walked]

/-- **The strict and the lenient reading agree on every query.** They have the same faults, and
the metrics that the strict one accepts are those of the lenient one. The strict one refuses a
query for the first condition other than equality that it looks at, whatever comes after it. That
is the first one of all, as written and in the order of the walk, exactly if no selector that was
visited before has such a condition in an alternative. -/
theorem readings_agree (query : String) : ReadingsAgree query := by
  have lenient := walk_any query
  cases parsed : Expr.ofText query with
  | error f =>
      have strict : strictMetrics query = .error (.fault f) := by
        unfold strictMetrics walk
        rw [parsed]
      have reads : referencedMetrics query = .error f := by
        rw [referencedMetrics_eq, parsed]
        rfl
      refine ⟨fun f' => ?_, lenient, fun ms accepted => ?_, fun e read => ?_⟩
      · rw [strict, reads, Except.error.injEq, Except.error.injEq, Refusal.fault.injEq]
      · rw [strict] at accepted
        cases accepted
      · rw [parsed] at read
        cases read
  | ok e =>
      have reads := referencedMetrics_of_ofText parsed
      rcases accepted_or_refusedFor parsed with accepted | ⟨before, s, m, refused⟩
      · refine ⟨fun f => ?_, lenient, fun ms same => ?_, fun e' _ refused => ?_⟩
        · rw [accepted, reads]
          exact iff_of_false nofun nofun
        · cases accepted.symm.trans same
          exact reads
        · exact absurd accepted (refused _)
      · have answer := refused.answer
        refine ⟨fun f => ?_, lenient, fun ms accepted => ?_, fun e' read _ => ?_⟩
        · rw [answer, reads]
          exact iff_of_false nofun nofun
        · rw [answer] at accepted
          cases accepted
        · cases parsed.symm.trans read
          exact ⟨before, s, m, refused⟩

/-- Of two violations the first one is named. -/
theorem readings_agree_of_two_violations :
    strictMetrics "a\x7bx!=\"1\"\x7d + b\x7by!=\"2\"\x7d" =
        .error (.unsupportedMatcher "x" "!=" "a") ∧
      ∃ e before s m, RefusedFor "a\x7bx!=\"1\"\x7d + b\x7by!=\"2\"\x7d" e before s m := by
  have parsed : Expr.ofText "a\x7bx!=\"1\"\x7d + b\x7by!=\"2\"\x7d" =
      .ok (.binary .add {}
        (.selector { name := some "a", matchers := ⟨[⟨"x", .notEqual, "1"⟩], []⟩ })
        (.selector { name := some "b", matchers := ⟨[⟨"y", .notEqual, "2"⟩], []⟩ })) := by cbv
  have answer : strictMetrics "a\x7bx!=\"1\"\x7d + b\x7by!=\"2\"\x7d" =
      .error (.unsupportedMatcher "x" "!=" "a") := by
    rw [strictMetrics_of_ofText parsed]
    rfl
  refine ⟨answer, _, (readings_agree _).refused _ parsed fun ms accepted => ?_⟩
  rw [answer] at accepted
  cases accepted

/-- A query is refused, but not for its first condition other than equality. -/
def PassesOver (query : String) : Prop :=
  ∃ e before s m r, Expr.ofText query = .ok e ∧ e.FirstUnequal Matchers.all before s m ∧
    strictMetrics query = .error r ∧ r ≠ s.refusal m

/-- A condition in an alternative is passed over, and the query is refused for a later one. -/
theorem passesOver_alternative :
    PassesOver "\x7ba=\"x\" or b!=\"y\"\x7d + c\x7bd!=\"z\"\x7d" := by
  have parsed : Expr.ofText "\x7ba=\"x\" or b!=\"y\"\x7d + c\x7bd!=\"z\"\x7d" =
      .ok (.binary .add {}
        (.selector { matchers := ⟨[], [[⟨"a", .equal, "x"⟩], [⟨"b", .notEqual, "y"⟩]]⟩ })
        (.selector { name := some "c", matchers := ⟨[⟨"d", .notEqual, "z"⟩], []⟩ })) := by cbv
  have answer : strictMetrics "\x7ba=\"x\" or b!=\"y\"\x7d + c\x7bd!=\"z\"\x7d" =
      .error (.unsupportedMatcher "d" "!=" "c") := by
    rw [strictMetrics_of_ofText parsed]
    rfl
  refine ⟨_, [], { matchers := ⟨[], [[⟨"a", .equal, "x"⟩], [⟨"b", .notEqual, "y"⟩]]⟩ },
    ⟨"b", .notEqual, "y"⟩, _, parsed, ⟨⟨_, rfl⟩, ?_, ?_, rfl⟩, answer, ?_⟩
  · exact fun t member => absurd member List.not_mem_nil
  · refine ⟨[⟨"a", .equal, "x"⟩], [], rfl, fun m' member => ?_⟩
    rw [List.mem_singleton.mp member]
    rfl
  · simp [Selector.refusal]

end ProfileAudit.Query
