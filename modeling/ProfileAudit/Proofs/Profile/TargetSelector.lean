import Mathlib
import ProfileAudit.Profile.Extract
import ProfileAudit.Proofs.Query.Metrics
import ProfileAudit.Proofs.Run

/-!
# The check of target selectors

A selector of targets is handed to the backend, which is asked only for what equalities
say. Extraction reads the selector strictly before it does anything else. What the strict
reading does not see it does not refuse, and for a selector that is not refused the backend is
asked at once (`calls_of_accepted`).
-/

namespace ProfileAudit

open Query

variable {b : Backend} {s : Surroundings} {j : Journal} {query : String} {e : Expr}

/-- A refused selector ends the extraction before anything is read or asked. -/
theorem extractMetricSet_of_refused {sources : ExtractSources} {refusal : Refusal}
    (selector : sources.targetSelectors = some query)
    (refused : strictMetrics query = .error refusal) :
    extractMetricSet b sources s j =
      (.error ⟨.query refusal, [s!"validating target selector '{query}'"]⟩, j) := by
  have check : checkTargetSelector query =
      .error ⟨.query refusal, [s!"validating target selector '{query}'"]⟩ := by
    rw [checkTargetSelector, refused]
  unfold extractMetricSet
  rw [selector]
  dsimp only
  rw [Audit.bind_apply, Audit.ofResult_apply, check]

/-- With an accepted selector alone the backend is asked at once. -/
theorem calls_of_accepted {ms : NameSet} (accepted : strictMetrics query = .ok ms)
    (running : (j.clock.pass (s.lag j.moment)).isCancelled = false) :
    (extractMetricSet b { targetSelectors := some query } s j).2.calls =
      j.calls ++ [.metadata { matchTarget := some query }] := by
  have check : checkTargetSelector query = .ok () := by
    rw [checkTargetSelector, accepted]
  have asks : extractMetricSet b { targetSelectors := some query } s j =
      (targetMetrics b query >>= fun t =>
        pure ((NameSet.empty.union NameSet.empty).union t)) s j := by
    unfold extractMetricSet
    dsimp only
    rw [Audit.bind_apply, Audit.ofResult_apply, check]
    rfl
  rw [asks, Audit.snd_bind_pure, targetMetrics, Audit.snd_bind_pure, Audit.calls_call running]

/-- **A target selector is checked exactly as far as its conditions are exposed.** Both the
strict reading and the extraction, before it reads or asks anything, refuse a selector if
and only if one of its conditions other than equality stands outside the parameters of
aggregations and in no alternative. -/
theorem refused_iff_exposes (parsed : Expr.ofText query = .ok e) :
    ((∃ label op metric, strictMetrics query = .error (.unsupportedMatcher label op metric)) ↔
      ∃ m, e.Exposes m) ∧
    ((∀ (b : Backend) (sources : ExtractSources) (s : Surroundings) (j : Journal),
      sources.targetSelectors = some query →
        ∃ label op metric, extractMetricSet b sources s j =
          (.error ⟨.query (.unsupportedMatcher label op metric),
            [s!"validating target selector '{query}'"]⟩, j)) ↔
      ∃ m, e.Exposes m) := by
  have accepted_of_not : (¬ ∃ m, e.Exposes m) → strictMetrics query = .ok e.metrics :=
    strictMetrics_of_not_exposes parsed
  refine ⟨⟨?_, ?_⟩, ⟨?_, ?_⟩⟩
  · intro h
    rcases h with ⟨label, op, metric, refused⟩
    by_contra unexposed
    rw [accepted_of_not unexposed] at refused
    cases refused
  · intro h
    rcases h with ⟨m, exposes⟩
    exact strictMetrics_of_exposes parsed exposes
  · intro fails
    by_contra unexposed
    -- a run that is not cancelled, with a backend that never answers
    have asked := calls_of_accepted (b := ⟨fun _ => .never, fun _ _ => .never, fun _ => .never,
        fun _ _ _ => .never⟩) (s := ⟨⟨0, none⟩, fun _ => default, fun _ => 0⟩) (j := {})
      (accepted_of_not unexposed) rfl
    obtain ⟨label, op, metric, ended⟩ := fails _ { targetSelectors := some query } _ _ rfl
    rw [ended] at asked
    cases asked
  · intro h b sources s j selector
    rcases h with ⟨m, exposes⟩
    obtain ⟨label, op, metric, refused⟩ := strictMetrics_of_exposes parsed exposes
    exact ⟨label, op, metric, extractMetricSet_of_refused selector refused⟩

/-- A condition of the left operand is exposed, so its selector is refused. -/
theorem refused_of_exposed_condition :
    ∃ e, Expr.ofText "up\x7bjob!=\"x\"\x7d / up" = .ok e ∧
      ∃ label op metric, strictMetrics "up\x7bjob!=\"x\"\x7d / up" =
        .error (.unsupportedMatcher label op metric) := by
  have parsed : Expr.ofText "up\x7bjob!=\"x\"\x7d / up" =
      .ok (.binary .divide {}
        (.selector { name := some "up", matchers := ⟨[⟨"job", .notEqual, "x"⟩], []⟩ })
        (.selector { name := some "up" })) := by cbv
  refine ⟨_, parsed, (refused_iff_exposes parsed).1.mpr ⟨⟨"job", .notEqual, "x"⟩, rfl, ?_⟩⟩
  exact ⟨_, .left .selector, rfl, List.mem_singleton_self _⟩

/-- A query contains a condition other than equality, and the strict reading accepts it. -/
def Smuggles (query : String) : Prop :=
  ∃ e s m, Expr.ofText query = .ok e ∧ e.Contains s ∧ m ∈ s.matchers.all ∧
    m.op.isEqual = false ∧ strictMetrics query = .ok e.metrics

/-- Conditions pass the check in a parameter, and as alternatives. -/
theorem smuggles_parameter_and_alternative :
    Smuggles "topk(scalar(foo\x7bjob!=\"x\"\x7d), bar)" ∧
      Smuggles "\x7bjob=\"x\" or job!=\"y\"\x7d" := by
  constructor
  · have parsed : Expr.ofText "topk(scalar(foo\x7bjob!=\"x\"\x7d), bar)" =
        .ok (.aggregation .topk none
          (some (.call ⟨"scalar", [.vector], false, false, .scalar⟩ [.selector
            { name := some "foo", matchers := ⟨[⟨"job", .notEqual, "x"⟩], []⟩ }]))
          (.selector { name := some "bar" })) := by cbv
    refine ⟨_, _, ⟨"job", .notEqual, "x"⟩, parsed,
      .parameter rfl (.argument List.mem_cons_self .selector), List.mem_singleton_self _, rfl, ?_⟩
    rw [strictMetrics_of_ofText parsed]
    rfl
  · have parsed : Expr.ofText "\x7bjob=\"x\" or job!=\"y\"\x7d" =
        .ok (.selector { matchers :=
          ⟨[], [[⟨"job", .equal, "x"⟩], [⟨"job", .notEqual, "y"⟩]]⟩ }) := by cbv
    refine ⟨_, _, ⟨"job", .notEqual, "y"⟩, parsed, .selector,
      List.mem_cons_of_mem _ (List.mem_singleton_self _), rfl, ?_⟩
    rw [strictMetrics_of_ofText parsed]
    rfl

end ProfileAudit
