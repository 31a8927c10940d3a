import ProfileAudit.Profile.Status
import ProfileAudit.Profile.Validate
import ProfileAudit.Proofs.Points
import ProfileAudit.Proofs.Profile.Sources

/-!
# Cancelled operations

The operations on profiles ask the backend and list monitors by guarded calls only, or leave it to
the tasks that count, and print nothing themselves (`Operation.mute`). So each of them passes points
as `Passes` lists them, and from the first point at which the run is cancelled no call begins any
more (`silent_once_cancelled`).
-/

namespace ProfileAudit

/-! ## Operations are mute -/

namespace Mute

theorem listBySelectors (source : MonitorSource) (what : String) (kind : MonitorKind)
    (selectors : List String) : Mute (ProfileAudit.listBySelectors source what kind selectors) := by
  induction selectors with
  | nil => exact .pure []
  | cons selector selectors ih => exact .bind (.call _ _ _) fun _ => .bind ih fun _ => .pure _

theorem listKinds (p : CollectionProfile) (source : MonitorSource) (settings : ProfileSettings)
    (kinds : List MonitorKind) : Mute (p.listKinds source settings kinds) := by
  induction kinds with
  | nil => exact .pure []
  | cons kind kinds ih =>
      exact .bind (listBySelectors source _ kind _) fun _ => .bind ih fun _ => .pure _

theorem monitors (p : CollectionProfile) (source : MonitorSource) (settings : ProfileSettings) :
    Mute (p.monitors source settings) := listKinds p source settings MonitorKind.all

theorem validate (p : CollectionProfile) (b : Backend) (source : MonitorSource)
    (settings : ProfileSettings) : Mute (p.validate b source settings) := by
  refine .bind (monitors p source settings) fun monitors => ?_
  refine .bind (.call _ _ _) fun loaded => .bind (.call _ _ _) fun rules => ?_
  exact .bind .localTime fun time => .onFiles _

theorem reportStatus (source : MonitorSource) (settings : ProfileSettings)
    (only : Option CollectionProfile) : Mute (ProfileAudit.reportStatus source settings only) := by
  refine .bind (monitors .full source settings) fun full => ?_
  refine .bind (monitors .minimal source settings) fun minimal => ?_
  exact .bind .localTime fun time => .onFiles _

theorem targetMetrics (b : Backend) (selector : String) :
    Mute (ProfileAudit.targetMetrics b selector) := .bind (.call _ _ _) fun _ => .pure _

theorem ofSource {source : Option String} {metrics : String → Audit NameSet}
    (each : ∀ name, Mute (metrics name)) : Mute (ProfileAudit.ofSource source metrics) := by
  cases source with
  | none => exact .pure _
  | some name => exact each name

theorem extractMetricSet (b : Backend) (sources : ExtractSources) :
    Mute (ProfileAudit.extractMetricSet b sources) := by
  rw [extractMetricSet_eq]
  refine .bind (.reading fun files => sources.reading files) fun found => ?_
  exact .bind (ofSource (targetMetrics b)) fun targeted => .pure _

theorem reportCardinality (p : CollectionProfile) (b : Backend) (settings : ProfileSettings)
    (metrics : NameSet) (time : Timestamp) : Mute (p.reportCardinality b settings metrics time) :=
  .bind (.count b metrics) fun _ => .bind (.ofResult _) fun _ => .bind (.onFiles _) fun _ => .pure _

theorem extract (p : CollectionProfile) (b : Backend) (sources : ExtractSources)
    (settings : ProfileSettings) (withCardinality : Bool) :
    Mute (p.extract b sources settings withCardinality) := by
  refine .bind (extractMetricSet b sources) fun metrics => .bind .localTime fun time => ?_
  cases withCardinality with
  | true =>
      refine .bind (reportCardinality p b settings metrics time).map fun path => ?_
      exact .bind (.onFiles _) fun _ => .pure _
  | false => exact .bind (.pure _) fun path => .bind (.onFiles _) fun _ => .pure _

end Mute

/-! ## Cancellation -/

/-- The operations on profiles. -/
inductive Operation : {α : Type} → Audit α → Prop
  | monitors (p : CollectionProfile) (source : MonitorSource) (settings : ProfileSettings) :
    Operation (p.monitors source settings)
  | validate (p : CollectionProfile) (b : Backend) (source : MonitorSource)
    (settings : ProfileSettings) : Operation (p.validate b source settings)
  | status (source : MonitorSource) (settings : ProfileSettings)
    (only : Option CollectionProfile) : Operation (reportStatus source settings only)
  | metricSet (b : Backend) (sources : ExtractSources) : Operation (extractMetricSet b sources)
  | extract (p : CollectionProfile) (b : Backend) (sources : ExtractSources)
    (settings : ProfileSettings) (withCardinality : Bool) :
    Operation (p.extract b sources settings withCardinality)
  | cardinality (b : Backend) (metrics : List String) :
    Operation (evaluateCardinality b (.ofList metrics))

theorem Operation.mute {α : Type} {part : Audit α} (operation : Operation part) : Mute part := by
  cases operation with
  | monitors p source settings => exact .monitors p source settings
  | validate p b source settings => exact .validate p b source settings
  | status source settings only => exact .reportStatus source settings only
  | metricSet b sources => exact .extractMetricSet b sources
  | extract p b sources settings withCardinality =>
      exact .extract p b sources settings withCardinality
  | cardinality b metrics => exact .count b (.ofList metrics)

/-- **Once a run is cancelled no call begins any more**, whatever the operation, the backend and
the source of monitors, and in whatever order the tasks go on: every run of an operation passes
points between which at most one call begins, and of any two points at the first of which the
run is cancelled the second one has no further call. -/
theorem silent_once_cancelled {s : Surroundings} (bounded : s.context.concurrency ≠ some 0)
    {α : Type} {part : Audit α} (operation : Operation part) (j : Journal) :
    (∃ points, Passes s part j points (part s j).1 (part s j).2) ∧
    ∀ points r k, Passes s part j points r k →
      (j :: (points ++ [k])).IsChain Journal.Next ∧
      (j :: (points ++ [k])).Pairwise Journal.Silent :=
  ⟨operation.mute.traced bounded j, fun _ _ _ passes => ⟨passes.isChain, passes.silent⟩⟩

/-- Somebody cancels a validation while its first listing is under way: the second one does not
begin, and the backend is not asked. -/
theorem silent_once_cancelled_of_slow_listing :
    let b : Backend := ⟨fun _ => .never, fun _ _ => .never, fun _ => .never, fun _ _ _ => .never⟩
    let source : MonitorSource := ⟨fun _ _ _ => .after 2 (.ok [])⟩
    let s : Surroundings := ⟨.start 0 9 1, default, fun _ => 0⟩
    let part := CollectionProfile.minimal.validate b source { reportDir := "reports" }
    let j : Journal := { clock := { cancelledAt := some 1 } }
    s.context.concurrency ≠ some 0 ∧ Operation part ∧ j.clock.isCancelled = false ∧
      (part s j).2.clock = ⟨1, some 1⟩ ∧ (part s j).2.calls.length = 1 ∧
      ∃ points, Passes s part j points (part s j).1 (part s j).2 ∧
        (j :: (points ++ [(part s j).2])).Pairwise Journal.Silent := by
  intro b source s part j
  have bounded : s.context.concurrency ≠ some 0 := by decide
  have operation : Operation part := .validate .minimal b source _
  obtain ⟨⟨points, passes⟩, every⟩ := silent_once_cancelled bounded operation j
  have ends : (part s j).2.clock = ⟨1, some 1⟩ ∧ (part s j).2.calls.length = 1 := by
    decide +kernel
  exact ⟨bounded, operation, by decide, ends.1, ends.2, points, passes,
    (every points _ _ passes).2⟩

end ProfileAudit
