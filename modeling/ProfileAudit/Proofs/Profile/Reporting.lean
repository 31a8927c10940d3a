import ProfileAudit.Profile.Status
import ProfileAudit.Profile.Validate
import ProfileAudit.Proofs.Profile.Listing
import ProfileAudit.Proofs.Report.Sink
import ProfileAudit.Proofs.Report.Widths

/-!
# Operations that report

Validation and the report of the status first gather what there is to report, by calls that are
known beforehand, and then write it, under a name that the local time completes (`validate_eq`,
`reportStatus_eq`). So whatever fails before the writing leaves the files alone and is the last
thing that happens, and a report is there exactly if its path is returned. Of a report that does
not fit into a table nothing is written and nothing is returned (`reports_cleanly`).
-/

namespace ProfileAudit

/-! ## Gathering -/

/-- Writes a report, if there is anything in it, and tells where. -/
def writeReport (dir stem : String) (report : TableReport) : Audit (Option String) := do
  let path := reportPath dir stem "log" (← Audit.localTime)
  .onFiles (report.sink path).finish

theorem writeReport_apply (dir stem : String) (report : TableReport) (s : Surroundings)
    (j : Journal) :
    let sink := report.sink (reportPath dir stem "log" (s.localTime j.clock.now))
    writeReport dir stem report s j =
      ((sink.finish j.files).2, { j with files := (sink.finish j.files).1 }) := rfl

namespace CollectionProfile

/-- What a validation has to report. -/
def validationReport (p : CollectionProfile) (b : Backend) (source : MonitorSource)
    (settings : ProfileSettings) : Audit TableReport := do
  let monitors ← p.monitors source settings
  let loaded ← Audit.call "building the loaded metric set" (.metadata {}) b.loadedMetrics
  let rules ← Audit.call "fetching rules" .rules b.rules
  return .findings p (reconcile rules loaded (aggregate monitors))

/-- The calls of a validation: the listings, then the metadata, then the rules. -/
def plannedValidation (p : CollectionProfile) (b : Backend) (source : MonitorSource)
    (settings : ProfileSettings) : List PlannedCall :=
  p.plannedListings source settings ++
    [.of "building the loaded metric set" (.metadata {}) b.loadedMetrics,
      .of "fetching rules" .rules b.rules]

/-- The report is on the findings on what was answered. -/
def ReportsFindings (p : CollectionProfile) (b : Backend) (source : MonitorSource)
    (settings : ProfileSettings) (report : TableReport) : Prop :=
  ∃ monitors loaded rules, Answers source (p.listings settings) monitors ∧
    (∃ m delay, b.loadedMetrics m = .after delay (.ok loaded)) ∧
    (∃ m delay, b.rules m = .after delay (.ok rules)) ∧
    report = .findings p (reconcile rules loaded (aggregate monitors))

/-- The stem of the report on a validation. -/
def validationStem (p : CollectionProfile) : String :=
  s!"{p.name}-profile-operator-metric-discrepancies"

theorem validate_eq (p : CollectionProfile) (b : Backend) (source : MonitorSource)
    (settings : ProfileSettings) : p.validate b source settings =
      p.validationReport b source settings >>= writeReport settings.reportDir p.validationStem := by
  simp only [validate, validationReport, writeReport, ReportSink.recordAll_eq, bind_assoc,
    pure_bind]
  rfl

end CollectionProfile

/-- What there is to report on the status. -/
def missingReport (source : MonitorSource) (settings : ProfileSettings)
    (only : Option CollectionProfile) : Audit TableReport := do
  let full ← CollectionProfile.full.monitors source settings
  let minimal ← CollectionProfile.minimal.monitors source settings
  let monitors := fun
    | CollectionProfile.full => full
    | .minimal => minimal
  return .status (missingImplementations monitors only)

theorem reportStatus_eq (source : MonitorSource) (settings : ProfileSettings)
    (only : Option CollectionProfile) : reportStatus source settings only =
      missingReport source settings only >>=
        writeReport settings.reportDir "implementation-status" := by
  simp only [reportStatus, missingReport, writeReport, ReportSink.recordAll_eq, bind_assoc,
    pure_bind]
  rfl

/-- The calls of a status report: the listings of each profile. -/
def plannedStatus (source : MonitorSource) (settings : ProfileSettings) : List PlannedCall :=
  CollectionProfile.full.plannedListings source settings ++
    CollectionProfile.minimal.plannedListings source settings

/-- The report is on what is missing by what was answered. -/
def ReportsMissing (source : MonitorSource) (settings : ProfileSettings)
    (only : Option CollectionProfile) (report : TableReport) : Prop :=
  ∃ monitors : CollectionProfile → List Monitor,
    (∀ p, Answers source (p.listings settings) (monitors p)) ∧
    report = .status (missingImplementations monitors only)

namespace Follows

variable {s : Surroundings}

theorem validationReport (p : CollectionProfile) (b : Backend) (source : MonitorSource)
    (settings : ProfileSettings) :
    Follows s (p.validationReport b source settings) (p.plannedValidation b source settings)
      (p.ReportsFindings b source settings) := by
  refine .bind (.monitors p source settings) fun monitors listed => ?_
  refine .bind (.call "building the loaded metric set" (.metadata {}) b.loadedMetrics)
    fun loaded told => ?_
  refine .bind_pure (.call "fetching rules" .rules b.rules) fun rules fetched => ?_
  exact ⟨monitors, loaded, rules, listed, told, fetched, rfl⟩

theorem missingReport (source : MonitorSource) (settings : ProfileSettings)
    (only : Option CollectionProfile) :
    Follows s (ProfileAudit.missingReport source settings only) (plannedStatus source settings)
      (ReportsMissing source settings only) := by
  refine .bind (.monitors .full source settings) fun full listed => ?_
  refine .bind_pure (.monitors .minimal source settings) fun minimal listed' => ?_
  refine ⟨_, fun p => ?_, rfl⟩
  cases p with
  | full => exact listed
  | minimal => exact listed'

end Follows

/-! ## Reporting what was gathered -/

section

variable {s : Surroundings} {gather : Audit TableReport} {plan : List PlannedCall}
  {good : TableReport → Prop}

/-- What the calls of an operation come to, and then the report. -/
theorem Follows.report_cases (follows : Follows s gather plan good) (dir stem : String)
    (j : Journal) :
    (∃ failure k, Course s plan j (some failure) k ∧
      (gather >>= writeReport dir stem) s j = (.error failure, k)) ∨
    ∃ report k result after, Course s plan j none k ∧ good report ∧
      (report.sink (reportPath dir stem "log" (s.localTime k.clock.now))).Ends
        j.files result after ∧
      (gather >>= writeReport dir stem) s j = (result, { k with files := after }) := by
  rcases follows j with ⟨failure, k, course, ends⟩ | ⟨report, k, course, ends, ok⟩
  · exact .inl ⟨failure, k, course, by rw [Audit.bind_apply, ends]⟩
  · refine .inr ⟨report, k, _, _, course, ok, ReportSink.ends_finish _ _, ?_⟩
    rw [Audit.bind_apply, ends, ← course.files]
    exact writeReport_apply dir stem report s k

/-- If every call is answered sooner or later and the run is not over at the end, the operation
ends as its report does. -/
theorem Follows.report_of_running {part : Audit (Option String)}
    (follows : Follows s gather plan good) {dir stem : String} {j : Journal}
    (is : part = gather >>= writeReport dir stem)
    (answers : ∀ c ∈ plan, ∀ m, ∃ delay, c.reaction m = .after delay (.ok ()))
    (running : s.context.isOver (part s j).2.clock = false) :
    ∃ report, good report ∧
      (report.sink (reportPath dir stem "log" (s.localTime (part s j).2.clock.now))).Ends
        j.files (part s j).1 (part s j).2.files := by
  subst is
  rcases follows.report_cases dir stem j with
    ⟨failure, k, course, ends⟩ | ⟨report, k, result, after, course, ok, ended, ends⟩
  · rw [ends] at running
    cases course.eq_none answers running
  · rw [ends]
    exact ⟨report, ok, ended⟩

end

/-! ## Failing cleanly -/

/-- A report ends in a panic exactly if it does not fit into its table. -/
theorem TableReport.ends_in_panic_iff {r : TableReport} {path : String} {files after : FileTree}
    {result : Except Failure (Option String)} (ended : (r.sink path).Ends files result after) :
    result = .error .panic ↔ ¬ r.Fits := by
  rw [ended.eq_panic_iff, ← r.laysOut_iff_fits, Bool.not_eq_true]
  refine and_iff_right_of_imp fun wide none => ?_
  have laid := r.laysOut_iff_fits.mpr (fits_of_rows_nil none)
  cases wide.symm.trans laid

/-- From any journal, the operation makes the planned calls in order and nothing else until one of
them fails. Then it fails as that call, and no file or directory is another one than before.
If all are answered it ends as its report does, which is of some kind: without rows nothing
is written; the report is there and its path is returned; it cannot be written, and no
file is another one than before; or, and that exactly if it does not fit into its table, it ends in
a panic, and all files are as they were. -/
structure ReportsCleanly (s : Surroundings) (part : Audit (Option String))
    (plan : List PlannedCall) (good : TableReport → Prop) (j : Journal) : Prop where
  course : ∃ failed k, Course s plan j failed k ∧ k.files = j.files ∧
    (∃ asked, k.calls = j.calls ++ asked ∧ asked <+: plan.map (·.call) ∧
      (failed = none → asked = plan.map (·.call))) ∧
    ((∃ failure, failed = some failure ∧ part s j = (.error failure, k)) ∨
      failed = none ∧ ∃ (report : TableReport) (path : String)
        (result : Except Failure (Option String)) (after : FileTree), good report ∧
          (report.sink path).Ends j.files result after ∧
          (result = .error .panic ↔ ¬ report.Fits) ∧
          part s j = (result, { k with files := after }))
  /-- A path is returned only if the report is there, with at least one row. -/
  returned : ∀ path, (part s j).1 = .ok (some path) → ∃ report : TableReport, good report ∧
    report.Fits ∧ report.rows ≠ [] ∧
      (part s j).2.files.read path = .ok (report.sink path).render
  /-- A report is there only if its path is returned: otherwise the files are those from before. -/
  unreturned : (∀ path, (part s j).1 ≠ .ok (some path)) →
    j.files.SameFiles (part s j).2.files

/-- An operation that gathers its report by planned calls fails cleanly. -/
theorem Follows.reportsCleanly {s : Surroundings} {gather : Audit TableReport}
    {plan : List PlannedCall} {good : TableReport → Prop}
    (follows : Follows s gather plan good) (dir stem : String) (j : Journal) :
    ReportsCleanly s (gather >>= writeReport dir stem) plan good j := by
  rcases follows.report_cases dir stem j with
    ⟨failure, k, course, fails⟩ | ⟨report, k, result, after, course, ok, ended, ends⟩
  · refine ⟨⟨_, k, course, course.files, course.calls, .inl ⟨failure, rfl, fails⟩⟩, ?_, ?_⟩
    · intro path ok
      rw [fails] at ok
      cases ok
    · intro _
      rw [fails]
      exact course.files ▸ .refl _
  · have breaks := TableReport.ends_in_panic_iff ended
    refine ⟨⟨none, k, course, course.files, course.calls,
      .inr ⟨rfl, report, _, result, after, ok, ended, breaks, ends⟩⟩, ?_, ?_⟩
    · intro path returned
      rw [ends] at returned ⊢
      have fits : report.Fits := by
        by_contra wide
        cases returned.symm.trans (breaks.mpr wide)
      cases ended with
      | written some _ held =>
          cases returned
          exact ⟨report, ok, fits, some, held⟩
      | _ => cases returned
    · intro unreturned
      rw [ends] at unreturned ⊢
      cases ended with
      | written => exact absurd rfl (unreturned _)
      | unwritten _ _ _ same => exact same
      | _ => exact .refl _

/-- **Validation and the status report fail cleanly, if what they report fits into a table.**
Monitors are listed before the backend is asked, for the metadata first and then for the rules, and
each call is made only if those before it were answered. The failure is that of the first call that
fails, and nothing happens after it. A report that does not fit ends in a panic instead of a
failure, and exactly then. -/
theorem reports_cleanly (b : Backend) (source : MonitorSource) (settings : ProfileSettings)
    (s : Surroundings) (j : Journal) :
    (∀ p : CollectionProfile, ReportsCleanly s (p.validate b source settings)
      (p.plannedValidation b source settings) (p.ReportsFindings b source settings) j) ∧
    ∀ only, ReportsCleanly s (reportStatus source settings only)
      (plannedStatus source settings) (ReportsMissing source settings only) j := by
  refine ⟨fun p => ?_, fun only => ?_⟩
  · rw [p.validate_eq]
    exact (Follows.validationReport p b source settings).reportsCleanly _ _ j
  · rw [reportStatus_eq]
    exact (Follows.missingReport source settings only).reportsCleanly _ _ j

/-- A validation whose calls are all answered at once, and that could write its report, comes to
nothing by the name of one rule. -/
theorem panics_of_long_name :
    let odd : Rule := { alertOn "up" with name := Table.overlong, kind := .unknown "odd" }
    let b : Backend := ⟨fun _ => .never, fun _ _ => .ready (.ok []), fun _ => .ready (.ok [odd]),
      fun _ _ _ => .never⟩
    let source : MonitorSource := ⟨fun _ _ _ => .ready (.ok [])⟩
    let settings : ProfileSettings := { reportDir := "reports" }
    let s : Surroundings := ⟨.start 0 9 1, default, fun _ => 0⟩
    ∃ k, Course s (CollectionProfile.minimal.plannedValidation b source settings) {} none k ∧
      (∀ text, (k.files.writeArtifact "reports/r.log" text).2 = .ok ()) ∧
      CollectionProfile.minimal.validate b source settings s {} = (.error .panic, k) := by
  intro odd b source settings s
  have wide : ¬ (TableReport.findings .minimal (reconcile [odd] .empty (aggregate []))).Fits :=
    fun fits => Table.not_fitsColumn_overlong
      (TableReport.fitsColumns_of_fits_reconcile (List.mem_singleton_self odd) rfl fits).name
  have gathered : (CollectionProfile.minimal.validationReport b source settings s {}).1 =
      .ok (.findings .minimal (reconcile [odd] .empty (aggregate []))) := rfl
  rcases Follows.validationReport (s := s) .minimal b source settings {} with
    ⟨failure, k, -, fails⟩ | ⟨report, k, course, ends, -⟩
  · cases gathered.symm.trans (congrArg Prod.fst fails)
  · obtain rfl : TableReport.findings .minimal (reconcile [odd] .empty (aggregate [])) = report :=
      Except.ok.inj (gathered.symm.trans (congrArg Prod.fst ends))
    refine ⟨k, course, fun text => ?_, ?_⟩
    · rw [course.files]
      rfl
    · rw [CollectionProfile.validate_eq, Audit.bind_apply, ends]
      dsimp only
      rw [writeReport_apply, TableReport.finish_of_wide wide]

end ProfileAudit
