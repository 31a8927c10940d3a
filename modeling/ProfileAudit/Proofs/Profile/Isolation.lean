import ProfileAudit.Proofs.Profile.Reconcile
import ProfileAudit.Proofs.Profile.Reporting

/-!
# What a validation depends on

The validation of the minimal profile sees the monitors that are labelled for it, the names of the
metrics that are loaded, and the rules. Two runs that are answered the same in this regard report
the same, whatever else is in their clusters, in whatever order they are answered, and however long
that takes (`validate_isolated`).
-/

namespace ProfileAudit

open CollectionProfile

/-! ## Runs -/

/-- The monitors that are labelled for the minimal profile. -/
def minimalMonitors (cluster : List Monitor) : List Monitor :=
  cluster.filter fun m => m.profile = some "minimal"

/-- A run of the validation of the minimal profile. -/
structure ValidationRun where
  backend : Backend
  source : MonitorSource
  settings : ProfileSettings
  surroundings : Surroundings
  journal : Journal

namespace ValidationRun

variable (v : ValidationRun)

/-- How the run ends. -/
def outcome : Except Failure (Option String) × Journal :=
  minimal.validate v.backend v.source v.settings v.surroundings v.journal

/-- What the run has to report is written at once. -/
theorem clock_outcome : v.outcome.2.clock = (minimal.validationReport v.backend v.source v.settings
    v.surroundings v.journal).2.clock := by
  rw [outcome, minimal.validate_eq, Audit.bind_apply]
  rcases minimal.validationReport v.backend v.source v.settings v.surroundings v.journal with
    ⟨_ | _, _⟩ <;> rfl

/-- Where the run reports, which depends on when it ends. -/
def path : String :=
  reportPath v.settings.reportDir minimal.validationStem "log"
    (v.surroundings.localTime v.outcome.2.clock.now)

/-- The run returns no report and has left the files alone, or it returns the path of a report and
the report is there. -/
def Reports : Option String → Prop
  | none => v.outcome.1 = .ok none ∧ v.outcome.2.files = v.journal.files
  | some text => v.outcome.1 = .ok (some v.path) ∧ v.outcome.2.files.read v.path = .ok text

/-- The run ends in a panic, and has left the files alone. -/
def Panics : Prop := v.outcome.1 = .error .panic ∧ v.outcome.2.files = v.journal.files

theorem Panics.not_reports {v : ValidationRun} (panics : v.Panics) {report : Option String} :
    ¬ v.Reports report := by
  intro reports
  cases report with
  | none => cases panics.1.symm.trans reports.1
  | some text => cases panics.1.symm.trans reports.1

/-- All calls of the run succeed before it is over, and whatever it has to report can be written.
The source lists the monitors of a cluster in some order, and the metadata names the metrics that
are loaded, in any order and with any repetition. -/
structure Undisturbed (cluster : List Monitor) (loaded : NameSet) (rules : List Rule) :
    Prop where
  key : IsLabelText v.settings.label
  tells : v.source.Tells v.settings.label List.Perm cluster
  serves : v.source.Serves v.settings.label
  loads : ∀ m, ∃ delay metadata, v.backend.metadata {} m = .after delay (.ok metadata) ∧
    ∀ name, name ∈ metadata.map (·.metric) ↔ name ∈ loaded
  rules : ∀ m, ∃ delay, v.backend.rules m = .after delay (.ok rules)
  running : v.surroundings.context.isOver v.outcome.2.clock = false
  writable : ∀ text, (v.journal.files.writeArtifact v.path text).2 = .ok ()

end ValidationRun

/-! ## What is reported -/

/-- The report on the monitors of the minimal profile, by the loaded metrics and the rules. -/
def isolatedReport (rules : List Rule) (loaded : NameSet) (monitors : List Monitor) :
    TableReport := .findings minimal (reconcile rules loaded (aggregate monitors))

/-- What is to be reported, if there is anything. -/
def TableReport.text? (r : TableReport) : Option String :=
  if r.rows = [] then none else some (r.sink "").render

namespace ValidationRun.Undisturbed

variable {v : ValidationRun} {cluster : List Monitor} {loaded : NameSet} {rules : List Rule}

theorem loadedMetrics (undisturbed : v.Undisturbed cluster loaded rules) (m : Moment) :
    ∃ delay, v.backend.loadedMetrics m = .after delay (.ok loaded) := by
  obtain ⟨delay, metadata, answer, same⟩ := undisturbed.loads m
  refine ⟨delay, ?_⟩
  rw [Backend.loadedMetrics_of_metadata answer]
  have set : NameSet.ofList (metadata.map (·.metric)) = loaded :=
    NameSet.eq_of_mem_iff fun name => NameSet.mem_ofList.trans (same name)
  rw [set]

theorem answers (undisturbed : v.Undisturbed cluster loaded rules) :
    ∀ c ∈ minimal.plannedValidation v.backend v.source v.settings, ∀ m,
      ∃ delay, c.reaction m = .after delay (.ok ()) := by
  intro c planned m
  rcases List.mem_append.mp planned with listing | asked
  · exact minimal.answers_plannedListings undisturbed.key undisturbed.serves c listing m
  · rcases List.mem_pair.mp asked with rfl | rfl
    · exact (undisturbed.loadedMetrics m).imp fun _ => PlannedCall.reaction_of
    · exact (undisturbed.rules m).imp fun _ => PlannedCall.reaction_of

/-- The report depends on nothing but the monitors of the profile, the loaded metrics and the
rules. -/
theorem report_eq (undisturbed : v.Undisturbed cluster loaded rules)
    (distinct : ((minimalMonitors cluster).map (·.name)).Nodup) {report : TableReport}
    (findings : minimal.ReportsFindings v.backend v.source v.settings report) :
    report = isolatedReport rules loaded (minimalMonitors cluster) := by
  obtain ⟨monitors, loaded', rules', listed, ⟨m, _, told⟩, ⟨m', _, fetched⟩, rfl⟩ := findings
  obtain ⟨_, told'⟩ := undisturbed.loadedMetrics m
  obtain ⟨_, fetched'⟩ := undisturbed.rules m'
  cases told.symm.trans told'
  cases fetched.symm.trans fetched'
  have perm : monitors.Perm (minimalMonitors cluster) := by
    have perm := listed.perm undisturbed.key undisturbed.tells
    simp only [includes_minimal_iff] at perm
    exact perm
  rw [isolatedReport, aggregate_perm perm.symm distinct]

/-- The run ends as a report on the monitors of the profile does. -/
theorem ends (undisturbed : v.Undisturbed cluster loaded rules)
    (distinct : ((minimalMonitors cluster).map (·.name)).Nodup) :
    ((isolatedReport rules loaded (minimalMonitors cluster)).sink v.path).Ends
      v.journal.files v.outcome.1 v.outcome.2.files := by
  have running := undisturbed.running
  unfold ValidationRun.path
  unfold ValidationRun.outcome at running ⊢
  obtain ⟨report, findings, ended⟩ :=
    (Follows.validationReport minimal v.backend v.source v.settings).report_of_running
      (minimal.validate_eq v.backend v.source v.settings) undisturbed.answers running
  rw [← undisturbed.report_eq distinct findings]
  exact ended

theorem reports (undisturbed : v.Undisturbed cluster loaded rules)
    (distinct : ((minimalMonitors cluster).map (·.name)).Nodup)
    (fits : (isolatedReport rules loaded (minimalMonitors cluster)).Fits) :
    v.Reports (isolatedReport rules loaded (minimalMonitors cluster)).text? := by
  unfold TableReport.text?
  have laid := (isolatedReport rules loaded (minimalMonitors cluster)).laysOut_iff_fits.mpr fits
  rcases (undisturbed.ends distinct).of_writable laid undisturbed.writable with
    ⟨none, result, files⟩ | ⟨some, result, held⟩
  · rw [if_pos none]
    exact ⟨result, files⟩
  · rw [if_neg some]
    exact ⟨result, held⟩

theorem panics (undisturbed : v.Undisturbed cluster loaded rules)
    (distinct : ((minimalMonitors cluster).map (·.name)).Nodup)
    (wide : ¬ (isolatedReport rules loaded (minimalMonitors cluster)).Fits) : v.Panics := by
  have ended := undisturbed.ends distinct
  have breaks := (TableReport.ends_in_panic_iff ended).mpr wide
  obtain ⟨some, broad⟩ := ended.eq_panic_iff.mp breaks
  exact ended.of_wide some broad

end ValidationRun.Undisturbed

/-! ## Answers from lists -/

namespace ValidationRun

/-- A run that is answered from lists, each time after one nanosecond. -/
def answered (cluster : List Monitor) (metrics : List String) (rules : List Rule) (noisy : Bool) :
    ValidationRun where
  backend :=
    { probe _ := .ready (.ok ())
      metadata _ _ := .after 1 (.ok (metrics.map ({ metric := · })))
      rules _ := .after 1 (.ok rules)
      query _ _ _ := .ready (.ok []) }
  source := .ofList cluster 1
  settings := { reportDir := "reports", noisy }
  surroundings := ⟨.start 0 9 1, default, fun _ => 0⟩
  journal := default

theorem undisturbed_answered {cluster : List Monitor} {metrics : List String} {loaded : NameSet}
    {rules : List Rule} {noisy : Bool} (same : ∀ name, name ∈ metrics ↔ name ∈ loaded)
    (running : (RunContext.start 0 9 1).isOver (minimal.validationReport
      (answered cluster metrics rules noisy).backend (.ofList cluster 1)
      { reportDir := "reports", noisy } ⟨.start 0 9 1, default, fun _ => 0⟩ default).2.clock =
        false) :
    (answered cluster metrics rules noisy).Undisturbed cluster loaded rules where
  key := by
    change IsLabelText profileLabel
    decide
  tells := MonitorSource.tells_ofList _ List.Perm.refl cluster 1
  serves := MonitorSource.serves_ofList _ cluster 1
  loads m := by
    refine ⟨1, _, rfl, fun name => ?_⟩
    rw [List.map_map, ← same]
    exact Iff.of_eq (congrArg (name ∈ ·) (List.map_id metrics))
  rules m := ⟨1, rfl⟩
  running := by
    rw [clock_outcome]
    exact running
  writable text := by
    -- the local time is always the same, so it does not matter how long the run takes
    have path : (answered cluster metrics rules noisy).path =
        reportPath "reports" minimal.validationStem "log" default := rfl
    rw [path]
    rfl

end ValidationRun

/-! ## Two runs -/

/-- **A validation depends only on what it should.** Take two undisturbed runs with the same
metrics loaded and the same rules, and let the monitors of their clusters that are labelled for the
minimal profile be the same up to their order and have different names. Then both runs report
nothing, or both report the same text, exactly if what there is to report fits into a table;
otherwise both end in a panic. Other monitors make no difference, nor does whether those without
the label count. -/
theorem validate_isolated {v w : ValidationRun} {cluster cluster' : List Monitor}
    {loaded : NameSet} {rules : List Rule} (first : v.Undisturbed cluster loaded rules)
    (second : w.Undisturbed cluster' loaded rules)
    (same : (minimalMonitors cluster).Perm (minimalMonitors cluster'))
    (distinct : ((minimalMonitors cluster).map (·.name)).Nodup) :
    ((∃ report, v.Reports report ∧ w.Reports report) ↔
      (isolatedReport rules loaded (minimalMonitors cluster)).Fits) ∧
    (¬ (isolatedReport rules loaded (minimalMonitors cluster)).Fits → v.Panics ∧ w.Panics) := by
  have alike : isolatedReport rules loaded (minimalMonitors cluster) =
      isolatedReport rules loaded (minimalMonitors cluster') := by
    rw [isolatedReport, aggregate_perm same distinct, isolatedReport]
  have distinct' := (same.map (·.name)).nodup_iff.mp distinct
  refine ⟨⟨fun ⟨report, reports, _⟩ => ?_, fun fits => ?_⟩, fun wide => ?_⟩
  · by_contra wide
    exact (first.panics distinct wide).not_reports reports
  · exact ⟨_, first.reports distinct fits, alike ▸ second.reports distinct' (alike ▸ fits)⟩
  · exact ⟨first.panics distinct wide, second.panics distinct' (alike ▸ wide)⟩

/-- Two monitors in either order, with a monitor of another profile or one without the label, and
metrics that are named once or twice. -/
theorem validate_isolated_answered :
    let a : Monitor := { keeping .pod "a" "foo" with profile := some "minimal" }
    let b : Monitor := { keeping .service "b" "bar" with profile := some "minimal" }
    let v := ValidationRun.answered [a, keeping .pod "c" "foo", b] ["up", "go"] [alertOn "foo"] true
    let w := ValidationRun.answered [b, { keeping .pod "a" "bar" with profile := some "full" }, a]
      ["go", "up", "up"] [alertOn "foo"] false
    let loaded := NameSet.ofList ["go", "up"]
    v.Undisturbed [a, keeping .pod "c" "foo", b] loaded [alertOn "foo"] ∧
      w.Undisturbed [b, { keeping .pod "a" "bar" with profile := some "full" }, a] loaded
        [alertOn "foo"] ∧
      (isolatedReport [alertOn "foo"] loaded
        (minimalMonitors [a, keeping .pod "c" "foo", b])).Fits ∧
      ∃ report, v.Reports report ∧ w.Reports report := by
  intro a b v w loaded
  have first : v.Undisturbed [a, keeping .pod "c" "foo", b] loaded [alertOn "foo"] :=
    ValidationRun.undisturbed_answered (fun name => by simp [loaded, NameSet.mem_ofList, or_comm])
      (by decide +kernel)
  have second : w.Undisturbed [b, { keeping .pod "a" "bar" with profile := some "full" }, a] loaded
      [alertOn "foo"] :=
    ValidationRun.undisturbed_answered (fun name => by simp [loaded, NameSet.mem_ofList])
      (by decide +kernel)
  have same : (minimalMonitors [a, keeping .pod "c" "foo", b]).Perm (minimalMonitors
      [b, { keeping .pod "a" "bar" with profile := some "full" }, a]) := by
    decide +kernel
  have distinct : ((minimalMonitors [a, keeping .pod "c" "foo", b]).map (·.name)).Nodup := by
    decide +kernel
  have fits : (isolatedReport [alertOn "foo"] loaded
      (minimalMonitors [a, keeping .pod "c" "foo", b])).Fits := by decide +kernel
  exact ⟨first, second, fits, (validate_isolated first second same distinct).1.mpr fits⟩

/-- Two runs on no monitors at all report neither nothing nor the same, by the name of one rule. -/
theorem not_isolated_of_long_name :
    let odd : Rule := { alertOn "up" with name := Table.overlong, kind := .unknown "odd" }
    let v := ValidationRun.answered [] [] [odd] true
    let w := ValidationRun.answered [] [] [odd] false
    v.Undisturbed [] .empty [odd] ∧ w.Undisturbed [] .empty [odd] ∧
      ((minimalMonitors []).map (·.name)).Nodup ∧
      ¬ ∃ report, v.Reports report ∧ w.Reports report := by
  intro odd v w
  have wide : ¬ (isolatedReport [odd] .empty (minimalMonitors [])).Fits := fun fits =>
    Table.not_fitsColumn_overlong
      (TableReport.fitsColumns_of_fits_reconcile (List.mem_singleton_self odd) rfl fits).name
  have undisturbed (noisy : Bool) :
      (ValidationRun.answered [] [] [odd] noisy).Undisturbed [] .empty [odd] :=
    ValidationRun.undisturbed_answered (fun _ => Iff.rfl) (by cases noisy <;> rfl)
  refine ⟨undisturbed true, undisturbed false, .nil, fun ⟨report, reports, _⟩ => ?_⟩
  exact ((undisturbed true).panics .nil wide).not_reports reports

end ProfileAudit
