import ProfileAudit.Proofs.Profile.Reporting

/-!
# What the status report lists

A monitor of the default profile lacks a counterpart if no monitor of its kind in the minimal
profile has its name with the profile's behind it. The status report has one row for each monitor
that lacks one, in the order in which the monitors are listed (`reports_lacking`). Which profile
the report was asked for makes no difference, for there is only one besides the default.
-/

namespace ProfileAudit

/-! ## Counterparts -/

/-- No monitor of the same kind is the counterpart of a monitor in the minimal profile. -/
def Lacks (cluster : List Monitor) (d : Monitor) : Prop :=
  ∀ m ∈ cluster, m.kind = d.kind → m.profile = some "minimal" → m.name ≠ d.name ++ "-minimal"

instance (cluster : List Monitor) (d : Monitor) : Decidable (Lacks cluster d) :=
  List.decidableBAll _ cluster

/-- The order of listing: the monitors of pods before those of services, and of each kind those
with the label before those without it. -/
structure ListedBefore (a b : Monitor) : Prop where
  kind : a.kind = .service → b.kind = .service
  label : a.kind = b.kind → a.profile = none → b.profile = none

namespace CollectionProfile

variable {noisy : Bool} {cluster : List Monitor} {d : Monitor}

/-- The monitors of the default profile stand in the order of listing. -/
theorem listedBefore_inPlaces (noisy : Bool) (cluster : List Monitor) :
    (full.inPlaces noisy cluster).Pairwise ListedBefore := by
  have places : (full.places noisy).Pairwise fun a b =>
      (a.1 = .service → b.1 = .service) ∧ (a.1 = b.1 → a.2 = none → b.2 = none) := by
    cases noisy <;> decide
  have own {m : Monitor} {place : MonitorKind × Option String} (member : m ∈ cluster.filter fun m =>
      (m.kind, m.profile) == place) : (m.kind, m.profile) = place :=
    eq_of_beq (List.mem_filter.mp member).2
  rw [inPlaces, List.pairwise_flatMap]
  constructor
  · -- at one place all kinds are the same, and all labels
    intro place _
    refine List.pairwise_of_forall_mem_list fun a here b here' => ?_
    have same := Prod.mk.inj ((own here).trans (own here').symm)
    exact ⟨fun service => same.1 ▸ service, fun _ unlabelled => same.2 ▸ unlabelled⟩
  · refine places.imp fun before a here b there => ?_
    rw [← own here, ← own there] at before
    exact ⟨before.1, before.2⟩

/-- A monitor is implemented for the minimal profile unless it lacks its counterpart. -/
theorem isImplemented_inPlaces_iff :
    minimal.isImplemented (minimal.inPlaces noisy cluster) d = true ↔ ¬ Lacks cluster d := by
  have counterpart : s!"{d.name}-{minimal.name}" = d.name ++ "-minimal" := by
    apply String.toList_injective
    simp [name, toString, String.toList_append]
  simp only [isImplemented, counterpart, List.any_eq_true, Bool.and_eq_true, beq_iff_eq,
    mem_inPlaces_iff, includes_minimal_iff, Lacks, not_forall, not_not]
  constructor
  · rintro ⟨m, ⟨member, labelled⟩, kind, named⟩
    exact ⟨m, member, kind, labelled, named⟩
  · rintro ⟨m, member, kind, labelled, named⟩
    exact ⟨m, ⟨member, labelled⟩, kind, named⟩

/-- Whichever profile is asked for, the minimal one is looked at. -/
theorem checked_eq (only : Option CollectionProfile) : checked only = [minimal] := by
  rcases only with _ | p
  · decide
  · cases p <;> decide

end CollectionProfile

open CollectionProfile

/-- The monitors of the default profile that lack their counterparts, in the order of listing. -/
def lacking (noisy : Bool) (cluster : List Monitor) : List Monitor :=
  (full.inPlaces noisy cluster).filter fun d => Lacks cluster d

theorem lacking_perm (noisy : Bool) (cluster : List Monitor) : (lacking noisy cluster).Perm
    (cluster.filter fun d => full.Includes noisy d ∧ Lacks cluster d) := by
  refine ((full.inPlaces_perm noisy cluster).filter _).trans (.of_eq ?_)
  rw [List.filter_filter]
  refine List.filter_congr fun d _ => ?_
  rw [Bool.and_comm, Bool.decide_and]

theorem lacking_eq_nil_iff {noisy : Bool} {cluster : List Monitor} : lacking noisy cluster = [] ↔
    ∀ d ∈ cluster, full.Includes noisy d → ¬ Lacks cluster d := by
  simp only [lacking, List.filter_eq_nil_iff, mem_inPlaces_iff, decide_eq_true_iff, and_imp]

/-- What is missing are the monitors that lack their counterparts. -/
theorem missingImplementations_inPlaces (noisy : Bool) (cluster : List Monitor)
    (only : Option CollectionProfile) :
    missingImplementations (·.inPlaces noisy cluster) only =
      (lacking noisy cluster).map fun d => ⟨.minimal, d.kind, d.name⟩ := by
  have lacks (d : Monitor) : (!minimal.isImplemented (minimal.inPlaces noisy cluster) d) =
      decide (Lacks cluster d) := by
    rw [Bool.eq_iff_iff, Bool.not_eq_true', ← Bool.not_eq_true, isImplemented_inPlaces_iff,
      not_not, decide_eq_true_iff]
  simp only [missingImplementations, checked_eq, List.flatMap_singleton, lacks]
  rfl

/-! ## The report -/

section

variable {source : MonitorSource} {settings : ProfileSettings} {cluster : List Monitor}

theorem answers_plannedStatus (key : IsLabelText settings.label)
    (serves : source.Serves settings.label) :
    ∀ c ∈ plannedStatus source settings, ∀ m, ∃ delay, c.reaction m = .after delay (.ok ()) := by
  intro c planned
  rcases List.mem_append.mp planned with listing | listing
  · exact full.answers_plannedListings key serves c listing
  · exact minimal.answers_plannedListings key serves c listing

/-- The row for a monitor that lacks its counterpart. -/
def lackingRow (d : Monitor) : List String := StatusFinding.row ⟨.minimal, d.kind, d.name⟩

/-- The report on some monitors that lack their counterparts. -/
def lackingReport (ds : List Monitor) : TableReport :=
  .status (ds.map fun d => ⟨.minimal, d.kind, d.name⟩)

theorem sink_lackingReport (ds : List Monitor) (path : String) : (lackingReport ds).sink path =
    ReportSink.mk path StatusFinding.header (ds.map lackingRow) := by
  simp only [lackingReport, TableReport.sink, TableReport.header, TableReport.rows, List.map_map]
  rfl

/-- The longest name that a monitor of a cluster can have. -/
def longestName : Nat := 253

/-- Names that a cluster can hold fit into the report. -/
theorem fits_lackingReport {ds : List Monitor} (named : ∀ d ∈ ds, d.name.length ≤ longestName) :
    (lackingReport ds).Fits := by
  simp only [lackingReport, TableReport.Fits, TableReport.texts, List.map_map,
    List.forall_mem_map]
  intro d listed
  exact (Nat.add_le_add_right (named d listed) Table.gap).trans (by decide)

/-- Whatever profile is asked for, the report is on the monitors that lack a counterpart. -/
theorem ReportsMissing.report_eq {only : Option CollectionProfile} {report : TableReport}
    (reports : ReportsMissing source settings only report) (key : IsLabelText settings.label)
    (tells : source.Tells settings.label (· = ·) cluster) :
    report = lackingReport (lacking settings.noisy cluster) := by
  obtain ⟨monitors, listed, rfl⟩ := reports
  have every : monitors = (·.inPlaces settings.noisy cluster) :=
    funext fun p => (listed p).eq_inPlaces key tells
  rw [every, missingImplementations_inPlaces, lackingReport]

/-- **The status report lists what lacks a counterpart.** If all listings succeed before the run is
over, the report has one row for each monitor of the default profile that lacks its counterpart
in the minimal one, and no other row, whichever profile it was asked for. The rows stand in the
order of listing, and there is no report exactly if nothing lacks a counterpart. With names that a
cluster can hold the report does not end in a panic. -/
theorem reports_lacking (key : IsLabelText settings.label)
    (tells : source.Tells settings.label (· = ·) cluster) (serves : source.Serves settings.label)
    (only : Option CollectionProfile) (s : Surroundings) (j : Journal)
    (running : s.context.isOver (reportStatus source settings only s j).2.clock = false) :
    let outcome := reportStatus source settings only s j
    let ds := lacking settings.noisy cluster
    let path := reportPath settings.reportDir "implementation-status" "log"
      (s.localTime outcome.2.clock.now)
    (ReportSink.mk path StatusFinding.header (ds.map lackingRow)).Ends j.files outcome.1
      outcome.2.files ∧
    ds.Perm (cluster.filter fun d => full.Includes settings.noisy d ∧ Lacks cluster d) ∧
    ds.Pairwise ListedBefore ∧
    (outcome.1 = .ok none ↔
      ∀ d ∈ cluster, full.Includes settings.noisy d → ¬ Lacks cluster d) ∧
    ((∀ d ∈ cluster, d.name.length ≤ longestName) → outcome.1 ≠ .error .panic) := by
  intro outcome ds path
  obtain ⟨_, reports, ended⟩ := (Follows.missingReport source settings only).report_of_running
    (reportStatus_eq source settings only) (answers_plannedStatus key serves) running
  obtain rfl := reports.report_eq key tells
  have perm := lacking_perm settings.noisy cluster
  have breaks := TableReport.ends_in_panic_iff ended
  rw [sink_lackingReport] at ended
  refine ⟨ended, perm, (listedBefore_inPlaces _ cluster).filter _, ?_, fun named => ?_⟩
  · rw [ended.eq_none_iff, List.map_eq_nil_iff, lacking_eq_nil_iff]
  · refine mt breaks.mp (not_not.mpr (fits_lackingReport fun d listed => named d ?_))
    exact List.mem_of_mem_filter (perm.subset listed)

/-- Of two pods' monitors that lack their counterparts the one with the label comes first. A
service's monitor is no counterpart of a pod's. -/
theorem reports_lacking_noisy :
    let monitor := fun (name : String) (kind : MonitorKind) (profile : Option String) =>
      ({ name, kind, profile } : Monitor)
    let cluster := [monitor "a" .service (some "full"), monitor "b" .pod none,
      monitor "c" .pod (some "full"), monitor "a-minimal" .service (some "minimal"),
      monitor "b-minimal" .service (some "minimal")]
    let source := MonitorSource.ofList cluster 1
    let settings : ProfileSettings := { reportDir := "reports", noisy := true }
    let s : Surroundings := ⟨.start 0 9 1, default, fun _ => 0⟩
    IsLabelText settings.label ∧ source.Tells settings.label (· = ·) cluster ∧
      source.Serves settings.label ∧
      s.context.isOver (reportStatus source settings (some .full) s default).2.clock = false ∧
      (ReportSink.mk (reportPath "reports" "implementation-status" "log" default)
        StatusFinding.header [["minimal", "", "c", "not implemented"],
          ["minimal", "", "b", "not implemented"]]).Ends (default : Journal).files
            (reportStatus source settings (some .full) s default).1
            (reportStatus source settings (some .full) s default).2.files := by
  intro monitor cluster source settings s
  have key : IsLabelText settings.label := by decide
  have tells : source.Tells settings.label (· = ·) cluster :=
    MonitorSource.tells_ofList settings.label (fun _ => rfl) cluster 1
  have serves := MonitorSource.serves_ofList settings.label cluster 1
  have running : s.context.isOver (reportStatus source settings (some .full) s default).2.clock =
      false := by decide +kernel
  obtain ⟨report, -⟩ :=
    @reports_lacking source settings cluster key tells serves (some .full) s default running
  have rows : (lacking settings.noisy cluster).map lackingRow =
      [["minimal", "", "c", "not implemented"], ["minimal", "", "b", "not implemented"]] := by
    decide +kernel
  rw [rows] at report
  exact ⟨key, tells, serves, running, report⟩

end

end ProfileAudit
