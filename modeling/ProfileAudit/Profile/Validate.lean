import ProfileAudit.Profile.Listing
import ProfileAudit.Profile.Reconcile
import ProfileAudit.Report.Sink

/-!
Validation of a profile: the backend's rules are reconciled with the patterns of the
profile's monitors.
-/

namespace ProfileAudit

/-- Reports what the rules need and the profile's monitors admit but the backend has not
loaded. The path of the report is returned if there is something to report. -/
def CollectionProfile.validate (p : CollectionProfile) (backend : Backend)
    (source : MonitorSource) (settings : ProfileSettings) : Audit (Option String) := do
  let monitors ← p.monitors source settings
  let loaded ← Audit.call "building the loaded metric set" (.metadata {}) backend.loadedMetrics
  let rules ← Audit.call "fetching rules" .rules backend.rules
  let stem := s!"{p.name}-profile-operator-metric-discrepancies"
  let path := reportPath settings.reportDir stem "log" (← Audit.localTime)
  let sink : ReportSink := { path, header := Finding.header p.name }
  .onFiles (sink.recordAll ((reconcile rules loaded (aggregate monitors)).map (·.row))).finish

end ProfileAudit
