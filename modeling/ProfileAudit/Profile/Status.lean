import ProfileAudit.Profile.Listing
import ProfileAudit.Profile.Reconcile
import ProfileAudit.Report.Sink

/-!
How far the profiles are implemented. A monitor of the default profile is implemented for
another profile if that profile has a monitor of the same kind under the same name with
the profile's name behind it.
-/

namespace ProfileAudit

/-- A monitor of the default profile that has no counterpart for some profile. -/
structure StatusFinding where
  profile : CollectionProfile
  kind : MonitorKind
  monitor : String
  deriving DecidableEq, Inhabited

namespace StatusFinding

def header : List String := ["PROFILE", "SERVICE MONITOR", "POD MONITOR", "ERROR"]

def row (f : StatusFinding) : List String :=
  let (service, pod) := match f.kind with
    | .service => (f.monitor, "")
    | .pod => ("", f.monitor)
  [f.profile.name, service, pod, FindingKind.notImplemented.message]

end StatusFinding

/-- One of the monitors is the counterpart of a monitor for a profile. -/
def CollectionProfile.isImplemented (p : CollectionProfile) (monitors : List Monitor)
    (d : Monitor) : Bool :=
  monitors.any fun m => m.kind == d.kind && m.name == s!"{d.name}-{p.name}"

/-- The profiles that are looked at: one of them, or all of them if none or the default one
is given. -/
def CollectionProfile.checked (only : Option CollectionProfile) : List CollectionProfile :=
  nonDefault.filter fun p => only.all fun o => o.isDefault || o == p

/-- The monitors of the default profile that have no counterpart, by the profiles' lists of
monitors. -/
def missingImplementations (monitors : CollectionProfile → List Monitor)
    (only : Option CollectionProfile) : List StatusFinding :=
  (CollectionProfile.checked only).flatMap fun p =>
    ((monitors .default).filter (!p.isImplemented (monitors p) ·)).map fun d =>
      ⟨p, d.kind, d.name⟩

/-- Lists the monitors of every profile, and reports those that have no counterpart. The
path of the report is returned if there is something to report. -/
def reportStatus (source : MonitorSource) (settings : ProfileSettings)
    (only : Option CollectionProfile) : Audit (Option String) := do
  let full ← CollectionProfile.full.monitors source settings
  let minimal ← CollectionProfile.minimal.monitors source settings
  let monitors := fun
    | CollectionProfile.full => full
    | .minimal => minimal
  let path := reportPath settings.reportDir "implementation-status" "log" (← Audit.localTime)
  let sink : ReportSink := { path, header := StatusFinding.header }
  .onFiles (sink.recordAll ((missingImplementations monitors only).map (·.row))).finish

end ProfileAudit
