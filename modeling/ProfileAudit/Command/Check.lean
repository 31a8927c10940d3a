import ProfileAudit.Client.Basic
import ProfileAudit.Cluster.Source
import ProfileAudit.Command.Arguments
import ProfileAudit.Config
import ProfileAudit.Profile.Status
import ProfileAudit.Profile.Validate

/-!
The command `check`: validation, extraction and status, in this order, as far as they are
asked for. They are independent: one that fails is reported and the next one is carried
out. Without a backend nothing is; without a cluster there is only extraction.
-/

namespace ProfileAudit

/-- What a program runs in. -/
structure Setting where
  network : Network
  /-- The cluster that is inferred if no file is named, from what else leads to one. -/
  inferred : FileTree → Except Cluster.Fault Cluster
  /-- The directory for reports if none is given. -/
  tempDir : String
  /-- The instant at which the clock started. -/
  epoch : Instant
  /-- The local time at each instant of the clock. -/
  localTime : Nat → Timestamp
  /-- How long the program's own work takes before each call. -/
  lag : Moment → Nat := fun _ => 0

/-! ## Outcomes -/

/-- Carries out an operation, and prints how it ended. -/
def Audit.report (operation : String) (part : Audit (List String)) : Audit Unit := do
  match ← part.attempt with
  | .ok lines => lines.forM Audit.say
  | .error f => Audit.complain s!"{operation} failed: {f.render}"

/-- How a profile is called that is not given. -/
def unspecified : String := "unspecified"

namespace CheckArgs

/-- The profile that is given, if something can be done with it. -/
def profileFor (a : CheckArgs) (can : CollectionProfile → Bool) (what : String) :
    Except Failure CollectionProfile :=
  match a.profile.filter can with
  | some p => .ok p
  | none =>
    let name := (a.profile.map (·.name)).getD unspecified
    .error (.ofText s!"the {name} profile has no {what}")

/-! ## Operations -/

def validation (a : CheckArgs) (backend : Backend) (source : MonitorSource)
    (settings : ProfileSettings) : Audit (List String) := do
  let p ← Audit.ofResult (a.profileFor (·.canValidate) "validation")
  match ← p.validate backend source settings with
  | some path => return [s!"Validation found discrepancies, refer: {path}"]
  | none => return ["Validation found no discrepancies"]

def extraction (a : CheckArgs) (backend : Backend) (settings : ProfileSettings) :
    Audit (List String) := do
  let p ← Audit.ofResult (a.profileFor (·.canExtract) "extraction")
  let o ← p.extract backend a.sources settings a.outputCardinality
  let count := o.metrics.toList.length
  return s!"Extracted {count} metric(s), refer: {o.relabelConfig}" ::
    (o.cardinalityReport.map fun path => s!"Cardinality statistics, refer: {path}").toList

def statusReport (a : CheckArgs) (source : MonitorSource) (settings : ProfileSettings) :
    Audit (List String) := do
  match ← reportStatus source settings a.profile with
  | some path => return [s!"Some profiles are not fully implemented, refer: {path}"]
  | none => return ["All profiles are fully implemented"]

/-- The cluster that the arguments lead to. -/
def connection (a : CheckArgs) (w : Setting) (files : FileTree) (label : String) :
    Except Failure Cluster := Cluster.connect w.inferred files a.kubeconfig label

/-- The monitors of the cluster, if they are looked at and the cluster can be reached. -/
def connectCluster (a : CheckArgs) (w : Setting) (label : String) :
    Audit (Option MonitorSource) := do
  if !a.needsCluster then return none
  match ← Audit.attempt (.ofStep fun _ j => (a.connection w j.files label, j)) with
  | .ok cluster => return some (cluster.source w.network)
  | .error f => do
    Audit.complain s!"connecting to the cluster failed: {f.render}"
    return none

/-- Carries out what is asked for. -/
def operations (a : CheckArgs) (backend : Backend) (source : Option MonitorSource)
    (settings : ProfileSettings) : Audit Unit := do
  if let (true, some source) := (a.validate, source) then
    Audit.report "validation" (a.validation backend source settings)
  if !a.sources.isEmpty then
    Audit.report "extraction" (a.extraction backend settings)
  if let (true, some source) := (a.status, source) then
    Audit.report "status" (a.statusReport source settings)

/-- Finds the backend and the cluster, and carries out what is asked for. -/
def audit (a : CheckArgs) (w : Setting) (requestTimeout : Nat) (settings : ProfileSettings) :
    Audit Unit := do
  let client ← Audit.ofResult (Client.ofAddress a.address a.bearerToken requestTimeout)
  let backend := client.backend w.network w.epoch
  Audit.call "probing the backend" .probe backend.probe
  let source ← a.connectCluster w settings.label
  a.operations backend source settings

end CheckArgs

/-! ## The command -/

/-- What is printed if nothing is asked for. -/
def nothingToDo : String :=
  "Nothing to do: pass --validate, --status, or an extraction source " ++
    "(--allow-list-file, --rule-file, --target-selectors) together with --profile"

/-- Prints that nothing is asked for, and ends the process. -/
def refuseToDoNothing (j : Journal) : Except Failure Unit × Journal :=
  (.error (.ofText "no operation requested"),
    { j with errors := j.errors ++ nothingToDo ++ "\n", exit := some 1 })

/-- The settings that the arguments and the configuration give together. -/
def CheckArgs.settings (a : CheckArgs) (w : Setting) (config : Config) : ProfileSettings where
  label := config.profileLabel
  reportDir := (a.reportDir.or config.reportDir).getD w.tempDir
  noisy := a.noisy

/-- The request that a call of a run makes, if it makes one. -/
def CheckArgs.requestOf? (a : CheckArgs) (w : Setting) (files : FileTree) (call : Call) :
    Option Request := do
  let config ← (Config.load files "." a.config).toOption
  match call with
  | .list kind selector =>
    let cluster ← (a.connection w files config.profileLabel).toOption
    (cluster.request kind selector).toOption
  | _ =>
    let client ← (Client.ofAddress a.address a.bearerToken config.requestTimeout).toOption
    client.requestOf? w.epoch call

/-- Runs the command. -/
def checkProfiles (w : Setting) (a : CheckArgs) (j : Journal) : Except Failure Unit × Journal :=
  if !a.anyOperation then refuseToDoNothing j
  else
    match Config.load j.files "." a.config with
    | .error f => (.error f, j)
    | .ok config =>
      let context := RunContext.start j.clock.now config.runTimeout config.cardinalityConcurrency
      a.audit w config.requestTimeout (a.settings w config) ⟨context, w.localTime, w.lag⟩ j

end ProfileAudit
