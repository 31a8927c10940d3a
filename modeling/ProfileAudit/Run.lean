import ProfileAudit.Context
import ProfileAudit.Files
import ProfileAudit.Monitor.Basic
import ProfileAudit.Report.Timestamp
import ProfileAudit.Rule

/-!
Runs. A run asks a metrics backend and a source of monitors, reads and writes files, and
prints lines; a journal says how far it has come. What the backend and the source answer
may depend on the instant and on everything that was asked before.
-/

namespace ProfileAudit

/-! ## The outside -/

/-- A call to the outside. -/
inductive Call where
  | probe
  | metadata (selector : MetadataSelector)
  | rules
  /-- A query, evaluated at an instant of the clock. -/
  | query (text : String) (time : Nat)
  | list (kind : MonitorKind) (selector : String)
  deriving DecidableEq, Inhabited

/-- When a call begins: the instant, and the calls before it. -/
structure Moment where
  now : Nat
  calls : List Call

/-- What a call does, by the moment at which it begins. -/
abbrev Reaction (α : Type) := Moment → Behaviour α

/-- A metrics backend. -/
structure Backend where
  probe : Reaction Unit
  metadata : MetadataSelector → Reaction (List TargetMetadata)
  rules : Reaction (List Rule)
  /-- The samples of a query, evaluated at an instant of the clock. -/
  query : String → Nat → Reaction (List Sample)

/-- A source of monitors, by their kind and a label selector. -/
structure MonitorSource where
  list : MonitorKind → String → Reaction (List Monitor)

/-- What a run is given: its limits, the local time at each instant of the clock, for the
names of reports, and how long its own work takes before each call. -/
structure Surroundings where
  context : RunContext
  localTime : Nat → Timestamp
  lag : Moment → Nat := fun _ => 0

/-! ## Journals -/

/-- How far a run has come: the clock, the calls that have begun, the files, and what was
printed. -/
structure Journal where
  clock : Clock := {}
  calls : List Call := []
  files : FileTree := {}
  output : String := ""
  errors : String := ""
  exit : Option Nat := none
  deriving Inhabited

def Journal.moment (j : Journal) : Moment := ⟨j.clock.now, j.calls⟩

/-- A part of a run. It may fail; what it did until then stays done. -/
abbrev Audit := ReaderT Surroundings (ExceptT Failure (StateM Journal))

namespace Audit

variable {α : Type}

/-- A part of a run by what it does to the journal. -/
def ofStep (f : Surroundings → Journal → Except Failure α × Journal) : Audit α := fun s j => f s j

def ofResult (r : Except Failure α) : Audit α := ofStep fun _ j => (r, j)

/-- Goes on with a result, and panics if there is none. -/
def orPanic (r : Option α) : Audit α := ofResult (r.elim (.error .panic) .ok)

/-- Calls the outside, unless the run is cancelled. -/
def call (what : String) (c : Call) (reaction : Reaction α) : Audit α := ofStep fun s j =>
  let clock := j.clock.pass (s.lag j.moment)
  let behaviour := reaction ⟨clock.now, j.calls⟩
  let (result, after) := s.context.guard what behaviour clock
  (result, { j with
    clock := after, calls := if clock.isCancelled then j.calls else j.calls ++ [c] })

/-- Works on files. -/
def onFiles (f : FileTree → FileTree × Except Failure α) : Audit α := ofStep fun _ j =>
  let (files, result) := f j.files
  (result, { j with files })

/-- Prints a line. -/
def say (line : String) : Audit Unit :=
  ofStep fun _ j => (.ok (), { j with output := j.output ++ line ++ "\n" })

/-- Prints a line of complaint. -/
def complain (line : String) : Audit Unit :=
  ofStep fun _ j => (.ok (), { j with errors := j.errors ++ line ++ "\n" })

/-- The local time. -/
def localTime : Audit Timestamp := ofStep fun s j => (.ok (s.localTime j.clock.now), j)

/-- Carries out a part whatever comes of it, and goes on with its result. Nothing goes on after a
panic. -/
def attempt (part : Audit α) : Audit (Except Failure α) := ofStep fun s j =>
  match part s j with
  | (.error f, j) => (if f.isPanic then .error f else .ok (.error f), j)
  | (.ok a, j) => (.ok (.ok a), j)

end Audit

/-! ## Questions to the backend -/

/-- The names of the metrics that the backend has loaded. -/
def Backend.loadedMetrics (b : Backend) : Reaction NameSet := fun m =>
  (b.metadata {} m).map fun result =>
    inContext "fetching metadata of loaded metrics"
      (result.map fun metadata => .ofList (metadata.map (·.metric)))

end ProfileAudit
