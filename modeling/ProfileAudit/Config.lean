import ProfileAudit.Files
import ProfileAudit.HumanDuration
import ProfileAudit.Profile.Basic
import ProfileAudit.Toml

/-!
The configuration of a run. It is read from a file, in which every field may be left out;
a configuration that no run could follow is refused.
-/

namespace ProfileAudit

/-- The configuration of a run, with durations in nanoseconds. -/
structure Config where
  /-- The time that a whole run may take. -/
  runTimeout : Nat := 300 * second
  /-- The time that one request to the backend may take. -/
  requestTimeout : Nat := 60 * second
  /-- How many series may be counted at once; zero means no bound. -/
  cardinalityConcurrency : Nat := 0
  reportDir : Option String := none
  /-- The label whose value names the profile of a monitor. -/
  profileLabel : String := profileLabel
  deriving DecidableEq, Inhabited

namespace Config

/-- The file that is looked for in the working directory. -/
def fileName : String := "cpv.toml"

/-- The text of a configuration with the default values. -/
def defaultText : String :=
  "# cpv configuration
#
# Generate this file with `cpv init`. Every field is optional; omitted fields
# take the values shown here.

# Upper bound on the whole run. Outstanding backend and cluster calls are
# cancelled once it elapses.
run_timeout = \"5m\"

# Timeout applied to each individual HTTP request to the backend.
request_timeout = \"60s\"

# Maximum number of concurrent cardinality queries. Zero means unbounded.
cardinality_concurrency = 0

# Label whose value names the collection profile a monitor implements.
profile_label = \"monitoring.openshift.io/collection-profile\"

# Directory receiving reports and artifacts. Defaults to the system temp directory.
# report_dir = \"reports\"
"

/-! ## Reading -/

def text? : Toml.Value → Option String
  | .text s => some s
  | .integer _ => none

def duration? (v : Toml.Value) : Option Nat := text? v >>= HumanDuration.ofText?

/-- A whole number of 64 bits. -/
def natural? : Toml.Value → Option Nat
  | .integer n => if 0 ≤ n ∧ n < Int.pow 2 64 then some n.toNat else none
  | .text _ => none

/-- The configuration with one more field given; there are no other fields. -/
def setField (c : Config) : String × Toml.Value → Option Config
  | ("run_timeout", v) => do return { c with runTimeout := ← duration? v }
  | ("request_timeout", v) => do return { c with requestTimeout := ← duration? v }
  | ("cardinality_concurrency", v) => do return { c with cardinalityConcurrency := ← natural? v }
  | ("report_dir", v) => do return { c with reportDir := some (← text? v) }
  | ("profile_label", v) => do return { c with profileLabel := ← text? v }
  | _ => none

/-- The configuration of a text; fields that are left out have their default values. -/
def ofText? (text : String) : Option Config := do
  (← Toml.members? text).foldlM setField {}

/-- The configuration where there is no file. -/
def default : Config := (ofText? defaultText).getD {}

/-! ## Validity -/

/-- The longest timeout, in days. -/
def maxTimeoutDays : Nat := 7

def maxTimeout : Nat := maxTimeoutDays * 86400 * second

/-- What is wrong with a configuration, in the order in which it is looked for. -/
inductive Defect where
  | zeroRunTimeout
  | zeroRequestTimeout
  | longRunTimeout
  | longRequestTimeout
  | blankLabel
  deriving DecidableEq, Inhabited

def Defect.message : Defect → String
  | zeroRunTimeout => "run_timeout must be greater than zero"
  | zeroRequestTimeout => "request_timeout must be greater than zero"
  | longRunTimeout => s!"run_timeout must not exceed {maxTimeoutDays} days"
  | longRequestTimeout => s!"request_timeout must not exceed {maxTimeoutDays} days"
  | blankLabel => "profile_label must not be empty"

/-- The first defect of a configuration. -/
def defect? (c : Config) : Option Defect :=
  if c.runTimeout = 0 then some .zeroRunTimeout
  else if c.requestTimeout = 0 then some .zeroRequestTimeout
  else if maxTimeout < c.runTimeout then some .longRunTimeout
  else if maxTimeout < c.requestTimeout then some .longRequestTimeout
  else if Blank.isAll c.profileLabel then some .blankLabel
  else none

/-- A configuration without defects. -/
def validate (c : Config) : Except Failure Config :=
  match c.defect? with
  | none => .ok c
  | some d => .error (.ofText d.message)

/-! ## Files -/

/-- The configuration of a file's text. -/
def parse (path text : String) : Except Failure Config := do
  (← orFail .toml s!"parsing configuration file '{path}'" (ofText? text)).validate

/-- Reads the configuration of a given file, or of the one in a directory. Only the latter
may be missing. -/
def load (files : FileTree) (base : String) (explicit : Option String) :
    Except Failure Config :=
  let what := "reading cpv configuration file"
  match explicit with
  | some path => do parse path (← files.readFor path what)
  | none =>
    let path := Path.join base fileName
    match files.read path with
    | .error .notFound => .ok default
    | _ => do parse path (← files.readFor path what)

/-- Writes a configuration with the default values. -/
def saveDefault (files : FileTree) (path : String) : FileTree × Except Failure Unit :=
  match files.write path defaultText with
  | .ok files => (files, .ok ())
  | .error fault => (files, .error ⟨.io fault, [s!"writing default configuration to {path}"]⟩)

end Config

end ProfileAudit
