import ProfileAudit.Cardinality
import ProfileAudit.Profile.Basic
import ProfileAudit.Report.Relabel
import ProfileAudit.RuleFile

/-!
Extraction of a profile's metrics: the metrics that a list names, that the rules of a file
refer to, and that certain targets have.
-/

namespace ProfileAudit

/-- The sources of a set of metrics; each of them may be absent. -/
structure ExtractSources where
  /-- A file that lists names of metrics. -/
  allowListFile : Option String := none
  ruleFile : Option String := none
  /-- A selector of targets by labels. -/
  targetSelectors : Option String := none
  deriving DecidableEq, Inhabited

def ExtractSources.isEmpty (s : ExtractSources) : Bool :=
  s.allowListFile.isNone && s.ruleFile.isNone && s.targetSelectors.isNone

open Yaml in
/-- The names in the text of a list. -/
def allowListOfText? (text : String) : Option (List String) := do
  let d ← Document.ofText? text
  let ms ← d.members? false ["metrics"] (d.root.getD .blank)
  member ms "metrics" [] (d.list? d.text?)

/-- The names that a file lists. -/
def metricsInAllowList (files : FileTree) (path : String) : Except Failure NameSet := do
  let text ← files.readFor path "reading allow-list file"
  (orFail .yaml s!"parsing allow-list file '{path}'" (allowListOfText? text)).map .ofList

/-- A selector of targets has no other matchers than equalities. -/
def checkTargetSelector (selector : String) : Except Failure Unit :=
  match Query.strictMetrics selector with
  | .ok _ => .ok ()
  | .error refusal => .error ⟨.query refusal, [s!"validating target selector '{selector}'"]⟩

/-- The metrics of the targets that a selector matches. -/
def targetMetrics (b : Backend) (selector : String) : Audit NameSet := do
  let request : MetadataSelector := { matchTarget := some selector }
  let found ← Audit.call "fetching target metadata" (.metadata request) (b.metadata request)
  return .ofList (found.map (·.metric))

/-- What a source gives, and nothing if it is absent. -/
def ofSource (source : Option String) (metrics : String → Audit NameSet) : Audit NameSet :=
  match source with
  | some s => metrics s
  | none => return .empty

/-- The metrics of all sources together. The selector is checked before anything is read,
and the backend is asked after everything is read. -/
def extractMetricSet (b : Backend) (sources : ExtractSources) : Audit NameSet := do
  if let some selector := sources.targetSelectors then
    Audit.ofResult (checkTargetSelector selector)
  let allowed ← ofSource sources.allowListFile fun path =>
    .ofStep fun _ j => (metricsInAllowList j.files path, j)
  let ruled ← ofSource sources.ruleFile fun path =>
    .ofStep fun _ j => (metricsInRuleFile j.files path, j)
  let targeted ← ofSource sources.targetSelectors (targetMetrics b)
  return (allowed.union ruled).union targeted

/-- What an extraction has made: the set of metrics, and where the relabeling and the
counts were written. -/
structure ExtractionOutcome where
  metrics : NameSet
  relabelConfig : String
  cardinalityReport : Option String

/-- Writes the counts of some metrics, and tells where. -/
def CollectionProfile.reportCardinality (p : CollectionProfile) (b : Backend)
    (settings : ProfileSettings) (metrics : NameSet) (time : Timestamp) : Audit String := do
  let records ← evaluateCardinality b metrics
  let stem := s!"{p.name}-profile-extractor-cardinality-statistics"
  let path := reportPath settings.reportDir stem "log" time
  let table ← Audit.orPanic (cardinalityTable? records)
  Audit.onFiles (·.writeArtifact path table)
  return path

/-- Derives the metrics of a profile and writes the relabeling that keeps them, after the
counts of the metrics if these are wanted. -/
def CollectionProfile.extract (p : CollectionProfile) (b : Backend) (sources : ExtractSources)
    (settings : ProfileSettings) (withCardinality : Bool) : Audit ExtractionOutcome := do
  let metrics ← extractMetricSet b sources
  let time ← Audit.localTime
  let cardinalityReport ←
    if withCardinality then some <$> p.reportCardinality b settings metrics time else pure none
  let stem := s!"{p.name}-profile-extractor-relabel-config"
  let relabelConfig := reportPath settings.reportDir stem "yaml" time
  Audit.onFiles (·.writeArtifact relabelConfig (KeepRelabelConfig.ofMetrics metrics).toYaml)
  return { metrics, relabelConfig, cardinalityReport }

end ProfileAudit
