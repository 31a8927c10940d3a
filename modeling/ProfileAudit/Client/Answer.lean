import ProfileAudit.Client.Envelope
import ProfileAudit.Rule

/-!
The data in the answers of a metrics backend: the result of a query, the metadata of
metrics, and groups of rules.
-/

namespace ProfileAudit

/-! ## Queries -/

/-- The result of a query, whose form depends on its type. -/
structure QueryData where
  resultType : String
  result : Json

namespace QueryData

/-- How deep a result may be nested. -/
def depthLimit : Nat := 125

def ofJson? (j : Json) : Option QueryData := do
  let r ← j.record? ["resultType", "result"]
  let resultType ← r.required "resultType" Json.string?
  let result ← r.required "result" some
  if result.inRange && decide (result.depth ≤ depthLimit) then
    return { resultType, result := result.distinct }
  else none

/-- A sample before its value is read. -/
structure Reading where
  labels : List (String × String) := []
  value : String

/-- An instant and a value. -/
def value? : Json → Option String
  | .array [time, value] => time.float? >>= fun _ => value.string?
  | _ => none

def reading? (j : Json) : Option Reading := do
  let r ← j.record? ["metric", "value"]
  let labels ← r.withDefault "metric" [] Json.texts?
  return { labels, value := ← r.required "value" value? }

/-- The sample of a query, with its value as a number. -/
def sample (query : String) (r : Reading) : Except Failure Sample := do
  let what := s!"parsing sample value '{r.value}' of query '{query}'"
  return { labels := r.labels, value := ← orFail .float what (Decimal.float? r.value) }

/-- The samples in the result of a query, which has to be an instant vector. -/
def samples (query : String) (d : QueryData) : Except Failure (List Sample) := do
  if d.resultType ≠ "vector" then
    .error (.ofText s!"query '{query}' returned a {d.resultType} instead of a vector")
  let what := s!"decoding result of query '{query}'"
  (← orFail .json what (Json.list? reading? d.result)).mapM (sample query)

end QueryData

/-! ## Metadata -/

def TargetMetadata.ofJson? (j : Json) : Option TargetMetadata := do
  let r ← j.record? ["target", "metric", "type", "help", "unit"]
  let target ← r.withDefault "target" [] Json.texts?
  let metric ← r.required "metric" Json.string?
  let type ← r.withDefault "type" "" Json.string?
  let help ← r.withDefault "help" "" Json.string?
  let unit ← r.withDefault "unit" "" Json.string?
  return { target, metric, type, help, unit }

/-- The fields of a request for metadata. -/
def MetadataSelector.fields (s : MetadataSelector) : List (String × String) :=
  (s.matchTarget.map ("match_target", ·)).toList ++ (s.metric.map ("metric", ·)).toList ++
    (s.limit.map fun n => ("limit", toString n)).toList

/-! ## Rules -/

/-- A rule in a group that is named elsewhere. -/
def Rule.ofJson? (group file : String) (j : Json) : Option Rule := do
  let r ← j.record? ["type", "name", "query"]
  let kind ← r.required "type" Json.string?
  let name ← r.withDefault "name" "" Json.string?
  let query ← r.withDefault "query" "" Json.string?
  return { name, query, kind := .ofName kind, group, file }

/-- The rules of a group. -/
def Rule.ofGroup? (j : Json) : Option (List Rule) := do
  let r ← j.record? ["name", "file", "rules"]
  let name ← r.required "name" Json.string?
  let file ← r.withDefault "file" "" Json.string?
  r.withDefault "rules" [] (Json.list? (Rule.ofJson? name file))

/-- The rules of all groups. -/
def Rule.ofGroups? (j : Json) : Option (List Rule) := do
  let r ← j.record? ["groups"]
  return (← r.withDefault "groups" [] (Json.list? Rule.ofGroup?)).flatten

end ProfileAudit
