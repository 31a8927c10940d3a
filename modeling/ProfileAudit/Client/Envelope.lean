import ProfileAudit.Failure
import ProfileAudit.Http.Request
import ProfileAudit.Json.Reader
import ProfileAudit.Json.Record

/-!
The envelope that every answer of a metrics backend comes in: it tells whether the request
succeeded, and holds either data or what went wrong. The status of the response does not
count.
-/

namespace ProfileAudit

/-- What a backend can be asked for. -/
inductive Resource where
  | query | targetsMetadata | rules
  deriving DecidableEq, Inhabited

namespace Resource

/-- The segments below the address of the backend. -/
def names : Resource → List String
  | query => ["api", "v1", "query"]
  | targetsMetadata => ["api", "v1", "targets", "metadata"]
  | rules => ["api", "v1", "rules"]

def path (r : Resource) : String := "/".intercalate r.names

end Resource

/-- The envelope of an answer. -/
structure Envelope (α : Type) where
  status : String
  data : Option α := none
  errorType : Option String := none
  error : Option String := none
  warnings : List String := []

namespace Envelope

variable {α : Type}

/-- Reads an envelope. Its data has to be of the right form also if it tells of an error. -/
def ofJson? (data? : Json → Option α) (j : Json) : Option (Envelope α) := do
  let r ← j.record? ["status", "data", "errorType", "error", "warnings"]
  let status ← r.required "status" Json.string?
  let data ← r.mayLack "data" (Json.orNull? data?)
  let errorType ← r.withDefault "errorType" none (Json.orNull? Json.string?)
  let error ← r.withDefault "error" none (Json.orNull? Json.string?)
  let warnings ← r.withDefault "warnings" [] (Json.list? Json.string?)
  return { status, data := data.join, errorType, error, warnings }

/-- The data of an envelope that tells of success. -/
def result (e : Envelope α) (r : Resource) : Except Failure α :=
  if e.status = "success" then
    match e.data with
    | some data => .ok data
    | none => .error (.ofText s!"/{r.path} returned no data")
  else
    let kind := e.errorType.getD "unknown error"
    let details := e.error.getD "no details"
    .error (.ofText s!"/{r.path} failed with {kind}: {details}")

/-- The data in a response. -/
def ofResponse (r : Resource) (data? : Json → Option α) (response : Response) :
    Except Failure α := do
  let what := s!"decoding response from /{r.path} (HTTP {Status.text response.status})"
  (← orFail .json what (Json.ofText? response.body >>= ofJson? data?)).result r

end Envelope

end ProfileAudit
