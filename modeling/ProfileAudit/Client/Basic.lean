import ProfileAudit.Client.Answer
import ProfileAudit.Instant

/-!
A metrics backend behind an address. Its interface lies below the path of the address,
whether a slash ends that path or not.
-/

namespace ProfileAudit

/-- How a backend is asked. -/
structure Client where
  base : Url
  authorization : Option String := none
  /-- How long a request may take. -/
  timeout : Nat
  deriving DecidableEq, Inhabited

namespace Client

/-- The name under which requests are made. -/
def agent : String := "cpv"

/-- The value that presents a token. -/
def bearer (token : String) : Except Failure String :=
  let value := s!"Bearer {token}"
  if isHeaderValue value then .ok value else .error ⟨.header, ["invalid bearer token"]⟩

/-- The client for an address and a token. -/
def ofAddress (address : String) (token : Option String) (timeout : Nat) :
    Except Failure Client := do
  let base ← (Url.ofText address).mapError fun fault =>
    (⟨.url fault, [s!"parsing backend address '{address}'"]⟩ : Failure)
  let authorization ← match token with
    | some token => (bearer token).map some
    | none => .ok none
  return { base := base.withSlash, authorization, timeout }

/-- The request for a URL. A user in the URL goes before the token. -/
def requestFor (c : Client) (u : Url) : Request where
  url := u.anonymous
  agent := some agent
  authorization := u.authorization?.or c.authorization

/-- The request for the address itself. -/
def probeRequest (c : Client) : Request := c.requestFor c.base

/-- The request for a resource. -/
def request (c : Client) (r : Resource) (fields : List (String × String)) :
    Except Failure Request := do
  let url ← (c.base.join r.names).mapError fun fault =>
    (⟨.url fault, [s!"building URL for {r.path}"]⟩ : Failure)
  return c.requestFor (url.withFields fields)

/-- Asks for the address itself. Any answer will do. -/
def probe (c : Client) (network : Network) : Reaction Unit := fun m =>
  (network.fetch c.timeout c.probeRequest m).map fun result =>
    inContext s!"backend at {c.base.text} is unreachable" (result.map fun _ => ())

/-- Asks for a resource. -/
def get {α : Type} (c : Client) (network : Network) (r : Resource)
    (fields : List (String × String)) (data? : Json → Option α) : Reaction α := fun m =>
  match c.request r fields with
  | .error f => .ready (.error f)
  | .ok request => (network.fetch c.timeout request m).map fun result =>
    inContext s!"requesting /{r.path}" result >>= Envelope.ofResponse r data?

/-- The fields of a query that is evaluated at an instant. -/
def queryFields (query : String) (time : Instant) : List (String × String) :=
  [("query", query), ("time", time.text)]

/-- Evaluates a query at an instant. -/
def query (c : Client) (network : Network) (query : String) (time : Instant) :
    Reaction (List Sample) := fun m =>
  (c.get network .query (queryFields query time) QueryData.ofJson? m).map
    (· >>= QueryData.samples query)

/-- Asks for the metadata of metrics. -/
def metadata (c : Client) (network : Network) (s : MetadataSelector) :
    Reaction (List TargetMetadata) :=
  c.get network .targetsMetadata s.fields (Json.list? TargetMetadata.ofJson?)

/-- Asks for all rules. -/
def rules (c : Client) (network : Network) : Reaction (List Rule) :=
  c.get network .rules [] Rule.ofGroups?

/-- The request that a call to the backend makes, if it makes one. -/
def requestOf? (c : Client) (epoch : Instant) : Call → Option Request
  | .probe => some c.probeRequest
  | .metadata s => (c.request .targetsMetadata s.fields).toOption
  | .rules => (c.request .rules []).toOption
  | .query text time => (c.request .query (queryFields text (epoch.later time))).toOption
  | .list .. => none

/-- The backend behind the address, if the clock started at the instant `epoch`. -/
def backend (c : Client) (network : Network) (epoch : Instant) : Backend where
  probe := c.probe network
  metadata := c.metadata network
  rules := c.rules network
  query text time := c.query network text (epoch.later time)

end Client

end ProfileAudit
