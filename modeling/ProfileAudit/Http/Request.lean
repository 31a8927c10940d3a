import ProfileAudit.Http.Status
import ProfileAudit.Run
import ProfileAudit.Text.Base64
import ProfileAudit.Url.Form
import ProfileAudit.Url.Reader

/-!
Requests for documents, and the network that answers them.
-/

namespace ProfileAudit

/-- A request for the document at a URL. -/
structure Request where
  url : Url
  /-- Who asks, if that is told. -/
  agent : Option String := none
  authorization : Option String := none
  deriving DecidableEq, Inhabited

/-- The answer to a request. -/
structure Response where
  status : Nat
  body : String
  deriving DecidableEq, Inhabited

/-- A network: how a request is answered, by the moment at which it is sent. -/
abbrev Network := Request → Reaction Response

/-- The value that presents a name and a password. -/
def basicAuthorization (name password : String) : String :=
  "Basic " ++ String.ofList (Base64.encode (name ++ ":" ++ password).toUTF8.toList)

/-- What the user and the password in a URL present, if there are any. -/
def Url.authorization? (u : Url) : Option String := do
  let a ← u.authority
  if a.credentials.isEmpty then none
  let decoded := fun (s : String) => (Percent.decodeText? s.toList).getD s
  return basicAuthorization (decoded a.username) (decoded a.password)

/-- The URL without user and password. -/
def Url.anonymous (u : Url) : Url :=
  { u with authority := u.authority.map fun a => { a with username := "", password := "" } }

/-- The URL with some named values as its query. -/
def Url.withFields (u : Url) (fields : List (String × String)) : Url :=
  { u with query := if fields.isEmpty then u.query else some (Form.encode fields) }

/-- The scheme is one of the web. -/
def Url.isWeb (u : Url) : Bool := u.scheme == "http" || u.scheme == "https"

/-- Ends a call with a failure where it takes too long. -/
def Behaviour.within {α : Type} (timeout : Nat) (late : Failure) : Behaviour α → Behaviour α
  | .after delay result =>
    if delay ≤ timeout then .after delay result else .after timeout (.error late)
  | .never => .after timeout (.error late)

/-- Sends a request, and waits for the answer as long as `timeout` says. -/
def Network.fetch (network : Network) (timeout : Nat) (r : Request) : Reaction Response := fun m =>
  if r.url.isWeb then (network r m).within timeout ⟨.http, []⟩ else .ready (.error ⟨.http, []⟩)

/-- A value that stands in a header has no control characters but tabs. -/
def isHeaderValue (value : String) : Bool :=
  value.toList.all fun c => c == '\t' || (decide (' ' ≤ c) && c != '\x7f')

end ProfileAudit
