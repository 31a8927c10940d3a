import ProfileAudit.Client.Basic
import ProfileAudit.Proofs.Url.Web

/-!
# Below an address

What a client asks for lies below its address: the whole path of the address stays before the path
of the resource, with one slash between them, and nothing is left of a query or a fragment
(`Request.Below`). Each call sends one such request and comes to what is made of the answer to it
(`Client.Asks`). So it makes no difference whether a slash ends the path of the address
(`Client.requests_below_address`).
-/

namespace ProfileAudit

/-- The request is for a path below the address, with the fields for its query. -/
structure Request.Below (u : Url) (path : String) (fields : List (String × String))
    (request : Request) : Prop where
  scheme : request.url.scheme = u.scheme
  place : ∃ a, u.authority = some a ∧
    request.url.authority = some { host := a.host, port := a.port }
  path : request.url.path.text =
    u.path.text ++ (if u.path.text.toList.getLast? = some '/' then "" else "/") ++ path
  query : request.url.query = if fields.isEmpty then none else some (Form.encode fields)
  fragment : request.url.fragment = none

namespace Client

variable {address : String} {token : Option String} {timeout : Nat} {u : Url} {c : Client}

/-- What a client presents besides its address. -/
def present (token : Option String) : Except Failure (Option String) :=
  match token with
  | some token => (bearer token).map some
  | none => .ok none

theorem ofAddress_of_ofText (read : Url.ofText address = .ok u) (token : Option String)
    (timeout : Nat) : ofAddress address token timeout =
      (present token).map fun authorization => { base := u.withSlash, authorization, timeout } := by
  rw [ofAddress, read]
  cases token with
  | none => rfl
  | some token =>
      change ((bearer token).map some >>= fun authorization =>
        .ok (⟨u.withSlash, authorization, timeout⟩ : Client)) = ((bearer token).map some).map _
      cases (bearer token).map some <;> rfl

theorem base_of_ofAddress (read : Url.ofText address = .ok u)
    (made : ofAddress address token timeout = .ok c) : c.base = u.withSlash := by
  rw [ofAddress_of_ofText read, map_eq_ok_iff] at made
  obtain ⟨authorization, -, is⟩ := made
  rw [← is]

theorem text_names (r : Resource) : (UrlPath.segments r.names).text = "/" ++ r.path := by
  cases r <;> decide

/-- Every resource is asked for below the address. -/
theorem exists_request (read : Url.ofText address = .ok u) (web : u.isWeb = true)
    (base : c.base = u.withSlash) (r : Resource) (fields : List (String × String)) :
    ∃ request, c.request r fields = .ok request ∧ request.Below u r.path fields := by
  obtain ⟨a, names, hosted, path, whole⟩ := Url.exists_of_ofText read web
  obtain ⟨before, slashed⟩ := Url.exists_slashed names
  rw [Url.withSlash_segments path] at base
  have joined : c.base.join r.names = .ok
      { u with path := .segments (before ++ r.names), query := none, fragment := none } := by
    rw [Url.join, base]
    dsimp only
    rw [slashed, List.dropLast_concat]
  have whole : (UrlPath.segments (before ++ r.names)).text = u.path.text ++
      (if u.path.text.toList.getLast? = some '/' then "" else "/") ++ r.path := by
    have last : (UrlPath.segments [""]).text = "/" := by decide
    rw [path, ← Url.text_slashed whole, slashed, Url.text_segments_append,
      Url.text_segments_append, text_names, last, String.append_assoc]
  refine ⟨_, by rw [request, joined]; rfl, rfl, ⟨a, hosted, ?_⟩, whole, rfl, rfl⟩
  change u.authority.map _ = _
  rw [hosted]
  rfl

/-- The call sends a request for a path below the address, and comes to what is made of the answer
to this request: where there is none, it fails and tells for what it has asked. -/
def Asks {α : Type} (c : Client) (u : Url) (path : String) (fields : List (String × String))
    (call : Network → Reaction α) : Prop :=
  ∃ (request : Request) (use : Except Failure Response → Except Failure α),
    request.Below u path fields ∧
    (∀ f, use (.error f) = .error (f.within s!"requesting /{path}")) ∧
    ∀ network m, call network m = (network.fetch c.timeout request m).map use

/-- Each call asks below the address, for its own resource and with nothing but its own fields. -/
structure AsksBelow (c : Client) (u : Url) : Prop where
  query : ∀ text time,
    c.Asks u "api/v1/query" [("query", text), ("time", time.text)] (c.query · text time)
  metadata : ∀ s, c.Asks u "api/v1/targets/metadata" s.fields (c.metadata · s)
  rules : c.Asks u "api/v1/rules" [] c.rules

theorem asks_get {α : Type} (read : Url.ofText address = .ok u) (web : u.isWeb = true)
    (base : c.base = u.withSlash) (r : Resource) (fields : List (String × String))
    (data? : Json → Option α) : c.Asks u r.path fields (c.get · r fields data?) := by
  obtain ⟨request, made, below⟩ := exists_request read web base r fields
  refine ⟨request, fun answer => inContext s!"requesting /{r.path}" answer >>=
    Envelope.ofResponse r data?, below, fun f => rfl, fun network m => ?_⟩
  simp only [get, made]

/-- What is made of the result of a call is made of the answer to its request. -/
theorem Asks.bind {α β : Type} {path : String} {fields : List (String × String)}
    {call : Network → Reaction α} (asks : c.Asks u path fields call) (f : α → Except Failure β) :
    c.Asks u path fields fun network m => (call network m).map (· >>= f) := by
  obtain ⟨request, use, below, fails, comes⟩ := asks
  refine ⟨request, fun answer => use answer >>= f, below, fun f => ?_, fun network m => ?_⟩
  · exact congrArg (· >>= _) (fails f)
  · dsimp only
    rw [comes]
    cases network.fetch c.timeout request m <;> rfl

theorem asksBelow_of_base (read : Url.ofText address = .ok u) (web : u.isWeb = true)
    (base : c.base = u.withSlash) : c.AsksBelow u where
  query _ _ := (asks_get read web base .query _ _).bind _
  metadata _ := asks_get read web base .targetsMetadata _ _
  rules := asks_get read web base .rules _ _

/-- **A client asks below its address**: each call goes to the scheme, the host and the port of the
address and, whatever the path is, to the whole of it with one slash and the path of its own
resource. The same address with a slash at the end of its path makes the same client. Only a token
can be in the way of a client, and any path that does not end in a slash can be given one. -/
theorem requests_below_address (read : Url.ofText address = .ok u) (web : u.isWeb = true)
    (token : Option String) (timeout : Nat) :
    (∀ c, ofAddress address token timeout = .ok c → c.AsksBelow u) ∧
    (∀ address', Url.Slashed address address' →
      ofAddress address' token timeout = ofAddress address token timeout) ∧
    ((∀ t, token = some t → isHeaderValue s!"Bearer {t}" = true) →
      ∃ c, ofAddress address token timeout = .ok c) ∧
    (u.path.text.toList.getLast? ≠ some '/' → ∀ address', Url.meaningful address' =
      Url.upToPath address ++ '/' :: Url.behindPath address → Url.Slashed address address') := by
  refine ⟨fun c made => asksBelow_of_base read web (base_of_ofAddress read made),
    fun address' slashed => ?_, fun presentable => ?_, fun bare address' put => ⟨put, ?_⟩⟩
  · obtain ⟨names, names', path, read', same⟩ := Url.exists_of_slashed read web slashed
    rw [ofAddress_of_ofText read, ofAddress_of_ofText read', Url.withSlash_segments path,
      Url.withSlash_segments rfl, same]
  · rw [ofAddress_of_ofText read]
    cases token with
    | none => exact ⟨_, rfl⟩
    | some token =>
        rw [present, bearer, if_pos (presentable token rfl)]
        exact ⟨_, rfl⟩
  · exact Url.bare_of_text read web bare

/-- An address with a prefix, a query and a fragment, and the same one with a slash. -/
theorem requests_below_prefix : ∃ (c : Client) (request : Request)
      (use : Except Failure Response → Except Failure (List Rule)),
    ofAddress "http://h:9090/a%20b?x=1#y" none 0 = .ok c ∧
    request.url.path.text = "/a%20b/api/v1/rules" ∧ request.url.query = none ∧
    (∀ network m, c.rules network m = (network.fetch c.timeout request m).map use) ∧
    ofAddress "http://h:9090/a%20b/?x=1#y" none 0 =
      ofAddress "http://h:9090/a%20b?x=1#y" none 0 := by
  have read : Url.ofText "http://h:9090/a%20b?x=1#y" = .ok
      ⟨"http", some ⟨"", "", .name "h", some 9090⟩, .segments ["a%20b"], some "x=1", some "y"⟩ := by
    decide +kernel
  have ends : (Url.upToPath "http://h:9090/a%20b?x=1#y").getLast? = some 'b' := by decide +kernel
  have slashed : Url.Slashed "http://h:9090/a%20b?x=1#y" "http://h:9090/a%20b/?x=1#y" := by
    refine ⟨by decide +kernel, fun c last => ?_⟩
    cases ends.symm.trans last
    rfl
  obtain ⟨asks, same, made, -⟩ := requests_below_address read (by decide) none 0
  obtain ⟨c, made⟩ := made nofun
  obtain ⟨request, use, below, -, comes⟩ := (asks c made).rules
  refine ⟨c, request, use, made, below.path.trans (by decide +kernel), below.query, comes, ?_⟩
  exact same _ slashed

end Client

end ProfileAudit
