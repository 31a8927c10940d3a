import Mathlib
import ProfileAudit.Client.Basic
import ProfileAudit.Proofs.Names
import ProfileAudit.Proofs.Result

/-!
# What an envelope tells

An answer that tells of an error does so in its own words, unless there is data in it that is not of
the form that was asked for: an envelope is decoded as a whole, and such data makes the whole of it
undecodable (`Envelope.ofJson?_object`). Data of the right form, `null` and no data at all leave the
error visible. Whether a request succeeds is settled by the envelope, and the status of the response
has no part in it (`Client.errors_visible_iff`).
-/

namespace ProfileAudit

/-! ## Records -/

namespace Json

/-- No member of one of these names is there twice. -/
def NoneTwice (names : List String) (members : List (String × Json)) : Prop :=
  ((members.filter fun m => names.contains m.1).map (·.1)).Nodup

instance (names : List String) (members : List (String × Json)) :
    Decidable (NoneTwice names members) :=
  inferInstanceAs (Decidable (List.Nodup _))

theorem noneTwice_iff {names : List String} {members : List (String × Json)} :
    NoneTwice names members ↔
      ((members.filter fun m => names.contains m.1).map (·.1)).eraseDups.length =
        (members.filter fun m => names.contains m.1).length := by
  rw [NoneTwice, ← length_eraseDups_eq_iff, List.length_map]

/-- A record is there if no known member is repeated, and only then. -/
theorem record?_of_once {names : List String} {members : List (String × Json)}
    (once : NoneTwice names members) : record? names (.object members) =
      some ⟨members.filter fun m => names.contains m.1, false⟩ :=
  if_pos (noneTwice_iff.mp once)

theorem record?_of_twice {names : List String} {members : List (String × Json)}
    (twice : ¬ NoneTwice names members) : record? names (.object members) = none :=
  if_neg (mt noneTwice_iff.mpr twice)

/-- The first member of a known name is the first one of that name. -/
theorem lookup_known {names : List String} {name : String} (known : name ∈ names)
    (members : List (String × Json)) :
    (members.filter fun m => names.contains m.1).lookup name = members.lookup name := by
  induction members with
  | nil => rfl
  | cons m members ih =>
      by_cases here : m.1 = name
      · have kept : names.contains m.1 = true := by simpa [here] using known
        rw [List.filter_cons, if_pos kept, List.lookup_cons, List.lookup_cons, ih]
      · have other : (name == m.1) = false := by simpa using fun is => here is.symm
        rw [List.lookup_cons, other, List.filter_cons]
        split
        · rw [List.lookup_cons, other]
          exact ih
        · exact ih

/-- A member that holds a text or `null`, or is absent. -/
inductive HoldsText : Option Json → Option String → Prop
  | absent : HoldsText none none
  | null : HoldsText (some .null) none
  | text (t : String) : HoldsText (some (.string t)) (some t)

theorem HoldsText.withDefault {r : Record} {name : String} {text : Option String}
    (holds : HoldsText (r.members.lookup name) text) :
    r.withDefault name none (orNull? string?) = some text := by
  unfold Record.withDefault
  generalize r.members.lookup name = found at holds
  cases holds <;> rfl

theorem mapM_string? (texts : List String) : (texts.map string).mapM string? = some texts := by
  induction texts with
  | nil => rfl
  | cons t texts ih => rw [List.map_cons, List.mapM_cons, ih]; rfl

end Json

/-! ## Envelopes -/

namespace Envelope

variable {α : Type}

/-- The members of an envelope. -/
def names : List String := ["status", "data", "errorType", "error", "warnings"]

/-- The members of an object are those of an envelope, whose data is not looked at, and `null` is no
data. -/
structure WrittenAs (e : Envelope Json) (members : List (String × Json)) : Prop where
  status : members.lookup "status" = some (.string e.status)
  data : e.data = (members.lookup "data").filter (!·.isNull)
  errorType : Json.HoldsText (members.lookup "errorType") e.errorType
  error : Json.HoldsText (members.lookup "error") e.error
  warnings : (members.lookup "warnings").getD (.array []) = .ofStrings e.warnings

/-- The data of an envelope can be read: no member is there twice, and if there is data, it has the
form that is asked for. -/
structure Readable (data? : Json → Option α) (members : List (String × Json))
    (e : Envelope Json) : Prop where
  once : Json.NoneTwice names members
  data : ∀ j ∈ e.data, (data? j).isSome = true

/-- What an envelope that does not tell of success says in its own words. -/
def failure (e : Envelope α) (r : Resource) : Failure :=
  let kind := e.errorType.getD "unknown error"
  let text := e.error.getD "no details"
  .ofText s!"/{r.path} failed with {kind}: {text}"

/-- A response with this status cannot be decoded. -/
def undecodable (r : Resource) (status : Nat) : Failure :=
  ⟨.json, [s!"decoding response from /{r.path} (HTTP {Status.text status})"]⟩

/-- The envelope with other data. -/
def withData {β : Type} (e : Envelope α) (data : Option β) : Envelope β :=
  ⟨e.status, data, e.errorType, e.error, e.warnings⟩

variable {data? : Json → Option α} {members : List (String × Json)} {e : Envelope Json}
  {r : Resource} {status : Nat} {body : String}

/-- What there is of the data, if it has the right form. -/
def readData? (data? : Json → Option α) : Option Json → Option (Option α)
  | none => some none
  | some j => (data? j).map some

theorem isSome_readData? {held : Option Json} :
    (readData? data? held).isSome = true ↔ ∀ j ∈ held, (data? j).isSome = true := by
  cases held <;> simp [readData?]

theorem mayLack_data (data? : Json → Option α) {r : Json.Record} (byName : r.byPlace = false) :
    (r.mayLack "data" (Json.orNull? data?)).map Option.join =
      readData? data? ((r.members.lookup "data").filter (!·.isNull)) := by
  unfold Json.Record.mayLack
  cases r.members.lookup "data" with
  | none => simp [byName, readData?]
  | some j =>
      cases j <;> simp [Json.orNull?, readData?, Json.isNull, Option.filter, Function.comp_def]

theorem withDefault_warnings {r : Json.Record} {warnings : List String}
    (held : (r.members.lookup "warnings").getD (.array []) = .ofStrings warnings) :
    r.withDefault "warnings" [] (Json.list? Json.string?) = some warnings := by
  unfold Json.Record.withDefault
  cases found : r.members.lookup "warnings" with
  | none =>
      rw [found] at held
      have none : warnings.map Json.string = [] := (Json.array.inj held).symm
      rw [List.map_eq_nil_iff.mp none]
  | some j =>
      rw [found] at held
      cases held
      exact Json.mapM_string? warnings

/-- **An envelope is decoded as a whole**, also if it tells of an error. -/
theorem ofJson?_object (written : e.WrittenAs members) (once : Json.NoneTwice names members) :
    ofJson? data? (.object members) = (readData? data? e.data).map e.withData := by
  obtain ⟨r, byName, found, read⟩ : ∃ r : Json.Record, r.byPlace = false ∧
      (∀ name ∈ names, r.members.lookup name = members.lookup name) ∧
      Json.record? names (.object members) = some r :=
    ⟨_, rfl, fun name known => Json.lookup_known known members, Json.record?_of_once once⟩
  have status : r.required "status" Json.string? = some e.status := by
    rw [Json.Record.required, found _ (by decide), written.status]
    rfl
  have data := mayLack_data data? byName
  rw [found _ (by decide), ← written.data] at data
  have errorType : r.withDefault "errorType" none (Json.orNull? Json.string?) =
      some e.errorType := by
    apply Json.HoldsText.withDefault
    rw [found _ (by decide)]
    exact written.errorType
  have error : r.withDefault "error" none (Json.orNull? Json.string?) = some e.error := by
    apply Json.HoldsText.withDefault
    rw [found _ (by decide)]
    exact written.error
  have warnings : r.withDefault "warnings" [] (Json.list? Json.string?) = some e.warnings := by
    apply withDefault_warnings
    rw [found _ (by decide)]
    exact written.warnings
  unfold ofJson?
  change (Json.record? names (.object members) >>= _) = _
  rw [read, ← data]
  simp only [bind, Option.bind_some, status, errorType, error, warnings, Option.map_map]
  cases r.mayLack "data" (Json.orNull? data?) <;> rfl

theorem ofJson?_of_twice (twice : ¬ Json.NoneTwice names members) :
    ofJson? data? (.object members) = none := by
  unfold ofJson?
  change (Json.record? names (.object members) >>= _) = _
  rw [Json.record?_of_twice twice]
  rfl

theorem exists_of_readable (written : e.WrittenAs members)
    (readable : e.Readable data? members) : ∃ data, readData? data? e.data = some data ∧
      ofJson? data? (.object members) = some (e.withData data) := by
  obtain ⟨data, read⟩ := Option.isSome_iff_exists.mp (isSome_readData?.mpr readable.data)
  refine ⟨data, read, ?_⟩
  rw [ofJson?_object written readable.once, read]
  rfl

theorem ofJson?_of_not_readable (written : e.WrittenAs members)
    (unreadable : ¬ e.Readable data? members) : ofJson? data? (.object members) = none := by
  by_cases once : Json.NoneTwice names members
  · have illTyped : ¬ (readData? data? e.data).isSome = true := fun read =>
      unreadable ⟨once, isSome_readData?.mp read⟩
    rw [ofJson?_object written once, Option.not_isSome_iff_eq_none.mp illTyped]
    rfl
  · exact ofJson?_of_twice once

theorem result_of_refused {e : Envelope α} (refused : e.status ≠ "success") :
    e.result r = .error (e.failure r) := if_neg refused

theorem result_eq_ok_iff {e : Envelope α} {a : α} (granted : e.status = "success") :
    e.result r = .ok a ↔ e.data = some a := by
  rw [result, if_pos granted]
  cases e.data <;> simp

/-! ## Answers -/

/-- What an answer with this envelope comes to. -/
structure Tells (e : Envelope Json) (r : Resource) (data? : Json → Option α)
    (members : List (String × Json)) (result : Except Failure α) : Prop where
  /-- What does not tell of success is none. -/
  refused : e.status ≠ "success" → ∃ failure, result = .error failure
  /-- The words of the server are those of the failure if the data can be read, and only then. -/
  visible : e.status ≠ "success" → (result = .error (e.failure r) ↔ e.Readable data? members)
  /-- What tells of success is one if there is data of the right form. -/
  granted : e.status = "success" → ∀ a, result = .ok a ↔
    Json.NoneTwice names members ∧ ∃ j ∈ e.data, data? j = some a

theorem tells_of_readable (written : e.WrittenAs members) (holds : Json.ofText? body =
    some (.object members)) (readable : e.Readable data? members) :
    e.Tells r data? members (ofResponse r data? ⟨status, body⟩) := by
  obtain ⟨data, read, decoded⟩ := exists_of_readable written readable
  have outcome : ofResponse r data? ⟨status, body⟩ = (e.withData data).result r := by
    rw [ofResponse, holds, Option.bind_eq_bind, Option.bind_some, decoded]
    rfl
  rw [outcome]
  refine ⟨fun failed => ⟨_, result_of_refused failed⟩, fun failed => ?_, fun ok a => ?_⟩
  · exact iff_of_true (result_of_refused failed) readable
  · have granted : (e.withData data).status = "success" := ok
    rw [result_eq_ok_iff granted, and_iff_right readable.once]
    change data = some a ↔ _
    rw [← Option.some_inj, ← read]
    cases e.data <;> simp [readData?]

theorem tells_of_not_readable (unreadable : ¬ e.Readable data? members) :
    e.Tells r data? members (.error (undecodable r status)) := by
  refine ⟨fun _ => ⟨_, rfl⟩, fun _ => iff_of_false nofun unreadable, fun _ a => ?_⟩
  refine iff_of_false nofun ?_
  rintro ⟨once, j, held, read⟩
  refine unreadable ⟨once, fun j' held' => ?_⟩
  cases Option.mem_unique held held'
  rw [read]
  rfl

theorem ofResponse_of_not_readable (written : e.WrittenAs members) (holds : Json.ofText? body =
    some (.object members)) (unreadable : ¬ e.Readable data? members) :
    ofResponse r data? ⟨status, body⟩ = .error (undecodable r status) := by
  rw [ofResponse, holds, Option.bind_eq_bind, Option.bind_some,
    ofJson?_of_not_readable written unreadable]
  rfl

theorem tells_ofResponse (written : e.WrittenAs members) (holds : Json.ofText? body =
    some (.object members)) : e.Tells r data? members (ofResponse r data? ⟨status, body⟩) := by
  by_cases readable : e.Readable data? members
  · exact tells_of_readable written holds readable
  · rw [ofResponse_of_not_readable written holds readable]
    exact tells_of_not_readable readable

/-- The status of a response is told if it cannot be decoded, and has no part in anything else. -/
theorem toOption_ofResponse (r : Resource) (data? : Json → Option α) (body : String)
    (status status' : Nat) : (ofResponse r data? ⟨status, body⟩).toOption =
      (ofResponse r data? ⟨status', body⟩).toOption := by
  unfold ofResponse
  cases Json.ofText? body >>= ofJson? data? <;> rfl

end Envelope

/-! ## Resources -/

/-- What is asked for with a resource. -/
def Resource.Data : Resource → Type
  | query => QueryData
  | targetsMetadata => List TargetMetadata
  | rules => List Rule

/-- The form of what is asked for. -/
def Resource.data? : (r : Resource) → Json → Option r.Data
  | query => QueryData.ofJson?
  | targetsMetadata => Json.list? TargetMetadata.ofJson?
  | rules => Rule.ofGroups?

namespace Client

/-- All calls ask for a resource in its form. The samples of a query are read after that. -/
theorem calls_eq (c : Client) (network : Network) (m : Moment) :
    (∀ q time, c.query network q time m =
      (c.get network .query (queryFields q time) (Resource.data? .query) m).map
        (· >>= QueryData.samples q)) ∧
    (∀ s, c.metadata network s m =
      c.get network .targetsMetadata s.fields (Resource.data? .targetsMetadata) m) ∧
    c.rules network m = c.get network .rules [] (Resource.data? .rules) m :=
  ⟨fun _ _ => rfl, fun _ => rfl, rfl⟩

variable {c : Client} {network : Network} {m : Moment} {r : Resource}
  {fields : List (String × String)} {request : Request} {delay status : Nat} {body : String}
  {members : List (String × Json)} {e : Envelope Json}

theorem get_of_answered {α : Type} {data? : Json → Option α} {response : Response}
    (asks : c.request r fields = .ok request)
    (answers : network.fetch c.timeout request m = .after delay (.ok response)) :
    c.get network r fields data? m = .after delay (Envelope.ofResponse r data? response) := by
  simp only [get, asks, answers]
  rfl

/-- **The server's error is visible exactly if the data beside it can be read.** For every resource
and every status of the response: an answer whose envelope does not tell of success fails, and it
fails in the words of the server if there is no data, if it is `null` or if it has the form that was
asked for, and if no member is there twice. An answer that tells of success succeeds if there is
data of that form, and it yields that data. The status of the response makes no difference. -/
theorem errors_visible_iff (asks : c.request r fields = .ok request)
    (answers : network.fetch c.timeout request m = .after delay (.ok ⟨status, body⟩))
    (holds : Json.ofText? body = some (.object members)) (written : e.WrittenAs members) :
    ∃ result, c.get network r fields r.data? m = .after delay result ∧
      e.Tells r r.data? members result ∧
      ∀ status', (Envelope.ofResponse r r.data? ⟨status', body⟩).toOption = result.toOption := by
  refine ⟨_, get_of_answered asks answers, Envelope.tells_ofResponse written holds, ?_⟩
  exact fun status' => Envelope.toOption_ofResponse r r.data? body status' status

/-- A backend that always gives the same answer. -/
def alwaysAnswering (response : Response) : Network := fun _ _ => .ready (.ok response)

/-- The client of a backend nearby. -/
def nearby : Client where
  base := ⟨"http", some { host := .ipv4 0x7f000001 }, .segments [""], none, none⟩
  timeout := 60

/-- An error beside `null` and a warning. -/
theorem errors_visible_beside_null :
    let body :=
      "\x7b\"data\":null,\"error\":\"too slow\",\"warnings\":[\"w\"],\"status\":\"error\"\x7d"
    let members : List (String × Json) := [("data", .null), ("error", .string "too slow"),
      ("warnings", .array [.string "w"]), ("status", .string "error")]
    let e : Envelope Json := { status := "error", error := "too slow", warnings := ["w"] }
    Json.ofText? body = some (.object members) ∧ e.WrittenAs members ∧
      nearby.get (alwaysAnswering ⟨503, body⟩) .rules [] (Resource.data? .rules) ⟨0, []⟩ =
        .after 0 (.error (.ofText "/api/v1/rules failed with unknown error: too slow")) := by
  intro body members e
  have holds : Json.ofText? body = some (.object members) := by cbv
  have written : e.WrittenAs members :=
    ⟨rfl, rfl, .absent, .text "too slow", rfl⟩
  have readable : e.Readable (Resource.data? .rules) members := ⟨by decide, nofun⟩
  have asks : nearby.request .rules [] = .ok (nearby.requestFor { nearby.base with
      path := .segments ["api", "v1", "rules"] }) := rfl
  have answers : (alwaysAnswering ⟨503, body⟩).fetch nearby.timeout (nearby.requestFor
      { nearby.base with path := .segments ["api", "v1", "rules"] }) ⟨0, []⟩ =
      .after 0 (.ok ⟨503, body⟩) := rfl
  obtain ⟨result, ends, tells, -⟩ := errors_visible_iff asks answers holds written
  refine ⟨holds, written, ?_⟩
  rw [ends, (tells.visible (by decide)).mpr readable]
  congr

set_option maxRecDepth 2000 in
/-- A query that timed out, with an empty object beside the error: the answer counts as undecodable,
and what the server says of it is lost. -/
theorem hides_error_beside_data :
    let body := "\x7b\"status\":\"error\",\"errorType\":\"timeout\"," ++
      "\"error\":\"too slow\",\"data\":\x7b\x7d\x7d"
    let members : List (String × Json) := [("status", .string "error"),
      ("errorType", .string "timeout"), ("error", .string "too slow"), ("data", .object [])]
    let e : Envelope Json :=
      { status := "error", data := some (.object []), errorType := "timeout", error := "too slow" }
    Json.ofText? body = some (.object members) ∧ e.WrittenAs members ∧
      e.failure .query = .ofText "/api/v1/query failed with timeout: too slow" ∧
      nearby.query (alwaysAnswering ⟨503, body⟩) "up" ⟨0, 0⟩ ⟨0, []⟩ = .after 0 (.error ⟨.json,
        ["decoding response from /api/v1/query (HTTP 503 Service Unavailable)"]⟩) := by
  intro body members e
  have holds : Json.ofText? body = some (.object members) := by cbv
  have written : e.WrittenAs members := ⟨rfl, rfl, .text "timeout", .text "too slow", rfl⟩
  have unreadable : ¬ e.Readable (Resource.data? .query) members := fun readable =>
    absurd (readable.data (.object []) rfl) (by decide)
  have decoded : Envelope.ofResponse .query (Resource.data? .query) ⟨503, body⟩ =
      .error (Envelope.undecodable .query 503) :=
    Envelope.ofResponse_of_not_readable written holds unreadable
  refine ⟨holds, written, rfl, ?_⟩
  rw [(nearby.calls_eq _ _).1, get_of_answered rfl rfl, decoded]
  rfl

end Client

end ProfileAudit
