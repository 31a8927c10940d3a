import ProfileAudit.Client.Basic
import ProfileAudit.Cluster.Source
import ProfileAudit.Proofs.Cardinality.Ranking
import ProfileAudit.Proofs.Profile.Reporting
import ProfileAudit.Proofs.Profile.Sources

/-!
# Runs that are answered alike

Two runs may be answered alike and yet differ: one is asked later, waits longer, has made other
calls before. As long as neither is over at its end, the parts of them that only ask and read come
to the same: what they come to is settled by the replies and the files (`Agree`). That is put
together along the parts of a part, as the parts themselves are.
-/

namespace ProfileAudit

variable {α β : Type}

/-! ## Replies -/

/-- No answer is ever given but this one; when it is given may depend on the moment. -/
def Steady (reaction : Reaction α) (answer : Except Failure α) : Prop :=
  ∀ m delay own, reaction m = .after delay own → own = answer

theorem Steady.map {reaction : Reaction α} {answer : Except Failure α}
    (steady : Steady reaction answer) (f : Except Failure α → Except Failure β) :
    Steady (fun m => (reaction m).map f) (f answer) := by
  intro m delay own is
  beta_reduce at is
  cases answered : reaction m with
  | after delay' own' =>
      rw [answered] at is
      cases is
      exact congrArg f (steady m _ _ answered)
  | never =>
      rw [answered] at is
      cases is

theorem steady_ready (answer : Except Failure α) : Steady (fun _ => .ready answer) answer := by
  intro m delay own is
  cases is
  rfl

/-- What is answered to all that can be asked, and whether as many series may be counted at once as
is wished. -/
structure Replies where
  metadata : MetadataSelector → Except Failure (List TargetMetadata)
  rules : Except Failure (List Rule)
  query : String → Except Failure (List Sample)
  list : MonitorKind → String → Except Failure (List Monitor)
  permits : Bool

/-- Where an operation is carried out. -/
structure Venue where
  backend : Backend
  source : MonitorSource
  surroundings : Surroundings

structure Backend.Gives (b : Backend) (replies : Replies) : Prop where
  metadata : ∀ selector, Steady (b.metadata selector) (replies.metadata selector)
  rules : Steady b.rules replies.rules
  query : b.Answers replies.query

def MonitorSource.Gives (source : MonitorSource) (replies : Replies) : Prop :=
  ∀ kind selector, Steady (source.list kind selector) (replies.list kind selector)

/-- The operation is given these replies there, and may count. -/
structure Venue.Gives (v : Venue) (replies : Replies) : Prop where
  backend : v.backend.Gives replies
  source : v.source.Gives replies
  bounded : v.surroundings.context.concurrency ≠ some 0
  permits : v.surroundings.context.canPermit = replies.permits

/-! ### From networks -/

/-- The backend behind the client is there, and what is asked settles the answer, if there is one,
and what of it comes within the time that the client waits. When it is asked makes no difference. -/
structure Network.Serves (network : Network) (client : Client) : Prop where
  reached : Steady (client.probe network) (.ok ())
  answers : ∀ request, ∃ answer, Steady (network request) answer
  inTime : ∀ request, ∃ answer, Steady (network.fetch client.timeout request) answer

/-- Nor does the instant make a difference that a query is to be evaluated at. -/
def Network.IsTimeless (network : Network) (client : Client) : Prop :=
  ∀ text, ∃ answer, ∀ time, Steady (client.query network text time) answer

theorem Network.Serves.get {network : Network} {client : Client} (serves : network.Serves client)
    (r : Resource) (fields : List (String × String)) (data? : Json → Option α) :
    ∃ answer, Steady (client.get network r fields data?) answer := by
  unfold Client.get
  cases client.request r fields with
  | error f => exact ⟨_, steady_ready _⟩
  | ok request =>
      obtain ⟨answer, steady⟩ := serves.inTime request
      exact ⟨_, steady.map _⟩

theorem Network.Serves.list {network : Network} {client : Client} (serves : network.Serves client)
    (cluster : Cluster) (kind : MonitorKind) (selector : String) :
    ∃ answer, Steady (cluster.list network kind selector) answer := by
  unfold Cluster.list
  cases cluster.request kind selector with
  | error f => exact ⟨_, steady_ready _⟩
  | ok request =>
      obtain ⟨answer, steady⟩ := serves.answers request
      exact ⟨_, steady.map _⟩

/-- Backend and cluster give the same replies whenever the clock was started. -/
theorem Network.Serves.exists_replies {network : Network} {client : Client}
    (serves : network.Serves client) (timeless : network.IsTimeless client) (cluster : Cluster)
    (permits : Bool) : ∃ replies : Replies,
      (∀ epoch, (client.backend network epoch).Gives replies) ∧
        (cluster.source network).Gives replies ∧ replies.permits = permits := by
  choose metadata told using fun selector : MetadataSelector =>
    serves.get .targetsMetadata selector.fields (Json.list? TargetMetadata.ofJson?)
  obtain ⟨rules, told'⟩ := serves.get .rules [] Rule.ofGroups?
  choose query asked using timeless
  choose list listed using serves.list cluster
  refine ⟨⟨metadata, rules, query, list, permits⟩, fun epoch => ⟨told, told', ?_⟩, listed, rfl⟩
  intro text time m delay result ends
  exact asked text (epoch.later time) m delay result ends

/-- A network that answers at once, and by the request alone. -/
def Network.ofRequests (answer : Request → Response) : Network :=
  fun request _ => .ready (.ok (answer request))

theorem Network.fetch_ofRequests (answer : Request → Response) (timeout : Nat)
    (request : Request) : (ofRequests answer).fetch timeout request = fun _ =>
      .ready (if request.url.isWeb then .ok (answer request) else .error ⟨.http, []⟩) := by
  funext m
  unfold fetch
  split
  · simp [ofRequests, Behaviour.ready, Behaviour.within]
  · rfl

/-- Whoever is on the web is served by such a network. -/
theorem Network.serves_ofRequests (answer : Request → Response) {client : Client}
    (web : client.base.isWeb = true) : (ofRequests answer).Serves client where
  reached := by
    have asks : client.probeRequest.url.isWeb = true := web
    unfold Client.probe
    simp only [fetch_ofRequests, if_pos asks]
    exact steady_ready _
  answers request := ⟨_, steady_ready _⟩
  inTime request := by
    rw [fetch_ofRequests]
    exact ⟨_, steady_ready _⟩

/-- The instant stands among the fields, so it makes no difference where only the path does. -/
theorem Network.isTimeless_ofRequests (answer : UrlPath → Response) (client : Client) :
    (ofRequests fun request => answer request.url.path).IsTimeless client := by
  intro text
  unfold Client.query Client.get Client.request
  cases client.base.join Resource.query.names with
  | error fault => exact ⟨_, fun _ => steady_ready _⟩
  | ok url =>
      have asks (time : Instant) : (ofRequests fun request => answer request.url.path).fetch
          client.timeout (client.requestFor (url.withFields (Client.queryFields text time))) =
            fun _ => .ready (if url.isWeb then .ok (answer url.path) else .error ⟨.http, []⟩) :=
        fetch_ofRequests _ client.timeout _
      simp only [Except.mapError, bind, Except.bind, pure, Except.pure, asks]
      exact ⟨_, fun _ => steady_ready _⟩

/-! ## What a part comes to -/

/-- The part asks and reads only, and unless the run is over at its end, the files settle what it
comes to. -/
def Foretold (s : Surroundings) (part : Audit α) (result : FileTree → Except Failure α) : Prop :=
  ∀ j, ∃ r clock calls, part s j = (r, { j with clock, calls }) ∧ j.clock.GoesTo clock ∧
    (s.context.isOver clock = false → r = result j.files)

namespace Foretold

variable {s : Surroundings} {part : Audit α} {result : FileTree → Except Failure α}

theorem pure (a : α) : Foretold s (Pure.pure a) fun _ => .ok a :=
  fun j => ⟨.ok a, j.clock, j.calls, rfl, .refl _, fun _ => rfl⟩

theorem reading (f : FileTree → Except Failure α) :
    Foretold s (.ofStep fun _ j => (f j.files, j)) f :=
  fun j => ⟨f j.files, j.clock, j.calls, rfl, .refl _, fun _ => rfl⟩

theorem bind {rest : α → Audit β} {results : α → FileTree → Except Failure β}
    (first : Foretold s part result) (second : ∀ a, Foretold s (rest a) (results a)) :
    Foretold s (part >>= rest) fun files => result files >>= fun a => results a files := by
  intro j
  obtain ⟨r, clock, calls, ends, goes, told⟩ := first j
  rw [Audit.bind_apply, ends]
  cases r with
  | error failure =>
      refine ⟨_, clock, calls, rfl, goes, fun running => ?_⟩
      beta_reduce
      rw [← told running]
      rfl
  | ok a =>
      obtain ⟨r', clock', calls', ends', goes', told'⟩ := second a { j with clock, calls }
      refine ⟨r', clock', calls', ends', goes.trans goes', fun running => ?_⟩
      beta_reduce
      rw [← told (RunContext.running_of_goesTo goes' running)]
      exact told' running

/-- A run that is not over has been answered. -/
theorem call (what : String) (c : Call) {reaction : Reaction α} {answer : Except Failure α}
    (steady : Steady reaction answer) :
    Foretold s (Audit.call what c reaction) fun _ => answer := by
  intro j
  have ready : j.clock.GoesTo (j.ready s).clock := j.clock.goesTo_pass _
  cases cancelled : (j.ready s).clock.isCancelled with
  | true =>
      refine ⟨_, _, _, Audit.call_of_cancelled cancelled, ready, fun running => ?_⟩
      cases running.symm.trans (RunContext.isOver_iff.mpr (.inl cancelled))
  | false =>
      exact ⟨_, _, _, Audit.call_of_running cancelled, ready.trans (s.context.goesTo_guard _ _ _),
        fun running => RunContext.guard_of_running (steady _) running⟩

theorem count {b : Backend} {answers : String → Except Failure (List Sample)}
    (faithful : b.Answers answers) (bounded : s.context.concurrency ≠ some 0) (metrics : NameSet) :
    Foretold s (evaluateCardinality b metrics) fun _ =>
      if s.context.canPermit then .ok (ranking answers metrics) else .error .panic := by
  intro j
  cases permitted : s.context.canPermit with
  | true =>
      obtain ⟨trace, f, completes, ends⟩ := evaluateCardinality_eq b metrics s j bounded permitted
      have goes := Fanout.goesTo_run b s.context
        (.start metrics s.context (j.clock.pass (s.lag j.moment)) j.calls) trace
      rw [completes.reached] at goes
      exact ⟨_, _, _, ends, (j.clock.goesTo_pass _).trans goes,
        fun running => congrArg _ (records_eq_ranking faithful completes running)⟩
  | false =>
      exact ⟨_, _, _, evaluateCardinality_of_excess b metrics permitted j, .refl _, fun _ => rfl⟩

end Foretold

/-! ## Parts that agree -/

/-- Wherever these replies are given, the part comes to the same, and of the files no more than the
view counts for it. -/
def Agree {γ : Type} (replies : Replies) (view : FileTree → γ) (part : Venue → Audit α) : Prop :=
  ∃ result : γ → Except Failure α, ∀ v : Venue, v.Gives replies →
    Foretold v.surroundings (part v) fun files => result (view files)

namespace Agree

variable {γ : Type} {replies : Replies} {view : FileTree → γ} {part : Venue → Audit α}

theorem pure (a : α) : Agree replies view fun _ => Pure.pure a :=
  ⟨fun _ => .ok a, fun _ _ => .pure a⟩

theorem reading (f : γ → Except Failure α) :
    Agree replies view fun _ => .ofStep fun _ j => (f (view j.files), j) :=
  ⟨f, fun _ _ => .reading fun files => f (view files)⟩

theorem bind {rest : Venue → α → Audit β} (first : Agree replies view part)
    (second : ∀ a, Agree replies view fun v => rest v a) :
    Agree replies view fun v => part v >>= rest v := by
  obtain ⟨result, told⟩ := first
  choose results told' using second
  exact ⟨fun seen => result seen >>= fun a => results a seen,
    fun v gives => (told v gives).bind fun a => told' a v gives⟩

theorem map {f : α → β} (agree : Agree replies view part) :
    Agree replies view fun v => f <$> part v := by
  simp only [← bind_pure_comp]
  exact agree.bind fun a => pure (f a)

theorem call (what : String) (c : Call) {reaction : Venue → Reaction α} {answer : Except Failure α}
    (steady : ∀ v : Venue, v.Gives replies → Steady (reaction v) answer) :
    Agree replies view fun v => Audit.call what c (reaction v) :=
  ⟨fun _ => answer, fun v gives => .call what c (steady v gives)⟩

theorem count (metrics : NameSet) :
    Agree replies view fun v => evaluateCardinality v.backend metrics :=
  ⟨fun _ => if replies.permits then .ok (ranking replies.query metrics) else .error .panic,
    fun _ gives => gives.permits ▸ .count gives.backend.query gives.bounded metrics⟩

theorem ofResult (r : Except Failure α) : Agree replies view fun _ => Audit.ofResult r :=
  ⟨fun _ => r, fun _ _ => .reading fun _ => r⟩

/-! ### Listing and asking -/

theorem listBySelectors (what : String) (kind : MonitorKind) (selectors : List String) :
    Agree replies view fun v => ProfileAudit.listBySelectors v.source what kind selectors := by
  induction selectors with
  | nil => exact .pure []
  | cons selector selectors ih =>
      exact .bind (.call _ _ fun v gives => gives.source kind selector) fun _ =>
        .bind ih fun _ => .pure _

theorem listKinds (p : CollectionProfile) (settings : ProfileSettings) (kinds : List MonitorKind) :
    Agree replies view fun v => p.listKinds v.source settings kinds := by
  induction kinds with
  | nil => exact .pure []
  | cons kind kinds ih =>
      exact .bind (listBySelectors _ kind _) fun _ => .bind ih fun _ => .pure _

theorem monitors (p : CollectionProfile) (settings : ProfileSettings) :
    Agree replies view fun v => p.monitors v.source settings := listKinds p settings MonitorKind.all

theorem loadedMetrics (what : String) (c : Call) :
    Agree replies view fun v => Audit.call what c v.backend.loadedMetrics :=
  .call what c fun _ gives => (gives.backend.metadata {}).map _

theorem validationReport (p : CollectionProfile) (settings : ProfileSettings) :
    Agree replies view fun v => p.validationReport v.backend v.source settings :=
  .bind (monitors p settings) fun _ => .bind (loadedMetrics _ _) fun _ =>
    .bind (.call _ _ fun _ gives => gives.backend.rules) fun _ => .pure _

theorem missingReport (settings : ProfileSettings) (only : Option CollectionProfile) :
    Agree replies view fun v => ProfileAudit.missingReport v.source settings only :=
  .bind (monitors .full settings) fun _ => .bind (monitors .minimal settings) fun _ => .pure _

theorem targetMetrics (selector : String) :
    Agree replies view fun v => ProfileAudit.targetMetrics v.backend selector :=
  .bind (.call _ _ fun _ gives => gives.backend.metadata _) fun _ => .pure _

theorem extractMetricSet (sources : ExtractSources) :
    Agree replies sources.reading fun v => ProfileAudit.extractMetricSet v.backend sources := by
  simp only [extractMetricSet_eq]
  refine .bind (.reading id) fun found => .bind ?_ fun targeted => .pure _
  cases sources.targetSelectors with
  | none => exact .pure _
  | some selector => exact targetMetrics selector

end Agree

end ProfileAudit
