import ProfileAudit.Proofs.Command.Check
import ProfileAudit.Proofs.Command.Separate

/-!
# Runs side by side

A run of the command with several operations, and runs that repeat it with one of them each. What a
run that is not disturbed accomplishes is what its operations deliver at certain times
(`CheckRun.Undisturbed.exists_time`), and a run that repeats it at the time of one operation
accomplishes what that one delivers (`CheckRun.Undisturbed.accomplishes_alone`).
-/

namespace ProfileAudit

open FileTree CheckOperation

/-! ## Runs of the command -/

/-- What a run of the command is given, but for the arguments. -/
structure CheckRun where
  setting : Setting
  files : FileTree
  clock : Clock := {}

/-- The arguments that ask for nothing but one of the operations. -/
def CheckArgs.alone (a : CheckArgs) (o : CheckOperation) : CheckArgs :=
  { a with
    validate := a.validate && o == .validation
    status := a.status && o == .status
    sources := if o = .extraction then a.sources else {} }

/-- Why the cluster is not reached by a run, if it is looked for and is not. -/
def CheckRun.unconnected? (r : CheckRun) (a : CheckArgs) (config : Config) : Option Failure :=
  a.unconnected? r.setting r.files config.profileLabel

namespace CheckRun

variable (r : CheckRun) (a : CheckArgs)

/-- How the run ends. -/
def outcome : Except Failure Unit × Journal :=
  checkProfiles r.setting a { clock := r.clock, files := r.files }

/-- The run is neither cancelled nor past its deadline when it ends. -/
def InTime (config : Config) : Prop :=
  (r.setting.surroundings config r.clock.now).context.isOver (r.outcome a).2.clock = false

/-- The other run is of the same command with the same files, be it at another time, and whenever
it looks the local time is the given one. -/
structure Repeats (other : CheckRun) (time : Timestamp) : Prop where
  network : r.setting.network = other.setting.network
  inferred : r.setting.inferred = other.setting.inferred
  tempDir : r.setting.tempDir = other.setting.tempDir
  files : r.files = other.files
  localTime : ∀ n, r.setting.localTime n = time

/-- The run comes to what other runs come to that carry out one of the operations alone: it prints
what they print, one after the other and behind a complaint; a place that none of them changes stays
as it was, and one that some of them changes is as that run leaves it. -/
structure Comprises (complaint : String) (ops : List CheckOperation)
    (solo : CheckOperation → CheckRun) : Prop where
  succeeds : (r.outcome a).1 = .ok ()
  output : (r.outcome a).2.output =
    String.join (ops.map fun o => ((solo o).outcome (a.alone o)).2.output)
  errors : (r.outcome a).2.errors =
    complaint ++ String.join (ops.map fun o => ((solo o).outcome (a.alone o)).2.errors)
  kept : ∀ place, (∀ o ∈ ops,
      ((solo o).outcome (a.alone o)).2.files.node? place = r.files.node? place) →
    (r.outcome a).2.files.node? place = r.files.node? place
  changed : ∀ o ∈ ops, ∀ place,
    ((solo o).outcome (a.alone o)).2.files.node? place ≠ r.files.node? place →
    (r.outcome a).2.files.node? place = ((solo o).outcome (a.alone o)).2.files.node? place

end CheckRun

namespace CheckArgs

variable {a : CheckArgs} {o : CheckOperation}

theorem requested_alone (asked : o ∈ a.requested) : (a.alone o).requested = [o] := by
  have some : o.isRequested a = true := (List.mem_filter.mp asked).2
  cases o <;> simp_all [requested, all, alone, isRequested, ExtractSources.isEmpty]

theorem anyOperation_of_requested (asked : o ∈ a.requested) : a.anyOperation = true := by
  have some : o.isRequested a = true := (List.mem_filter.mp asked).2
  cases o <;> simp_all [anyOperation, isRequested, CheckArgs.needsCluster]

theorem anyOperation_alone (asked : o ∈ a.requested) : (a.alone o).anyOperation = true := by
  have only : o ∈ (a.alone o).requested := by
    rw [requested_alone asked]
    exact List.mem_singleton_self o
  exact anyOperation_of_requested only

theorem needsCluster_alone (asked : o ∈ a.requested) :
    (a.alone o).needsCluster = o.needsCluster := by
  have some : o.isRequested a = true := (List.mem_filter.mp asked).2
  cases o <;> simp_all [alone, isRequested, CheckArgs.needsCluster, CheckOperation.needsCluster]

theorem part_alone (o : CheckOperation) (a : CheckArgs) (backend : Backend)
    (settings : ProfileSettings) (source : MonitorSource) :
    o.part (a.alone o) backend settings source = o.part a backend settings source := by
  cases o <;> rfl

end CheckArgs

/-! ## What a run accomplishes -/

/-- The run has something to do, and reaches a backend that answers in time. -/
structure CheckRun.Undisturbed (r : CheckRun) (a : CheckArgs) (config : Config) (client : Client) :
    Prop where
  requested : a.anyOperation = true
  configured : Config.load r.files "." a.config = .ok config
  addressed : Client.ofAddress a.address a.bearerToken config.requestTimeout = .ok client
  serves : r.setting.network.Serves client
  inTime : r.InTime a config

/-- The run does not panic. -/
def CheckRun.Returns (r : CheckRun) (a : CheckArgs) : Prop := panics (r.outcome a).1 = false

/-- The run ends with some files and tells some outcomes. -/
structure CheckRun.Accomplishes (r : CheckRun) (a : CheckArgs) (complaint : String)
    (ends : FileTree × List Outcome) : Prop where
  succeeds : (r.outcome a).1 = .ok ()
  output : (r.outcome a).2.output = String.join (ends.2.map (·.output))
  errors : (r.outcome a).2.errors = complaint ++ String.join (ends.2.map (·.errors))
  files : (r.outcome a).2.files = ends.1
  returned : ∀ outcome ∈ ends.2, panics outcome.2 = false

section

variable {r : CheckRun} {a : CheckArgs} {config : Config} {client : Client} {dir : String}
  {made : (o : CheckOperation) → FileTree → Except Failure (Product o.kinds)}
  {stamp : CheckOperation → Timestamp} {ops : List CheckOperation}

/-- A run that is not disturbed gets started. -/
theorem CheckRun.Undisturbed.cases (undisturbed : r.Undisturbed a config client) :
    (∃ started source outcomes k,
      a.Runs r.setting { clock := r.clock, files := r.files } config client started source outcomes
        k ∧ r.outcome a = (.ok (), k)) ∨
    ∃ started source done o outcomes f k,
      a.BreaksOff r.setting { clock := r.clock, files := r.files } config client started source done
        o outcomes f k ∧ r.outcome a = (.error f, k) := by
  rcases checkProfiles_cases r.setting a { clock := r.clock, files := r.files } with
    ⟨f, k, ends, fails⟩ | ⟨config', client', started, source, outcomes, k, runs, ends⟩ |
    ⟨config', client', started, source, done, o, outcomes, f, k, broken, ends⟩
  · exfalso
    cases fails with
    | idle none => cases none.symm.trans undisturbed.requested
    | unconfigured _ failed => cases failed.symm.trans undisturbed.configured
    | unaddressed _ configured failed =>
        cases configured.symm.trans undisturbed.configured
        cases failed.symm.trans undisturbed.addressed
    | unreached _ configured addressed failed =>
        cases configured.symm.trans undisturbed.configured
        cases addressed.symm.trans undisturbed.addressed
        obtain ⟨result, clock, calls, probed, -, told⟩ :=
          Foretold.call "probing the backend" .probe undisturbed.serves.reached _
        cases failed.symm.trans probed
        have running := undisturbed.inTime
        unfold InTime outcome at running
        rw [ends] at running
        cases told running
  · cases runs.starts.configured.symm.trans undisturbed.configured
    cases runs.starts.addressed.symm.trans undisturbed.addressed
    exact .inl ⟨started, source, outcomes, k, runs, ends⟩
  · cases broken.starts.configured.symm.trans undisturbed.configured
    cases broken.starts.addressed.symm.trans undisturbed.addressed
    exact .inr ⟨started, source, done, o, outcomes, f, k, broken, ends⟩

/-- Only extraction does without the cluster, and it makes no difference to it what is in there. -/
theorem CheckOperation.part_congr {o : CheckOperation} {source source' : MonitorSource}
    (same : o.needsCluster = true → source = source') (backend : Backend)
    (settings : ProfileSettings) :
    o.part a backend settings source = o.part a backend settings source' := by
  cases o with
  | extraction => rfl
  | _ => rw [same rfl]

/-- What is carried out on the cluster is carried out if the cluster is reached. -/
theorem CheckArgs.connected_of_ahead {w : Setting} {files : FileTree} {o : CheckOperation}
    (carried : o ∈ a.ahead w files config) (needs : o.needsCluster = true) :
    a.needsCluster = true ∧ ∃ cluster,
      a.connection w files config.profileLabel = .ok cluster := by
  obtain ⟨asked, reached⟩ := List.mem_filter.mp carried
  have some : o.isRequested a = true := (List.mem_filter.mp asked).2
  have looks : a.needsCluster = true := by
    cases o <;> simp_all [CheckArgs.needsCluster, isRequested, CheckOperation.needsCluster]
  refine ⟨looks, ?_⟩
  rw [needs, Bool.not_true, Bool.or_false, CheckArgs.unconnected?, if_pos looks] at reached
  cases connected : a.connection w files config.profileLabel with
  | ok cluster => exact ⟨cluster, rfl⟩
  | error f =>
      rw [connected] at reached
      cases reached

/-- Where the operations of a run work they are given the replies of the network. -/
theorem CheckArgs.SetsOut.delivers {w : Setting} {j started : Journal} {used : MonitorSource}
    (sets : a.SetsOut w j config client started used) {replies : Replies} {cluster : Cluster}
    (backend : ∀ epoch, (client.backend w.network epoch).Gives replies)
    (source : (cluster.source w.network).Gives replies)
    (permits : (w.surroundings config j.clock.now).context.canPermit = replies.permits)
    (leads : a.Leads w j.files config.profileLabel cluster) {o : CheckOperation}
    (carried : o ∈ a.ahead w j.files config)
    (delivers : ∀ v : Venue, v.Gives replies → Delivers v.surroundings
      (o.part a v.backend (a.settings w config) v.source) dir (made o)) :
    Delivers (w.surroundings config j.clock.now) (a.partOf w config client used o) dir
      (made o) := by
  have same : o.needsCluster = true → used = cluster.source w.network := by
    intro needs
    obtain ⟨looks, c, connected⟩ := connected_of_ahead carried needs
    rw [← leads c connected]
    exact sets.found c looks connected
  rw [partOf, part_congr same]
  refine delivers ⟨_, _, _⟩ ⟨backend _, source, ?_, permits⟩
  exact RunContext.concurrency_start_ne_zero _ _ _

/-- A run that is not disturbed accomplishes what its operations deliver at certain times. -/
theorem CheckRun.Undisturbed.exists_time (undisturbed : r.Undisturbed a config client)
    (returns : r.Returns a) {replies : Replies} {cluster : Cluster}
    (backend : ∀ epoch, (client.backend r.setting.network epoch).Gives replies)
    (source : (cluster.source r.setting.network).Gives replies)
    (permits : (RunContext.start 0 config.runTimeout config.cardinalityConcurrency).canPermit =
      replies.permits)
    (leads : a.Leads r.setting r.files config.profileLabel cluster)
    (delivers : ∀ o ∈ a.requested, ∀ v : Venue, v.Gives replies → Delivers v.surroundings
      (o.part a v.backend (a.settings r.setting config) v.source) dir (made o)) :
    ∃ time : CheckOperation → Nat,
      r.Accomplishes a (connectionErrors (r.unconnected? a config))
        (deliverAll dir made (fun o => r.setting.localTime (time o))
          (a.ahead r.setting r.files config) r.files) := by
  rcases undisturbed.cases with ⟨started, used, outcomes, k, runs, ends⟩ |
    ⟨started, used, done, o, outcomes, f, k, broken, ends⟩
  swap
  · unfold Returns at returns
    rw [ends] at returns
    cases returns.symm.trans broken.breaks.panics
  have accounts := runs.accounts
  obtain ⟨clock, calls, begins⟩ := runs.starts.beginning
  have running : (r.setting.surroundings config r.clock.now).context.isOver k.clock = false := by
    have running := undisturbed.inTime
    unfold InTime at running
    rw [ends] at running
    exact running
  have once : (a.ahead r.setting r.files config).Nodup :=
    List.Nodup.sublist (List.filter_sublist.trans List.filter_sublist) (by decide : all.Nodup)
  obtain ⟨time, delivered⟩ := runs.run.exists_time (fun o => o.mute_part) once
    (fun o carried => runs.toSetsOut.delivers backend source permits leads carried
      (delivers o (List.mem_filter.mp carried).1)) running
  rw [begins] at delivered
  have delivered : deliverAll dir made (fun o => r.setting.localTime (time o))
      (a.ahead r.setting r.files config) r.files = (k.files, outcomes) := delivered
  refine ⟨time, ?_⟩
  rw [delivered]
  refine ⟨?_, ?_, ?_, ?_, runs.run.returned⟩ <;> rw [ends]
  · rw [accounts.output, String.empty_append]
  · rw [accounts.errors, String.empty_append]
    rfl

/-- A run of one operation returns if that one delivers something. -/
theorem CheckRun.Undisturbed.returns_of_delivered (undisturbed : r.Undisturbed a config client)
    {replies : Replies} {cluster : Cluster}
    (backend : ∀ epoch, (client.backend r.setting.network epoch).Gives replies)
    (source : (cluster.source r.setting.network).Gives replies)
    (permits : (RunContext.start 0 config.runTimeout config.cardinalityConcurrency).canPermit =
      replies.permits)
    (leads : a.Leads r.setting r.files config.profileLabel cluster) {o : CheckOperation}
    (only : a.ahead r.setting r.files config = [o])
    (delivers : ∀ v : Venue, v.Gives replies → Delivers v.surroundings
      (o.part a v.backend (a.settings r.setting config) v.source) dir (made o))
    (stamped : ∀ n, r.setting.localTime n = stamp o)
    (told : panics (delivered dir made stamp o r.files).2 = false) : r.Returns a := by
  rcases undisturbed.cases with ⟨started, used, outcomes, k, runs, ends⟩ |
    ⟨started, used, done, o', outcomes, f, k, broken, ends⟩
  · unfold Returns
    rw [ends]
    rfl
  exfalso
  have running := undisturbed.inTime
  unfold InTime at running
  rw [ends] at running
  have breaks := broken.breaks
  rw [only] at breaks
  have panicked := breaks.of_singleton
  have own := broken.toSetsOut.delivers backend source permits leads
    (only ▸ List.mem_singleton_self o) delivers
  obtain ⟨clock, calls, begins⟩ := broken.starts.beginning
  rw [begins] at panicked
  obtain ⟨n, clock', calls', ends'⟩ := own _ (by rw [panicked]; exact running)
  have same := congrArg Prod.fst (panicked.symm.trans ends')
  have localTime : (r.setting.surroundings config r.clock.now).localTime n = stamp o := stamped n
  rw [localTime] at same
  have failed : .error f = (delivered dir made stamp o r.files).2 := same
  rw [← failed] at told
  cases told.symm.trans broken.breaks.panics

/-! ## Runs side by side -/

/-- A run that repeats another one with one of its operations alone. -/
theorem CheckRun.Undisturbed.alone (undisturbed : r.Undisturbed a config client)
    {solo : CheckRun} {o : CheckOperation} {time : Timestamp} (asked : o ∈ a.requested)
    (repeats : solo.Repeats r time) (inTime : solo.InTime (a.alone o) config) :
    solo.Undisturbed (a.alone o) config client where
  requested := CheckArgs.anyOperation_alone asked
  configured := by
    rw [repeats.files]
    exact undisturbed.configured
  addressed := undisturbed.addressed
  serves := by
    rw [repeats.network]
    exact undisturbed.serves
  inTime := inTime

theorem CheckRun.Repeats.connection {solo : CheckRun} {time : Timestamp}
    (repeats : solo.Repeats r time) (o : CheckOperation) (label : String) :
    (a.alone o).connection solo.setting solo.files label =
      a.connection r.setting r.files label := by
  unfold CheckArgs.connection
  rw [repeats.inferred, repeats.files]
  rfl

theorem CheckRun.unconnected?_alone {solo : CheckRun} {o : CheckOperation} {time : Timestamp}
    (carried : o ∈ a.ahead r.setting r.files config) (repeats : solo.Repeats r time) :
    solo.unconnected? (a.alone o) config = none := by
  have looks := CheckArgs.needsCluster_alone (List.mem_filter.mp carried).1
  cases needs : o.needsCluster with
  | false => exact CheckArgs.unconnected?_of_alone (looks.trans needs) _ _ _
  | true =>
      obtain ⟨-, cluster, connected⟩ := CheckArgs.connected_of_ahead carried needs
      exact CheckArgs.unconnected?_of_connected ((repeats.connection o _).trans connected)

/-- What a run accomplishes that repeats another one with one of its operations alone, if that
delivers something. -/
theorem CheckRun.Undisturbed.accomplishes_alone (undisturbed : r.Undisturbed a config client)
    {replies : Replies} {cluster : Cluster}
    (backend : ∀ epoch, (client.backend r.setting.network epoch).Gives replies)
    (source : (cluster.source r.setting.network).Gives replies)
    (permits : (RunContext.start 0 config.runTimeout config.cardinalityConcurrency).canPermit =
      replies.permits)
    (leads : a.Leads r.setting r.files config.profileLabel cluster)
    {o : CheckOperation} (delivers : ∀ v : Venue, v.Gives replies → Delivers v.surroundings
      (o.part a v.backend (a.settings r.setting config) v.source) dir (made o))
    {solo : CheckRun} (carried : o ∈ a.ahead r.setting r.files config)
    (repeats : solo.Repeats r (stamp o)) (inTime : solo.InTime (a.alone o) config)
    (told : panics (delivered dir made stamp o r.files).2 = false) :
    solo.Accomplishes (a.alone o) "" (deliverAll dir made stamp [o] r.files) := by
  have asked : o ∈ a.requested := (List.mem_filter.mp carried).1
  have requested : (a.alone o).requested = [o] := CheckArgs.requested_alone asked
  have connected := unconnected?_alone carried repeats
  have only : (a.alone o).ahead solo.setting solo.files config = [o] := by
    rw [CheckArgs.ahead]
    rw [CheckRun.unconnected?] at connected
    rw [connected, Option.isNone_none, CheckArgs.carriedOut_true, requested]
  have settings : (a.alone o).settings solo.setting config = a.settings r.setting config := by
    unfold CheckArgs.settings
    rw [repeats.tempDir]
    rfl
  have backend' : ∀ epoch, (client.backend solo.setting.network epoch).Gives replies :=
    repeats.network ▸ backend
  have source' : (cluster.source solo.setting.network).Gives replies := repeats.network ▸ source
  have leads' : (a.alone o).Leads solo.setting solo.files config.profileLabel cluster :=
    fun c found => leads c ((repeats.connection o _).symm.trans found)
  have delivers' (v : Venue) (gives : v.Gives replies) : Delivers v.surroundings
      (o.part (a.alone o) v.backend ((a.alone o).settings solo.setting config) v.source) dir
        (made o) := by
    rw [settings, CheckArgs.part_alone]
    exact delivers v gives
  have alone := undisturbed.alone asked repeats inTime
  have returns : solo.Returns (a.alone o) := by
    rw [← repeats.files] at told
    exact alone.returns_of_delivered backend' source' permits leads' only delivers'
      repeats.localTime told
  obtain ⟨time, ends⟩ := alone.exists_time returns backend' source' permits leads'
    fun o' listed => by
      rw [requested] at listed
      obtain rfl := List.mem_singleton.mp listed
      exact delivers'
  rw [connected, connectionErrors_none, only, repeats.files] at ends
  have stamped : ∀ o' ∈ [o], solo.setting.localTime (time o') = stamp o' := by
    intro o' listed
    obtain rfl := List.mem_singleton.mp listed
    exact repeats.localTime _
  rw [deliverAll_congr stamped] at ends
  exact ends

/-- Runs that repeat a run with one operation each, at the local times that it takes for them. -/
def CheckRun.Repeated (r : CheckRun) (a : CheckArgs) (config : Config)
    (time : CheckOperation → Nat) (ops : List CheckOperation) (solo : CheckOperation → CheckRun) :
    Prop :=
  ∀ o ∈ ops, (solo o).Repeats r (r.setting.localTime (time o)) ∧ (solo o).InTime (a.alone o) config

/-- Outcomes that were told separately are told one after the other. -/
theorem CheckRun.Accomplishes.comprises {complaint : String} {solo : CheckOperation → CheckRun}
    (whole : r.Accomplishes a complaint (deliverAll dir made stamp ops r.files))
    (each : ∀ o ∈ ops,
      (solo o).Accomplishes (a.alone o) "" (deliverAll dir made stamp [o] r.files))
    (separate : Separate dir made stamp ops r.files) : r.Comprises a complaint ops solo where
  succeeds := whole.succeeds
  output := by
    rw [whole.output, separate.outcomes, List.map_map]
    refine congrArg _ (List.map_congr_left fun o listed => ?_)
    rw [(each o listed).output, deliverAll_singleton, List.map_singleton, String.join_cons,
      String.join_nil, String.append_empty]
    rfl
  errors := by
    rw [whole.errors, separate.outcomes, List.map_map]
    refine congrArg (complaint ++ String.join ·) (List.map_congr_left fun o listed => ?_)
    rw [(each o listed).errors, String.empty_append, deliverAll_singleton, List.map_singleton,
      String.join_cons, String.join_nil, String.append_empty]
    rfl
  kept place unchanged := by
    rw [whole.files]
    refine separate.kept place fun o listed => ?_
    have same := unchanged o listed
    rw [(each o listed).files] at same
    exact same
  changed o listed place changed := by
    rw [(each o listed).files] at changed ⊢
    rw [whole.files]
    exact separate.changed o listed place changed

end

end ProfileAudit
