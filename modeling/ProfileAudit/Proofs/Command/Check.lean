import ProfileAudit.Proofs.Command.Operations

/-!
# How the command ends

The command fails only if it does not get started: nothing is asked for, the configuration or the
address is no good, or the backend is not reached. Up to then it has done nothing but read the
configuration and send the probe (`CheckArgs.FailsToStart.untouched`). Once it has started, what
becomes of the cluster and of the operations is told, and is no failure of the command
(`CheckArgs.Runs.accounts`), unless an operation panics: then it breaks off there
(`CheckArgs.BreaksOff.accounts`).
-/

namespace ProfileAudit

/-! ## Starting -/

/-- What a run of the command is given, if it begins at some instant. -/
def Setting.surroundings (w : Setting) (config : Config) (now : Nat) : Surroundings :=
  ⟨.start now config.runTimeout config.cardinalityConcurrency, w.localTime, w.lag⟩

section

variable (w : Setting) (a : CheckArgs) (j : Journal)

/-- The command gets started: there is something to do, a configuration and an address, and the
backend is reached. -/
structure CheckArgs.Starts (config : Config) (client : Client) (k : Journal) : Prop where
  requested : a.anyOperation = true
  configured : Config.load j.files "." a.config = .ok config
  addressed : Client.ofAddress a.address a.bearerToken config.requestTimeout = .ok client
  reached : Audit.call "probing the backend" .probe (client.probe w.network)
    (w.surroundings config j.clock.now) j = (.ok (), k)

/-- The command does not get started, by the first thing that is missing. -/
inductive CheckArgs.FailsToStart : Failure → Journal → Prop
  /-- Nothing is asked for, and the process is to end. -/
  | idle : a.anyOperation = false → FailsToStart (.ofText "no operation requested")
    { j with errors := j.errors ++ nothingToDo ++ "\n", exit := some 1 }
  | unconfigured {f : Failure} : a.anyOperation = true →
    Config.load j.files "." a.config = .error f → FailsToStart f j
  /-- The address or the token is none. -/
  | unaddressed {config : Config} {f : Failure} : a.anyOperation = true →
    Config.load j.files "." a.config = .ok config →
    Client.ofAddress a.address a.bearerToken config.requestTimeout = .error f → FailsToStart f j
  | unreached {config : Config} {client : Client} {f : Failure} {k : Journal} :
    a.anyOperation = true → Config.load j.files "." a.config = .ok config →
    Client.ofAddress a.address a.bearerToken config.requestTimeout = .ok client →
    Audit.call "probing the backend" .probe (client.probe w.network)
      (w.surroundings config j.clock.now) j = (.error f, k) → FailsToStart f k

/-- What a run that does not get started leaves: it has sent a probe at most. -/
structure CheckArgs.Untouched (k : Journal) : Prop where
  output : k.output = j.output
  files : k.files = j.files
  calls : k.calls = j.calls ∨ k.calls = j.calls ++ [.probe]
  errors : k.errors = if a.anyOperation then j.errors else j.errors ++ nothingToDo ++ "\n"
  exit : k.exit = if a.anyOperation then j.exit else some 1

end

section

variable {w : Setting} {a : CheckArgs} {j k : Journal} {f : Failure}

/-- A call is noted if it begins, and that is all. -/
theorem Audit.exists_snd_call {α : Type} (what : String) (c : Call) (reaction : Reaction α)
    (s : Surroundings) (j : Journal) : ∃ clock calls,
      (Audit.call what c reaction s j).2 = { j with clock, calls } ∧
        (calls = j.calls ∨ calls = j.calls ++ [c]) := by
  refine ⟨_, _, rfl, ?_⟩
  split
  · exact .inl rfl
  · exact .inr rfl

theorem CheckArgs.FailsToStart.untouched (fails : a.FailsToStart w j f k) : a.Untouched j k := by
  cases fails with
  | idle none => exact ⟨rfl, rfl, .inl rfl, by rw [none]; rfl, by rw [none]; rfl⟩
  | unconfigured some => exact ⟨rfl, rfl, .inl rfl, by rw [some]; rfl, by rw [some]; rfl⟩
  | unaddressed some => exact ⟨rfl, rfl, .inl rfl, by rw [some]; rfl, by rw [some]; rfl⟩
  | @unreached config client _ _ some _ _ ends =>
      obtain ⟨clock, calls, left, probed⟩ := Audit.exists_snd_call "probing the backend" .probe
        (client.probe w.network) (w.surroundings config j.clock.now) j
      rw [ends] at left
      cases left
      exact ⟨rfl, rfl, probed, by rw [some]; rfl, by rw [some]; rfl⟩

/-! ## The cluster -/

/-- Why the cluster is not reached, if it is looked for and is not. -/
def CheckArgs.unconnected? (a : CheckArgs) (w : Setting) (files : FileTree) (label : String) :
    Option Failure :=
  if a.needsCluster then
    match a.connection w files label with
    | .ok _ => none
    | .error f => some f
  else none

/-- What is printed if the cluster is not reached. -/
def connectionErrors : Option Failure → String
  | none => ""
  | some f => s!"connecting to the cluster failed: {f.render}" ++ "\n"

theorem connectionErrors_none : connectionErrors none = "" := rfl

theorem connectionErrors_some (f : Failure) : connectionErrors (some f) =
    s!"connecting to the cluster failed: {f.render}" ++ "\n" := rfl

/-- If no cluster is looked for, everything is carried out without one. -/
theorem CheckArgs.carriedOut_of_alone (alone : a.needsCluster = false) (connected : Bool) :
    a.carriedOut connected = a.requested := by
  refine List.filter_eq_self.mpr fun o listed => ?_
  have asked : o.isRequested a = true := (List.mem_filter.mp listed).2
  obtain ⟨validate, status⟩ := Bool.or_eq_false_iff.mp alone
  cases o with
  | validation => cases validate.symm.trans asked
  | extraction => exact Bool.or_true connected
  | status => cases status.symm.trans asked

theorem CheckArgs.unconnected?_of_alone (alone : a.needsCluster = false) (w : Setting)
    (files : FileTree) (label : String) : a.unconnected? w files label = none := by
  rw [unconnected?, alone]
  rfl

theorem CheckArgs.unconnected?_of_connected {files : FileTree} {label : String} {cluster : Cluster}
    (connected : a.connection w files label = .ok cluster) :
    a.unconnected? w files label = none := by
  rw [unconnected?, connected]
  exact ite_self none

theorem CheckArgs.connectCluster_of_alone (alone : a.needsCluster = false) (w : Setting)
    (label : String) (s : Surroundings) (j : Journal) :
    a.connectCluster w label s j = (.ok none, j) := by
  rw [connectCluster, alone]
  rfl

/-- The monitors of the cluster, if it is looked for and reached. -/
def CheckArgs.source? (a : CheckArgs) (w : Setting) (files : FileTree) (label : String) :
    Option MonitorSource :=
  if a.needsCluster then (a.connection w files label).toOption.map (·.source w.network) else none

theorem Cluster.cause_of_ofFile {files : FileTree} {path label : String}
    (failed : Cluster.ofFile files path label = .error f) : f.cause = .kubeconfig := by
  rcases bind_eq_error_iff.mp failed with first | ⟨k, -, failed⟩
  · exact cause_of_orFail first
  rcases bind_eq_error_iff.mp failed with first | ⟨server, -, failed⟩
  · exact cause_of_orFail first
  rcases bind_eq_error_iff.mp failed with first | ⟨user, -, failed⟩
  · exact cause_of_orFail first
  split at failed
  · cases failed
    rfl
  · cases failed

/-- Looking for a cluster is not what panics. -/
theorem CheckArgs.isPanic_of_connection {files : FileTree} {label : String}
    (failed : a.connection w files label = .error f) : f.isPanic = false := by
  unfold connection Cluster.connect at failed
  split at failed
  · cases inferred : w.inferred files with
    | ok cluster =>
        rw [inferred] at failed
        cases failed
    | error fault =>
        rw [inferred] at failed
        cases failed
        cases fault <;> rfl
  · rw [Failure.isPanic, Cluster.cause_of_ofFile failed]

/-- A failure to connect is told, and the run goes on without a source. -/
theorem CheckArgs.connectCluster_apply (a : CheckArgs) (w : Setting) (label : String)
    (s : Surroundings) (j : Journal) :
    a.connectCluster w label s j = (.ok (a.source? w j.files label),
      { j with errors := j.errors ++ connectionErrors (a.unconnected? w j.files label) }) := by
  cases needs : a.needsCluster with
  | false =>
      rw [connectCluster_of_alone needs, unconnected?_of_alone needs, connectionErrors_none,
        String.append_empty, source?, needs]
      rfl
  | true =>
      unfold connectCluster unconnected? source?
      rw [needs]
      simp only [Bool.not_true, Bool.false_eq_true, if_false, if_true, Audit.bind_apply,
        Audit.attempt, Audit.ofStep]
      cases connected : a.connection w j.files label with
      | ok cluster =>
          rw [connectionErrors_none, String.append_empty]
          rfl
      | error f =>
          have returned : f.isPanic = false := isPanic_of_connection connected
          simp only [returned, Bool.false_eq_true, if_false, Audit.bind_apply, Audit.complain,
            Audit.ofStep, connectionErrors_some, String.append_assoc]
          rfl

/-- What is carried out with the cluster, if there is one, is what is carried out unless it is not
reached. -/
theorem CheckArgs.carriedOut_source? (a : CheckArgs) (w : Setting) (files : FileTree)
    (label : String) : a.carriedOut (a.source? w files label).isSome =
      a.carriedOut (a.unconnected? w files label).isNone := by
  cases needs : a.needsCluster with
  | false => exact (carriedOut_of_alone needs _).trans (carriedOut_of_alone needs _).symm
  | true =>
      unfold source? unconnected?
      rw [if_pos needs, if_pos needs]
      cases a.connection w files label <;> rfl

/-- Looking for a cluster, one finds this one or none. -/
def CheckArgs.Leads (a : CheckArgs) (w : Setting) (files : FileTree) (label : String)
    (cluster : Cluster) : Prop :=
  ∀ c, a.connection w files label = .ok c → c = cluster

theorem CheckArgs.exists_leads (a : CheckArgs) (w : Setting) (files : FileTree) (label : String) :
    ∃ cluster, a.Leads w files label cluster := by
  unfold Leads
  cases a.connection w files label with
  | error f => exact ⟨default, nofun⟩
  | ok cluster => exact ⟨cluster, fun c is => (Except.ok.inj is).symm⟩

theorem CheckArgs.Leads.source? {files : FileTree} {label : String} {cluster : Cluster}
    (leads : a.Leads w files label cluster) :
    (a.source? w files label).getD (cluster.source w.network) = cluster.source w.network := by
  unfold CheckArgs.source?
  split
  · cases connected : a.connection w files label with
    | error f => rfl
    | ok c => rw [leads c connected]; rfl
  · rfl

/-! ## The run of the command -/

/-- The command gets started, and works on the monitors of the cluster if there is one. -/
structure CheckArgs.SetsOut (a : CheckArgs) (w : Setting) (j : Journal) (config : Config)
    (client : Client) (started : Journal) (source : MonitorSource) : Prop where
  starts : a.Starts w j config client started
  found : ∀ cluster, a.needsCluster = true →
    a.connection w j.files config.profileLabel = .ok cluster → source = cluster.source w.network

/-- How the operations of a run are carried out. -/
def CheckArgs.partOf (a : CheckArgs) (w : Setting) (config : Config) (client : Client)
    (source : MonitorSource) (o : CheckOperation) : Audit (List String) :=
  o.part a (client.backend w.network w.epoch) (a.settings w config) source

/-- The operations of a run that are carried out, unless one panics. -/
def CheckArgs.ahead (a : CheckArgs) (w : Setting) (files : FileTree) (config : Config) :
    List CheckOperation :=
  a.carriedOut (a.unconnected? w files config.profileLabel).isNone

/-- The journal when the operations begin: that the cluster is not reached is told before. -/
def CheckArgs.beginning (a : CheckArgs) (w : Setting) (j : Journal) (config : Config)
    (started : Journal) : Journal :=
  { started with
    errors := started.errors ++ connectionErrors (a.unconnected? w j.files config.profileLabel) }

/-- A run that gets started: the operations are carried out one after the other, each with its
outcome. -/
structure CheckArgs.Runs (a : CheckArgs) (w : Setting) (j : Journal) (config : Config)
    (client : Client) (started : Journal) (source : MonitorSource) (outcomes : List Outcome)
    (k : Journal) : Prop extends a.SetsOut w j config client started source where
  run : Outcomes (w.surroundings config j.clock.now) (a.partOf w config client source)
    (a.ahead w j.files config) (a.beginning w j config started) outcomes k

/-- A run that gets started and breaks off: some operations are carried out, and the next one
panics. -/
structure CheckArgs.BreaksOff (a : CheckArgs) (w : Setting) (j : Journal) (config : Config)
    (client : Client) (started : Journal) (source : MonitorSource) (done : List CheckOperation)
    (o : CheckOperation) (outcomes : List Outcome) (f : Failure) (k : Journal) : Prop
    extends a.SetsOut w j config client started source where
  breaks : ProfileAudit.BreaksOff (w.surroundings config j.clock.now)
    (a.partOf w config client source) (a.ahead w j.files config) done o
    (a.beginning w j config started) outcomes f k

/-- A run that gets started reports its operations one after the other, on the monitors of the
cluster that is found. -/
theorem CheckArgs.Starts.checkProfiles_eq {config : Config} {client : Client} {started : Journal}
    (starts : a.Starts w j config client started) {cluster : Cluster}
    (leads : a.Leads w j.files config.profileLabel cluster) : checkProfiles w a j =
      ((a.ahead w j.files config).forM fun o =>
        Audit.report o.name (a.partOf w config client (cluster.source w.network) o))
        (w.surroundings config j.clock.now) (a.beginning w j config started) := by
  obtain ⟨clock, calls, left, -⟩ := Audit.exists_snd_call "probing the backend" .probe
    (client.probe w.network) (w.surroundings config j.clock.now) j
  rw [starts.reached] at left
  cases left
  have goes : checkProfiles w a j = (do
      Audit.call "probing the backend" .probe (client.probe w.network)
      let source ← a.connectCluster w config.profileLabel
      a.operations (client.backend w.network w.epoch) source (a.settings w config) : Audit Unit)
        (w.surroundings config j.clock.now) j := by
    rw [checkProfiles, starts.requested, starts.configured]
    simp only [Bool.not_true, Bool.false_eq_true, if_false, audit, starts.addressed]
    rfl
  rw [goes, Audit.bind_apply, starts.reached]
  dsimp only
  rw [Audit.bind_apply, connectCluster_apply]
  dsimp only
  rw [a.operations_eq _ _ _ (cluster.source w.network), carriedOut_source?, leads.source?]
  rfl

/-- The command fails if it does not get started. Otherwise it carries out its operations, up to
the first one that panics. -/
theorem checkProfiles_cases (w : Setting) (a : CheckArgs) (j : Journal) :
    (∃ f k, checkProfiles w a j = (.error f, k) ∧ a.FailsToStart w j f k) ∨
    (∃ config client started source outcomes k,
      a.Runs w j config client started source outcomes k ∧ checkProfiles w a j = (.ok (), k)) ∨
    ∃ config client started source done o outcomes f k,
      a.BreaksOff w j config client started source done o outcomes f k ∧
        checkProfiles w a j = (.error f, k) := by
  cases requested : a.anyOperation with
  | false =>
      refine .inl ⟨_, _, ?_, .idle requested⟩
      rw [checkProfiles, requested]
      rfl
  | true =>
  cases configured : Config.load j.files "." a.config with
  | error f =>
      refine .inl ⟨f, j, ?_, .unconfigured requested configured⟩
      rw [checkProfiles, requested, configured]
      rfl
  | ok config =>
  have goes : checkProfiles w a j = a.audit w config.requestTimeout (a.settings w config)
      (w.surroundings config j.clock.now) j := by
    rw [checkProfiles, requested, configured]
    rfl
  cases addressed : Client.ofAddress a.address a.bearerToken config.requestTimeout with
  | error f =>
      refine .inl ⟨f, j, ?_, .unaddressed requested configured addressed⟩
      rw [goes, CheckArgs.audit, addressed]
      rfl
  | ok client =>
  cases probed : Audit.call "probing the backend" .probe (client.probe w.network)
      (w.surroundings config j.clock.now) j with
  | mk result started =>
  cases result with
  | error f =>
      refine .inl ⟨f, started, ?_, .unreached requested configured addressed probed⟩
      rw [goes, CheckArgs.audit, addressed]
      change (Audit.call "probing the backend" .probe (client.probe w.network) >>= fun _ => _)
        (w.surroundings config j.clock.now) j = _
      rw [Audit.bind_apply, probed]
  | ok =>
      have starts : a.Starts w j config client started := ⟨requested, configured, addressed, probed⟩
      obtain ⟨cluster, leads⟩ := a.exists_leads w j.files config.profileLabel
      have sets : a.SetsOut w j config client started (cluster.source w.network) :=
        ⟨starts, fun c _ connected => by rw [leads c connected]⟩
      rw [starts.checkProfiles_eq leads]
      rcases ProfileAudit.exists_outcomes (w.surroundings config j.clock.now)
          (a.partOf w config client (cluster.source w.network)) (a.ahead w j.files config)
          (a.beginning w j config started) with
        ⟨outcomes, k, run, ends⟩ | ⟨done, o, outcomes, f, k, breaks, ends⟩
      · exact .inr (.inl ⟨_, _, _, _, _, _, ⟨sets, run⟩, ends⟩)
      · exact .inr (.inr ⟨_, _, _, _, _, _, _, _, _, ⟨sets, breaks⟩, ends⟩)

/-- What a run that gets started has told. Each operation that has been carried out has told its
outcome, in order: what it found, or why it failed. That the cluster is not reached is told once,
before. -/
structure CheckArgs.Accounts (a : CheckArgs) (w : Setting) (j : Journal) (label : String)
    (ops : List CheckOperation) (outcomes : List Outcome) (k : Journal) : Prop where
  operations : outcomes.map (·.1) = ops
  tells : ∀ o lines, (o, .ok lines) ∈ outcomes → o.Tells lines
  output : k.output = j.output ++ String.join (outcomes.map (·.output))
  errors : k.errors = j.errors ++ connectionErrors (a.unconnected? w j.files label) ++
    String.join (outcomes.map (·.errors))
  exit : k.exit = j.exit

section

variable {config : Config} {client : Client} {started : Journal} {source : MonitorSource}
  {outcomes : List Outcome}

theorem CheckArgs.Starts.beginning (starts : a.Starts w j config client started) :
    ∃ clock calls, a.beginning w j config started = { j with
      clock, calls
      errors := j.errors ++ connectionErrors (a.unconnected? w j.files config.profileLabel) } := by
  obtain ⟨clock, calls, left, -⟩ := Audit.exists_snd_call "probing the backend" .probe
    (client.probe w.network) (w.surroundings config j.clock.now) j
  rw [starts.reached] at left
  cases left
  exact ⟨clock, calls, rfl⟩

/-- All that are asked for have been carried out if the cluster is reached or not looked for, and
otherwise those that do without it. -/
theorem CheckArgs.Runs.accounts (runs : a.Runs w j config client started source outcomes k) :
    a.Accounts w j config.profileLabel (a.ahead w j.files config) outcomes k := by
  obtain ⟨clock, calls, begins⟩ := runs.starts.beginning
  obtain ⟨output, errors, exit⟩ := runs.run.printed fun o => o.mute_part
  rw [begins] at output errors exit
  exact ⟨runs.run.operations,
    fun o lines told => runs.run.tells (fun _ _ _ _ => CheckOperation.tells_part) told,
    output, errors, exit⟩

/-- Up to a panic all has been told. -/
theorem CheckArgs.BreaksOff.accounts {done : List CheckOperation} {o : CheckOperation}
    (broken : a.BreaksOff w j config client started source done o outcomes f k) :
    a.Accounts w j config.profileLabel done outcomes k := by
  obtain ⟨clock, calls, begins⟩ := broken.starts.beginning
  obtain ⟨output, errors, exit⟩ := broken.breaks.printed fun o => o.mute_part
  rw [begins] at output errors exit
  obtain ⟨before, run, -⟩ := broken.breaks.broken
  exact ⟨run.operations,
    fun o lines told => run.tells (fun _ _ _ _ => CheckOperation.tells_part) told,
    output, errors, exit⟩

end

end

end ProfileAudit
