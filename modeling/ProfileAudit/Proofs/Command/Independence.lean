import ProfileAudit.Proofs.Command.SideBySide

/-!
# Operations are independent

A run of the command with several operations comes to what the runs with each of them alone come to,
one after the other. The operations share the files and nothing else: the replies do not depend on
what was asked before, and all that an operation writes is of its own name. What an operation sees
of the files may have been changed by the operations before it only if these changed what the
sources of an extraction lead to, and what is in its way only if the directory of the reports was
half made. Both can happen, and then it is not so. Nor is it so if an operation panics, or if the
counts depend on the instant at which they are taken, which comes later in the run.
-/

namespace ProfileAudit

open FileTree CheckOperation

/-- What a run shares with those that repeat it is not in its way: the directory of the reports can
be made, or trying to makes nothing, and after a validation the sources of an extraction lead to
what they led to before. -/
structure CheckRun.Unentangled (r : CheckRun) (a : CheckArgs) (config : Config)
    (solo : CheckOperation → CheckRun) : Prop where
  directory : r.files.Furnishable (a.settings r.setting config).reportDir
  sources : validation ∈ a.requested →
    a.sources.reading ((solo validation).outcome (a.alone validation)).2.files =
      a.sources.reading r.files

/-- Without a cluster there is an extraction at most. -/
theorem CheckArgs.carriedOut_false (a : CheckArgs) :
    a.carriedOut false = [] ∨ a.carriedOut false = [.extraction] := by
  refine List.sublist_singleton.mp ?_
  have among : (a.carriedOut false).Sublist (all.filter fun o => !o.needsCluster) :=
    List.filter_sublist.filter _
  exact among

/-- Nothing but a validation is carried out before an extraction. -/
theorem CheckOperation.before_extraction {before : List CheckOperation}
    (listed : (before ++ [extraction]).Sublist all) : before = [] ∨ before = [validation] := by
  obtain ⟨first, rest, split, within, behind⟩ := List.append_sublist_iff.mp listed
  match first, split with
  | [], _ => exact .inl (List.sublist_nil.mp within)
  | [o], split =>
      cases split
      rcases List.sublist_cons_iff.mp within with none | ⟨none', rfl, none⟩
      · exact .inl (List.sublist_nil.mp none)
      · obtain rfl := List.sublist_nil.mp none
        exact .inr rfl
  | o :: o' :: first, split =>
      obtain ⟨-, -, split⟩ : o = validation ∧ o' = extraction ∧ first ++ rest = [status] := by
        simpa [all, eq_comm] using split
      have last : extraction ∈ first ++ rest :=
        List.mem_append_right _ (behind.subset List.mem_cons_self)
      rw [split] at last
      exact absurd last (by decide)

theorem CheckOperation.requested_of_validation {a : CheckArgs} (asked : validation ∈ a.requested) :
    ∃ after, a.requested = validation :: after := by
  obtain ⟨-, is⟩ := List.mem_filter.mp asked
  exact ⟨_, List.filter_cons_of_pos is⟩

/-- What is asked for is separate on a shelf, if a validation does not change what an extraction
sees. -/
theorem CheckOperation.separate_requested (a : CheckArgs) {dir : String} {t : FileTree}
    {made : (o : CheckOperation) → FileTree → Except Failure (Product o.kinds)}
    {stamp : CheckOperation → Timestamp} (shelf : Shelf t dir)
    (sees : ∀ o t u, o.view a t = o.view a u → made o t = made o u)
    (sources : validation ∈ a.requested →
      a.sources.reading (delivered dir made stamp validation t).1 = a.sources.reading t) :
    Separate dir made stamp a.requested t := by
  refine separate_of_shelf shelf List.filter_sublist ?_
  intro before o begins
  refine sees o _ _ ?_
  cases o with
  | extraction =>
      rcases before_extraction (begins.sublist.trans List.filter_sublist) with rfl | rfl
      · rfl
      · have left := sources (begins.subset List.mem_cons_self)
        rw [fst_delivered _ _ shelf] at left
        exact left
  | _ => rfl

/-- What each operation makes of what it sees. -/
theorem CheckOperation.exists_all_made (a : CheckArgs) (settings : ProfileSettings)
    (replies : Replies) :
    ∃ made : (o : CheckOperation) → FileTree → Except Failure (Product o.kinds),
      (∀ (o : CheckOperation) (v : Venue), v.Gives replies → Delivers v.surroundings
        (o.part a v.backend settings v.source) settings.reportDir (made o)) ∧
      ∀ o t u, o.view a t = o.view a u → made o t = made o u := by
  choose made delivers using fun o : CheckOperation => o.exists_made a settings replies
  exact ⟨fun o t => made o (o.view a t), delivers, fun o t u same => congrArg (made o) same⟩

namespace Bench

/-- The backend has a rule of a kind that nothing knows, and wherever the cluster is looked at there
is a monitor without a name. -/
def answer : UrlPath → Response
  | .segments ["api", "v1", "rules"] => ⟨200, "\x7b\"status\":\"success\",\"data\":
      \x7b\"groups\":[\x7b\"name\":\"g\",\"rules\":[\x7b\"type\":\"\"\x7d]\x7d]\x7d\x7d"⟩
  | .segments ["api", "v1", "targets", "metadata"] =>
    ⟨200, "\x7b\"status\":\"success\",\"data\":[]\x7d"⟩
  | _ => ⟨200, "\x7b\"items\":[\x7b\x7d]\x7d"⟩

/-- The backend answers nothing but queries, and knows of a series only if it is asked for two
seconds after the epoch. -/
def datedAnswer (request : Request) : Response :=
  if request.url.query = some (Form.encode (Client.queryFields (countQuery "up") ⟨2, 0⟩)) then
    ⟨200, "\x7b\"status\":\"success\",\"data\":\x7b\"resultType\":\"vector\",\"result\":" ++
      "[\x7b\"metric\":\x7b\x7d,\"value\":[0,\"1\"]\x7d]\x7d\x7d"⟩
  else ⟨404, ""⟩

def client : Client where
  base := { scheme := "http", authority := some { host := .name "b" }, path := .segments [""] }
  timeout := 60 * second

def cluster : Cluster := { server := "http://c", label := profileLabel }

/-- The file that leads to the cluster. -/
def kubeconfig : String := "clusters:
- name: c
  cluster:
    server: http://c
contexts:
- name: c
  context:
    cluster: c
current-context: c
"

/-- The files of all runs. -/
def files : FileTree where
  nodes := [(["kube"], .file (.text kubeconfig)), (["list"], .file (.text "metrics: [up]")),
    (["blocked"], .file .binary), (["cpv.toml"], .file (.text "")),
    (["limits"], .file (.text "cardinality_concurrency = 2305843009213693952"))]

/-- Answers take no time, what the program does before each call may, and the clock on the wall has
stopped. -/
def runOf (answer : Request → Response) (lag : Nat) : CheckRun where
  setting :=
    { network := .ofRequests answer
      inferred := fun _ => .error .unknown
      tempDir := "/tmp"
      epoch := default
      localTime := fun _ => default
      lag := fun _ => lag }
  files := files

def run : CheckRun := runOf (fun request => answer request.url.path) 0

/-- A run that takes a second before each call, where what is answered depends on the instant. -/
def slowRun : CheckRun := runOf datedAnswer second

/-- Arguments for an extraction from a list, and for what else is to be done. -/
def arguments (validate status : Bool) (list dir : String) : CheckArgs where
  address := "http://b"
  kubeconfig := some "kube"
  profile := some .minimal
  validate := validate
  status := status
  sources := { allowListFile := some list }
  reportDir := some dir

/-- All operations are asked for. -/
def whole : CheckArgs := arguments true true "list" "reports"

/-- There is no way to the cluster. -/
def cut : CheckArgs := { whole with kubeconfig := none }

/-- Why the cluster is not reached then. -/
def unconfigured : Failure := ⟨.kubeconfig, ["inferring cluster configuration"]⟩

/-- The way to the list goes through the directory of the reports. -/
def detour : CheckArgs := arguments true false "reports/../list" "reports"

/-- The directory of the reports can be made in part only. -/
def barred : CheckArgs := arguments false true "list" "new/../blocked/reports"

/-- What is extracted is to be counted as well, and that after a validation. -/
def counted : CheckArgs := { arguments true false "list" "reports" with outputCardinality := true }

/-- More series are to be counted at once than can be. -/
def crowded : CheckArgs :=
  { arguments false true "list" "reports" with
    outputCardinality := true
    config := some "limits" }

/-- What is configured then. -/
def limits : Config := { cardinalityConcurrency := maxPermits + 1 }

/-- The arguments lead to the backend of the bench, and to no other cluster than its own. -/
structure Suits (r : CheckRun) (a : CheckArgs) (config : Config) : Prop where
  requested : a.anyOperation = true
  configured : Config.load r.files "." a.config = .ok config
  addressed : Client.ofAddress a.address a.bearerToken config.requestTimeout = .ok client
  serves : r.setting.network.Serves client
  reached : (Audit.call "probing the backend" .probe (client.probe r.setting.network)
    (r.setting.surroundings config r.clock.now) { clock := r.clock, files := r.files }).1 = .ok ()
  leads : a.Leads r.setting r.files config.profileLabel cluster
  stopped : ∀ n n', r.setting.localTime n = r.setting.localTime n'

section

variable (r : CheckRun) (a : CheckArgs) (config : Config)

/-- The journal once the backend is reached, and after some complaint. -/
def started (errors : String) : Journal :=
  { (Audit.call "probing the backend" .probe (client.probe r.setting.network)
      (r.setting.surroundings config r.clock.now) { clock := r.clock, files := r.files }).2 with
    errors }

/-- How some operations end. -/
def ending (ops : List CheckOperation) (errors : String) : Except Failure Unit × Journal :=
  (ops.forM fun o => Audit.report o.name
    (a.partOf r.setting config client (cluster.source r.setting.network) o))
    (r.setting.surroundings config r.clock.now) (started r config errors)

/-- Together and alone, the operations end in time. -/
def EndInTime (ops : List CheckOperation) (errors : String) : Prop :=
  let context := (r.setting.surroundings config r.clock.now).context
  context.isOver (ending r a config ops errors).2.clock = false ∧
    ∀ o ∈ ops, context.isOver (ending r a config [o] "").2.clock = false

instance (ops : List CheckOperation) (errors : String) :
    Decidable (EndInTime r a config ops errors) := inferInstanceAs (Decidable (_ ∧ _))

/-- Something that is printed, or that is left in some place, is not as it is alone. -/
def Differs (ops : List CheckOperation) : Prop :=
  let whole := (ending r a config ops "").2
  let alone := fun o => (ending r a config [o] "").2
  whole.output ≠ String.join (ops.map fun o => (alone o).output) ∨
  whole.errors ≠ String.join (ops.map fun o => (alone o).errors) ∨
  ∃ o ∈ ops, ∃ place, (alone o).files.node? place ≠ r.files.node? place ∧
    whole.files.node? place ≠ (alone o).files.node? place

/-- The run is not disturbed, and yet it does not comprise those that repeat it with one operation
each, be these the run itself. -/
structure Clashes : Prop where
  undisturbed : r.Undisturbed a config client
  connected : r.unconnected? a config = none
  repeated : ∀ time, r.Repeated a config time a.requested fun _ => r
  apart : ¬ r.Comprises a "" a.requested fun _ => r

end

variable {r : CheckRun} {a : CheckArgs} {config : Config} {f? : Option Failure}
  {ops : List CheckOperation}

theorem configured_addressed_connected :
    ((Config.load files "." none).toOption = some {} ∧
      (Config.load files "." (some "limits")).toOption = some limits) ∧
    (Client.ofAddress "http://b" none (60 * second)).toOption = some client ∧
    (Cluster.ofFile files "kube" profileLabel).toOption = some cluster := by
  decide +kernel

theorem configured : Config.load files "." none = .ok {} :=
  eq_ok_of_toOption configured_addressed_connected.1.1

theorem configured_limits : Config.load files "." (some "limits") = .ok limits :=
  eq_ok_of_toOption configured_addressed_connected.1.2

theorem addressed : Client.ofAddress "http://b" none (60 * second) = .ok client :=
  eq_ok_of_toOption configured_addressed_connected.2.1

theorem connected : Cluster.ofFile files "kube" profileLabel = .ok cluster :=
  eq_ok_of_toOption configured_addressed_connected.2.2

theorem furnishable : files.Furnishable "reports" := .inl (by decide)

theorem outcome_eq (suits : Suits r a config) (found : r.unconnected? a config = f?) :
    r.outcome a = ending r a config (a.carriedOut f?.isNone) (connectionErrors f?) := by
  have starts : a.Starts r.setting { clock := r.clock, files := r.files } config client
      (started r config "") :=
    { requested := suits.requested
      configured := suits.configured
      addressed := suits.addressed
      reached := Prod.ext suits.reached rfl }
  subst found
  refine (starts.checkProfiles_eq suits.leads).trans ?_
  rw [CheckArgs.beginning, CheckArgs.ahead]
  dsimp only [started]
  rw [String.empty_append]
  rfl

theorem Suits.alone {o : CheckOperation} (suits : Suits r a config) (asked : o ∈ a.requested) :
    Suits r (a.alone o) config where
  requested := CheckArgs.anyOperation_alone asked
  configured := suits.configured
  addressed := suits.addressed
  serves := suits.serves
  reached := suits.reached
  leads := suits.leads
  stopped := suits.stopped

theorem Suits.repeats (suits : Suits r a config) (n : Nat) :
    r.Repeats r (r.setting.localTime n) := ⟨rfl, rfl, rfl, rfl, fun _ => suits.stopped _ _⟩

theorem outcome_alone {o : CheckOperation} (suits : Suits r a config)
    (found : r.unconnected? a config = f?) (carried : o ∈ a.carriedOut f?.isNone) :
    r.outcome (a.alone o) = ending r a config [o] "" := by
  subst found
  have asked : o ∈ a.requested := (List.mem_filter.mp carried).1
  have alike : (a.alone o).partOf r.setting config client (cluster.source r.setting.network) o =
      a.partOf r.setting config client (cluster.source r.setting.network) o :=
    CheckArgs.part_alone o a _ _ _
  have own : ending r (a.alone o) config [o] "" = ending r a config [o] "" := by
    have single (act : CheckOperation → Audit Unit) : [o].forM act = act o >>= fun _ => pure ⟨⟩ :=
      rfl
    rw [ending, ending, single, single, alike]
  rw [outcome_eq (suits.alone asked) (CheckRun.unconnected?_alone carried (suits.repeats 0)),
    Option.isNone_none, CheckArgs.carriedOut_true, CheckArgs.requested_alone asked,
    connectionErrors_none, own]

/-- The bench does not disturb a run, and the run may be repeated by itself. -/
theorem undisturbed_and_repeated (suits : Suits r a config) (found : r.unconnected? a config = f?)
    (inTime : EndInTime r a config (a.carriedOut f?.isNone) (connectionErrors f?)) :
    r.Undisturbed a config client ∧
      ∀ time, r.Repeated a config time (a.carriedOut f?.isNone) fun _ => r := by
  refine ⟨⟨suits.requested, suits.configured, suits.addressed, suits.serves, ?_⟩,
    fun time o carried => ⟨suits.repeats _, ?_⟩⟩
  · rw [CheckRun.InTime, outcome_eq suits found]
    exact inTime.1
  · rw [CheckRun.InTime, outcome_alone suits found carried]
    exact inTime.2 o carried

theorem clashes (suits : Suits r a config) (found : r.unconnected? a config = none)
    (inTime : EndInTime r a config a.requested "") (differs : Differs r a config a.requested) :
    Clashes r a config := by
  rw [← a.carriedOut_true] at inTime
  obtain ⟨undisturbed, repeated⟩ := undisturbed_and_repeated suits found inTime
  rw [Option.isNone_none, a.carriedOut_true] at repeated
  refine ⟨undisturbed, found, repeated, fun comprises => ?_⟩
  have whole : r.outcome a = ending r a config a.requested "" := by
    rw [outcome_eq suits found, Option.isNone_none, a.carriedOut_true, connectionErrors_none]
  have alone {o : CheckOperation} (asked : o ∈ a.requested) :
      r.outcome (a.alone o) = ending r a config [o] "" :=
    outcome_alone suits found (by rwa [Option.isNone_none, a.carriedOut_true])
  rcases differs with output | errors | ⟨o, asked, place, changed, other⟩
  · refine output ?_
    have same := comprises.output
    rw [whole, List.map_congr_left fun o asked => by rw [alone asked]] at same
    exact same
  · refine errors ?_
    have same := comprises.errors
    rw [whole, String.empty_append, List.map_congr_left fun o asked => by rw [alone asked]] at same
    exact same
  · refine other ?_
    have same := comprises.changed o asked place (by rw [alone asked]; exact changed)
    rw [whole, alone asked] at same
    exact same

theorem whole_ends : EndInTime run whole {} all "" ∧
    panics (ending run whole {} all "").1 = false ∧
    (ending run whole {} [validation] "").2.files.read "list" = run.files.read "list" := by
  decide +kernel

theorem cut_ends : EndInTime run cut {} [extraction] (connectionErrors (some unconfigured)) ∧
    panics (ending run cut {} [extraction] (connectionErrors (some unconfigured))).1 = false := by
  decide +kernel

/-- Alone the extraction complains that the list is not there, and after the validation nobody
does. -/
theorem detour_ends : EndInTime run detour {} detour.requested "" ∧
    panics (ending run detour {} detour.requested "").1 = false ∧
    (ending run detour {} detour.requested "").2.errors ≠
      String.join (detour.requested.map fun o => (ending run detour {} [o] "").2.errors) := by
  decide +kernel

/-- What stands in the place of the directory is a file; once a part of the way is made, that is
found out in another way. -/
theorem barred_ends : EndInTime run barred {} barred.requested "" ∧
    panics (ending run barred {} barred.requested "").1 = false ∧
    (ending run barred {} barred.requested "").2.errors ≠
      String.join (barred.requested.map fun o => (ending run barred {} [o] "").2.errors) := by
  decide +kernel

/-- Where the table of the counts is. -/
def countsPlace : List String := ["reports", CollectionProfile.minimal.countsName default]

/-- After the validation the series are counted later. -/
theorem slow_ends : EndInTime slowRun counted {} counted.requested "" ∧
    panics (ending slowRun counted {} counted.requested "").1 = false ∧
    (ending slowRun counted {} [validation] "").2.files.read "list" = files.read "list" ∧
    (ending slowRun counted {} [extraction] "").2.files.node? countsPlace ≠
      files.node? countsPlace ∧
    (ending slowRun counted {} counted.requested "").2.files.node? countsPlace ≠
      (ending slowRun counted {} [extraction] "").2.files.node? countsPlace := by
  decide +kernel

/-- After the panic of the extraction nothing is told of the status. -/
theorem crowded_ends : EndInTime run crowded limits crowded.requested "" ∧
    (ending run crowded limits crowded.requested "").2.output ≠
      String.join (crowded.requested.map fun o => (ending run crowded limits [o] "").2.output) := by
  decide +kernel

/-- Arguments of the bench suit each run. -/
theorem suits_runOf {answer : Request → Response} {lag : Nat}
    (known : a.address = "http://b" ∧ a.bearerToken = none) (requested : a.anyOperation = true)
    (configured : Config.load files "." a.config = .ok config)
    (timeout : config.requestTimeout = 60 * second)
    (leads : a.Leads (runOf answer lag).setting files config.profileLabel cluster) :
    Suits (runOf answer lag) a config where
  requested := requested
  configured := configured
  addressed := by
    rw [known.1, known.2, timeout]
    exact addressed
  serves := Network.serves_ofRequests answer rfl
  reached := rfl
  leads := leads
  stopped := fun _ _ => rfl

section

variable {answer : Request → Response} {lag : Nat} (led : a.kubeconfig = some "kube")

include led

theorem connection_of_led :
    a.connection (runOf answer lag).setting files profileLabel = .ok cluster := by
  rw [CheckArgs.connection, led]
  exact connected

theorem leads_of_led : a.Leads (runOf answer lag).setting files profileLabel cluster :=
  fun _ connects => Except.ok.inj (connects.symm.trans (connection_of_led led))

theorem unconnected?_of_led (labelled : config.profileLabel = profileLabel) :
    (runOf answer lag).unconnected? a config = none := by
  rw [CheckRun.unconnected?, labelled]
  exact CheckArgs.unconnected?_of_connected (connection_of_led led)

end

theorem returns_of_ending (suits : Suits r a config) (found : r.unconnected? a config = f?)
    (returned : panics (ending r a config (a.carriedOut f?.isNone) (connectionErrors f?)).1 =
      false) : r.Returns a := by
  rw [CheckRun.Returns, outcome_eq suits found]
  exact returned

theorem returns_of_requested (suits : Suits r a config) (found : r.unconnected? a config = none)
    (returned : panics (ending r a config a.requested "").1 = false) : r.Returns a := by
  rw [← a.carriedOut_true] at returned
  exact returns_of_ending suits found returned

theorem clashes_detour : Clashes run detour {} ∧ run.Returns detour ∧
    run.setting.network.IsTimeless client ∧ run.files.Furnishable "reports" := by
  have led : run.unconnected? detour {} = none := unconnected?_of_led rfl rfl
  have suits : Suits run detour {} :=
    suits_runOf ⟨rfl, rfl⟩ rfl configured rfl (leads_of_led rfl)
  obtain ⟨inTime, returned, errors⟩ := detour_ends
  exact ⟨clashes suits led inTime (.inr (.inl errors)), returns_of_requested suits led returned,
    Network.isTimeless_ofRequests answer _, furnishable⟩

theorem clashes_barred : Clashes run barred {} ∧ run.Returns barred ∧
    run.setting.network.IsTimeless client ∧ validation ∉ barred.requested := by
  have led : run.unconnected? barred {} = none := unconnected?_of_led rfl rfl
  have suits : Suits run barred {} :=
    suits_runOf ⟨rfl, rfl⟩ rfl configured rfl (leads_of_led rfl)
  obtain ⟨inTime, returned, errors⟩ := barred_ends
  exact ⟨clashes suits led inTime (.inr (.inl errors)), returns_of_requested suits led returned,
    Network.isTimeless_ofRequests answer _, by decide⟩

theorem clashes_slow : Clashes slowRun counted {} ∧ slowRun.Returns counted ∧
    slowRun.Unentangled counted {} fun _ => slowRun := by
  have led : slowRun.unconnected? counted {} = none := unconnected?_of_led rfl rfl
  have suits : Suits slowRun counted {} :=
    suits_runOf ⟨rfl, rfl⟩ rfl configured rfl (leads_of_led rfl)
  obtain ⟨inTime, returned, left, changed, other⟩ := slow_ends
  have differs : Differs slowRun counted {} counted.requested :=
    .inr (.inr ⟨extraction, by decide, countsPlace, changed, other⟩)
  refine ⟨clashes suits led inTime differs, returns_of_requested suits led returned, furnishable,
    fun _ => ?_⟩
  refine ExtractSources.reading_congr (fun path given => ?_) nofun
  cases given
  rw [outcome_alone suits led (by decide)]
  exact left

theorem clashes_crowded : Clashes run crowded limits ∧
    run.setting.network.IsTimeless client ∧ run.Unentangled crowded limits fun _ => run := by
  have led : run.unconnected? crowded limits = none := unconnected?_of_led rfl rfl
  have suits : Suits run crowded limits :=
    suits_runOf ⟨rfl, rfl⟩ rfl configured_limits rfl (leads_of_led rfl)
  exact ⟨clashes suits led crowded_ends.1 (.inl crowded_ends.2),
    Network.isTimeless_ofRequests answer _, furnishable, fun asked => absurd asked (by decide)⟩

end Bench

end ProfileAudit
