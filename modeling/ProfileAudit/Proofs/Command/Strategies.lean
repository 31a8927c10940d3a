import ProfileAudit.Proofs.Command.Check
import ProfileAudit.Proofs.Command.Usage

/-!
# Profiles that lack a strategy

An operation that a profile has no strategy for is refused in the name of the profile. That there is
a profile to name is seen to where the command line is read, not where the operation is carried out:
whatever is asked for in words that are accepted ends without a word on a profile that is not given
(`CheckArgs.named_throughout`).
-/

namespace ProfileAudit

namespace CheckOperation

/-- The profile has a strategy for the operation. -/
def can (p : CollectionProfile) : CheckOperation → Bool
  | validation => p.canValidate
  | extraction => p.canExtract
  | status => true

/-- The strategy of a profile for an operation. -/
def strategy (p : CollectionProfile) (a : CheckArgs) (backend : Backend)
    (settings : ProfileSettings) (source : MonitorSource) :
    CheckOperation → Audit (List String)
  | validation => do
    let path ← p.validate backend source settings
    return [validationLine path]
  | extraction => do
    let o ← p.extract backend a.sources settings a.outputCardinality
    return extractionLines o
  | status => a.statusReport source settings

end CheckOperation

namespace CheckArgs

variable {a : CheckArgs} {p : CollectionProfile} {backend : Backend} {settings : ProfileSettings}
  {source : MonitorSource}

theorem profileFor_of_can {can : CollectionProfile → Bool} (given : a.profile = some p)
    (able : can p = true) (what : String) : a.profileFor can what = .ok p := by
  rw [profileFor, given, Option.filter_some, if_pos able]

theorem profileFor_of_cannot {can : CollectionProfile → Bool} (given : a.profile = some p)
    (unable : can p = false) (what : String) : a.profileFor can what =
      .error (.ofText s!"the {p.name} profile has no {what}") := by
  rw [profileFor, given, Option.filter_some, if_neg (by rw [unable]; exact Bool.false_ne_true)]
  rfl

/-- An operation on a profile is its strategy. -/
theorem part_of_can {o : CheckOperation} (given : a.profile = some p) (able : o.can p = true) :
    o.part a backend settings source = o.strategy p a backend settings source := by
  cases o with
  | validation =>
      unfold CheckOperation.part
      rw [a.validation_eq, profileFor_of_can given able]
      rfl
  | extraction =>
      unfold CheckOperation.part
      rw [a.extraction_eq, profileFor_of_can given able]
      rfl
  | status => rfl

/-- Without a strategy it is refused. -/
theorem part_of_cannot {o : CheckOperation} (given : a.profile = some p)
    (unable : o.can p = false) (s : Surroundings) (j : Journal) :
    o.part a backend settings source s j =
      (.error (.ofText s!"the {p.name} profile has no {o.name}"), j) := by
  cases o with
  | validation =>
      unfold CheckOperation.part
      rw [a.validation_eq, profileFor_of_cannot given unable]
      rfl
  | extraction =>
      unfold CheckOperation.part
      rw [a.extraction_eq, profileFor_of_cannot given unable]
      rfl
  | status => cases unable

/-- How an operation ends that knows its profile, if it works on one. -/
inductive Ends (a : CheckArgs) (backend : Backend) (settings : ProfileSettings)
    (source : MonitorSource) (s : Surroundings) : Outcome → Prop
  | refused {o : CheckOperation} {p : CollectionProfile} : a.profile = some p → o.can p = false →
      Ends a backend settings source s
        (o, .error (.ofText s!"the {p.name} profile has no {o.name}"))
  | carriedOut {o : CheckOperation} {p : CollectionProfile} (j : Journal) : a.profile = some p →
      o.can p = true → Ends a backend settings source s
        (o, (o.strategy p a backend settings source s j).1)
  /-- The status may be reported of all profiles. -/
  | reported (j : Journal) :
      Ends a backend settings source s (.status, (a.statusReport source settings s j).1)

theorem ends_part {o : CheckOperation} (named : o ≠ .status → ∃ p, a.profile = some p)
    (s : Surroundings) (j : Journal) : a.Ends backend settings source s
      (o, (o.part a backend settings source s j).1) := by
  by_cases status : o = .status
  · subst status
    exact .reported j
  · obtain ⟨p, given⟩ := named status
    cases able : o.can p with
    | false =>
        rw [part_of_cannot given able]
        exact .refused given able
    | true =>
        rw [part_of_can given able]
        exact .carriedOut j given able

/-- What is asked for is done with a profile, unless it is the status. -/
theorem concerned_of_mem {o : CheckOperation} (member : o ∈ a.requested) (other : o ≠ .status) :
    a.Concerned := by
  have asked : o.isRequested a = true := (List.mem_filter.mp member).2
  cases o with
  | validation => exact .inl asked
  | extraction =>
      refine .inr ?_
      simp only [CheckOperation.isRequested, ExtractSources.isEmpty, Bool.not_eq_true',
        Bool.and_eq_false_iff, Option.isNone_eq_false_iff, or_assoc] at asked
      exact asked
  | status => exact absurd rfl other

end CheckArgs

/-- Every outcome is that of the operation in some journal. -/
theorem Outcomes.exists_of_mem {s : Surroundings} {part : CheckOperation → Audit (List String)}
    {ops : List CheckOperation} {j k : Journal} {outcomes : List Outcome}
    (run : Outcomes s part ops j outcomes k) {outcome : Outcome} (member : outcome ∈ outcomes) :
    outcome.1 ∈ ops ∧ ∃ j, outcome = (outcome.1, (part outcome.1 s j).1) := by
  induction run with
  | done => cases member
  | @next o _ j _ _ _ _ ends _ _ ih =>
      rcases List.mem_cons.mp member with rfl | later
      · exact ⟨List.mem_cons_self, j, by rw [ends]⟩
      · exact (ih later).imp_left (List.mem_cons_of_mem o)

namespace CheckArgs

variable {w : Setting} {a : CheckArgs} {j k : Journal} {config : Config}
  {client : Client} {source : MonitorSource} {outcomes : List Outcome}

/-- Operations of a run know their profile. -/
theorem ends_of_outcomes {s : Surroundings} {ops : List CheckOperation}
    (run : Outcomes s (a.partOf w config client source) ops j outcomes k)
    (listed : ops ⊆ a.requested)
    (named : a.Concerned → ∃ p, a.profile = some p) : ∀ outcome ∈ outcomes,
      a.Ends (client.backend w.network w.epoch) (a.settings w config) source s outcome := by
  intro outcome member
  obtain ⟨among, j', is⟩ := run.exists_of_mem member
  rw [is]
  exact ends_part (fun other => named (concerned_of_mem (listed among) other)) _ j'

/-- **A profile is named throughout.** Words that are accepted name a profile if anything is to be
done with one, whatever the environment holds. So a run that they start does not get going, or each
of its operations ends as one that knows its profile, up to one that panics, and nothing but that is
printed. Words that name no profile that there is are told to be wrong, or answered with the help if
they ask for that before: nothing is read, sent or written then. -/
theorem named_throughout (env : Environment) (words : List String) :
    (∀ a, ofWords env words = .ok a →
      (a.Concerned → ∃ p ∈ CollectionProfile.all, a.profile = some p ∧
        Supplies .profile p.name words) ∧
      ∀ w files, ∃ result k, checkProfiles w a { files } = (result, k) ∧
        runProgram w env ("check" :: words) files = .ofRun result k ∧
        ((∃ f, result = .error f ∧ a.FailsToStart w { files } f k ∧ a.Untouched { files } k) ∨
          ∃ config client started source ops outcomes,
            ((result = .ok () ∧ ops = a.ahead w files config ∧
                a.Runs w { files } config client started source outcomes k) ∨
              ∃ f o, result = .error f ∧ f.isPanic = true ∧
                a.BreaksOff w { files } config client started source ops o outcomes f k) ∧
            a.Accounts w { files } config.profileLabel ops outcomes k ∧
            ∀ outcome ∈ outcomes, a.Ends (client.backend w.network w.epoch) (a.settings w config)
              source (w.surroundings config 0) outcome)) ∧
    (Unprofiled words → ∃ e, ofWords env words = .error e ∧
      (e.isRequest = true ↔ Selection.AsksHelp {} words) ∧
      ∀ w files, runProgram w env ("check" :: words) files = .ofUsage e files) := by
  refine ⟨fun a accepted => ⟨exists_profile accepted, fun w files => ?_⟩, usage⟩
  have runs : runProgram w env ("check" :: words) files =
      .ofRun (checkProfiles w a { files }).1 (checkProfiles w a { files }).2 := by
    rw [runProgram, Command.ofWords, accepted]
    rfl
  have named (concerned : a.Concerned) : ∃ p, a.profile = some p := by
    obtain ⟨p, -, given, -⟩ := exists_profile accepted concerned
    exact ⟨p, given⟩
  have requested (config : Config) : a.ahead w files config ⊆ a.requested :=
    List.filter_sublist.subset
  rcases checkProfiles_cases w a { files } with ⟨f, k, ends, fails⟩ |
    ⟨config, client, started, source, outcomes, k, goes, ends⟩ |
    ⟨config, client, started, source, done, o, outcomes, f, k, broken, ends⟩
  · rw [ends] at runs
    exact ⟨_, k, ends, runs, .inl ⟨f, rfl, fails, fails.untouched⟩⟩
  · rw [ends] at runs
    exact ⟨_, k, ends, runs, .inr ⟨config, client, started, source, _, outcomes,
      .inl ⟨rfl, rfl, goes⟩, goes.accounts, ends_of_outcomes goes.run (requested config) named⟩⟩
  · rw [ends] at runs
    obtain ⟨before, run, -⟩ := broken.breaks.broken
    refine ⟨_, k, ends, runs, .inr ⟨config, client, started, source, done, outcomes,
      .inr ⟨f, o, rfl, broken.breaks.panics, broken⟩, broken.accounts, ?_⟩⟩
    refine ends_of_outcomes run (fun o listed => requested config ?_) named
    exact broken.breaks.among.subset (List.mem_append_left _ listed)

/-- Help is given to words that name no profile that there is, or none where one is needed, if they
ask for it before that is found out. -/
theorem help_unprofiled :
    (Unprofiled ["--help", "--profile", "medium"] ∧ ∀ w files,
      runProgram w [] ["check", "--help", "--profile", "medium"] files =
        { output := help, files }) ∧
    Unprofiled ["--validate", "-h"] ∧ ∀ w files,
      runProgram w [] ["check", "--validate", "-h"] files = { output := help, files } := by
  have member : "validate" ∈ profiled := by decide
  have mentions : Mentions ["--validate", "-h"] "validate" := ⟨none, List.mem_cons_self⟩
  have unnamed : ¬ Mentions ["--validate", "-h"] "profile" := by
    rintro ⟨value, among⟩
    have others : ∀ word ∈ ["--validate", "-h"],
        (Word.ofText word).switch?.map (·.1) ≠ some (.option .profile) := by decide
    exact others _ among (congrArg (·.map (·.1)) (switch?_spelled (.option .profile) value))
  exact ⟨⟨.unknown (.later .apart) (by decide), fun _ _ => rfl⟩,
    .missing member mentions unnamed, fun _ _ => rfl⟩

end CheckArgs

end ProfileAudit
