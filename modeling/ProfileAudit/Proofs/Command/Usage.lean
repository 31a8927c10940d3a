import ProfileAudit.Command.Program
import ProfileAudit.Proofs.Command.Arguments

/-!
# Usage

What is asked for with a profile is accepted only if a profile is named that there is
(`CheckArgs.exists_profile`), whatever the environment holds. Words that name another one, or none
where one is needed, are not carried out and no file is looked at (`CheckArgs.usage`): they are told
to be wrong, unless they ask for help before anything is wrong with them
(`Selection.read_eq_help_iff`).
-/

namespace ProfileAudit

/-- The word is the switch for help. -/
def Word.isHelp : Word → Bool
  | long name none => name == "help"
  | short letter _ => letter == 'h'
  | _ => false

namespace Selection

variable {s t : Selection} {words : List String} {value : String} {o : CheckOption}

/-! ## What is refused -/

section

variable {e : UsageError}

theorem assign_fault (failed : s.assign o value = .error e) : e.isRequest = false := by
  unfold assign at failed
  split at failed
  · cases failed
    rfl
  · split at failed
    · cases failed
    · cases failed
      rfl

theorem settle_fault (failed : s.settle = .error e) : e.isRequest = false := by
  unfold settle at failed
  split at failed
  · cases failed
  · cases failed
    rfl
  · exact assign_fault failed

/-- The words ask for help, and up to there nothing is wrong with them. -/
inductive AsksHelp : Selection → List String → Prop
  | now {s : Selection} {word : String} {words : List String} :
      (Word.ofText word).isHelp = true → AsksHelp s (word :: words)
  | later {s t : Selection} {chunk words : List String} : Takes s chunk t → AsksHelp t words →
      AsksHelp s (chunk ++ words)

/-- Only the switch for help asks for a text, and what was read before it is settled. -/
theorem switch_request {attached : Option String} {w : Switch}
    (failed : s.switch attached w = .error e) (request : e.isRequest = true) :
    w = .help ∧ ∃ t, s.settle = .ok t := by
  cases w with
  | help =>
      cases settles : s.settle with
      | ok t => exact ⟨rfl, t, rfl⟩
      | error e' =>
          rw [switch, settles] at failed
          cases failed
          cases request.symm.trans (settle_fault settles)
  | flag f =>
      rcases bind_eq_error_iff.mp failed with failed | ⟨t, -, failed⟩
      · cases request.symm.trans (settle_fault failed)
      · unfold raise at failed
        split at failed
        · cases failed
          cases request
        · cases failed
  | option o =>
      rcases bind_eq_error_iff.mp failed with failed | ⟨t, -, failed⟩
      · cases request.symm.trans (settle_fault failed)
      · cases attached with
        | none => cases failed
        | some value => cases request.symm.trans (assign_fault failed)

theorem readLong_request {name : String} {attached : Option String}
    (failed : s.readLong name attached = .error e) (request : e.isRequest = true) :
    (Word.long name attached).isHelp = true ∧ ∃ t, s.settle = .ok t := by
  unfold readLong at failed
  split at failed
  · cases failed
    cases request
  · cases (switch_request failed request).1
  · next w _ found =>
      split at failed
      · cases failed
        cases request
      · next bare =>
          obtain ⟨rfl, settles⟩ := switch_request failed request
          rw [Option.not_isSome_iff_eq_none.mp bare, Switch.eq_name_of_ofName? found]
          exact ⟨rfl, settles⟩

theorem readShort_request {letter : Char} {rest : List Char}
    (failed : s.readShort letter rest = .error e) (request : e.isRequest = true) :
    (Word.short letter rest).isHelp = true ∧ ∃ t, s.settle = .ok t := by
  unfold readShort at failed
  split at failed
  · cases failed
    cases request
  · next w found =>
      obtain ⟨rfl, settles⟩ := switch_request failed request
      rcases Switch.ofLetter?_cases found with ⟨rfl, -⟩ | ⟨o, -, other⟩
      · exact ⟨rfl, settles⟩
      · cases other

/-- Words that are not carried out for asking for help do so. -/
theorem on_of_request (failed : s.read words = .error e) (request : e.isRequest = true) :
    s.On AsksHelp words := by
  induction words generalizing s with
  | nil => cases request.symm.trans (settle_fault failed)
  | cons word words ih =>
      rw [read] at failed
      cases form : Word.ofText word with
      | escape =>
          rw [form] at failed
          dsimp only at failed
          split at failed
          · cases request.symm.trans (settle_fault failed)
          · cases failed
            cases request
      | long name attached =>
          rw [form] at failed
          rcases bind_eq_error_iff.mp failed with first | ⟨t, first, failed⟩
          · obtain ⟨help, t, settles⟩ := readLong_request first request
            exact .settled settles (.now (form ▸ help))
          · obtain ⟨w, switches, first, bare⟩ := readLong_cases first
            exact .of_switch .later (form ▸ switches) bare first (ih failed)
      | short letter rest =>
          rw [form] at failed
          rcases bind_eq_error_iff.mp failed with first | ⟨t, first, failed⟩
          · obtain ⟨help, t, settles⟩ := readShort_request first request
            exact .settled settles (.now (form ▸ help))
          · obtain ⟨w, switches, first, bare⟩ := readShort_cases first
            exact .of_switch .later (form ▸ switches) bare first (ih failed)
      | plain text =>
          rw [form] at failed
          rcases bind_eq_error_iff.mp failed with first | ⟨t, first, later⟩
          · unfold Selection.plain at first
            split at first
            · cases first
            · cases first
              cases request
          · cases eq_of_plain form
            exact .of_plain form first (ih later)

theorem read_of_help (settled : s.pending = none) (help : (Word.ofText word).isHelp = true)
    (words : List String) : s.read (word :: words) = .error .displayHelp := by
  have switches (attached : Option String) :
      s.switch attached .help = .error .displayHelp := by
    rw [switch, settle_of_settled settled]
    rfl
  rw [read]
  cases form : Word.ofText word with
  | escape => rw [form] at help; cases help
  | plain text => rw [form] at help; cases help
  | long name attached =>
      rw [form] at help
      cases attached with
      | some value => cases help
      | none =>
          have is : name = "help" := beq_iff_eq.mp help
          subst is
          exact congrArg (· >>= _) (switches none)
  | short letter rest =>
      rw [form] at help
      have is : letter = 'h' := beq_iff_eq.mp help
      subst is
      exact congrArg (· >>= _) (switches (attached? rest))

/-- Help is given if it is asked for before anything is wrong, and only then. -/
theorem read_eq_help_iff (settled : s.pending = none) :
    s.read words = .error .displayHelp ↔ AsksHelp s words := by
  constructor
  · exact fun failed => (on_of_request failed rfl).of_settled settled
  · intro asks
    induction asks with
    | now help => exact read_of_help settled help _
    | later takes _ ih => rw [takes.read settled, ih (takes.pending.trans settled)]

theorem eq_help_of_request (failed : s.read words = .error e) (request : e.isRequest = true)
    (settled : s.pending = none) : e = .displayHelp := by
  have asks := (on_of_request failed request).of_settled settled
  cases failed.symm.trans ((read_eq_help_iff settled).mpr asks)
  rfl

end

end Selection

/-! ## Profiles that are named -/

/-- The names of what needs a profile to be named. -/
def profiled : List String := ["validate", "allow-list-file", "rule-file", "target-selectors"]

/-- The words name no profile that there is: they name another one, or none where one is needed. -/
inductive Unprofiled (words : List String) : Prop
  | unknown {name : String} : Supplies .profile name words →
      (∀ p ∈ CollectionProfile.all, p.name ≠ name) → Unprofiled words
  | missing {name : String} : name ∈ profiled → Mentions words name →
      ¬ Mentions words "profile" → Unprofiled words

theorem Supplies.mentions {o : CheckOption} {value : String} {words : List String}
    (supplies : Supplies o value words) : Mentions words o.name := by
  induction supplies with
  | attached => exact ⟨some value, List.mem_cons_self⟩
  | apart => exact ⟨none, List.mem_cons_self⟩
  | later _ ih => exact ih.imp fun _ member => List.mem_cons_of_mem _ member

/-- The switches that need a profile by their names. -/
theorem profiled_cases {name : String} (member : name ∈ profiled) :
    name = (Switch.flag .validate).name ∨
      ∃ o : CheckOption, o.needsProfile = true ∧ name = (Switch.option o).name := by
  simp only [profiled, List.mem_cons, List.not_mem_nil, or_false] at member
  rcases member with rfl | rfl | rfl | rfl
  · exact .inl rfl
  · exact .inr ⟨.allowListFile, rfl, rfl⟩
  · exact .inr ⟨.ruleFile, rfl, rfl⟩
  · exact .inr ⟨.targetSelectors, rfl, rfl⟩

namespace CheckArgs

/-- What is asked for is done with a profile. -/
def Concerned (a : CheckArgs) : Prop :=
  a.validate = true ∨ a.sources.allowListFile.isSome = true ∨ a.sources.ruleFile.isSome = true ∨
    a.sources.targetSelectors.isSome = true

variable {env : Environment} {words : List String} {a : CheckArgs} {t : Selection}

/-- Words are accepted if they are written so, and a profile is given if one is needed. -/
theorem ofWords_eq_ok_iff : ofWords env words = .ok a ↔ ∃ t, Selection.Reads {} words t ∧
    (t.needsProfile = true → (t.values.lookup .profile).isSome = true) ∧
      a = .ofSelection t env := by
  unfold ofWords
  rw [bind_eq_ok_iff]
  refine exists_congr fun t => and_congr (Selection.read_eq_ok_iff rfl) ?_
  split
  · next missing =>
      obtain ⟨needs, none⟩ := Bool.and_eq_true_iff.mp missing
      refine iff_of_false nofun fun h => ?_
      rw [Option.isNone_iff_eq_none.mp none] at h
      cases h.1 needs
  · next complete =>
      refine ⟨fun is => ⟨fun needs => ?_, (Except.ok.inj is).symm⟩, fun h => congrArg _ h.2.symm⟩
      cases given : t.values.lookup .profile with
      | none => simp [needs, given] at complete
      | some name => rfl

theorem needsProfile_of_has (has : t.Has (.flag .validate) ∨
    ∃ o : CheckOption, o.needsProfile = true ∧ t.Has (.option o)) : t.needsProfile = true := by
  rw [Selection.needsProfile, Bool.or_eq_true]
  refine has.imp List.contains_iff_mem.mpr fun option => ?_
  obtain ⟨o, needs, value, member⟩ := option
  exact List.any_eq_true.mpr ⟨(o, value), member, needs⟩

theorem mem_of_lookup {o : CheckOption} {value : String} (given : t.values.lookup o = some value) :
    (o, value) ∈ t.values := by
  obtain ⟨before, behind, all, -⟩ := List.lookup_eq_some_iff.mp given
  rw [all]
  exact List.mem_append_right before List.mem_cons_self

/-- An option without a variable has the value that is selected. -/
theorem has_of_value? {o : CheckOption} (unset : o.fallback? = none)
    (given : (t.value? env o).isSome = true) : t.Has (.option o) := by
  obtain ⟨value, given⟩ := Option.isSome_iff_exists.mp given
  rw [Selection.value?, unset] at given
  exact ⟨value, mem_of_lookup ((Option.or_none ..).symm.trans given)⟩

theorem Concerned.needsProfile (concerned : (ofSelection t env).Concerned) :
    t.needsProfile = true := by
  refine needsProfile_of_has ?_
  rcases concerned with validate | given | given | given
  · exact .inl (List.contains_iff_mem.mp validate)
  · exact .inr ⟨.allowListFile, rfl, has_of_value? rfl given⟩
  · exact .inr ⟨.ruleFile, rfl, has_of_value? rfl given⟩
  · exact .inr ⟨.targetSelectors, rfl, has_of_value? rfl given⟩

theorem ofName?_cases {name : String} {p : CollectionProfile}
    (found : CollectionProfile.ofName? name false = some p) :
    p ∈ CollectionProfile.all ∧ p.name = name := by
  have same := List.find?_some found
  exact ⟨List.mem_of_find?_eq_some found, beq_iff_eq.mp same⟩

/-- A profile that is selected is one that there is. -/
theorem exists_of_selected (reads : Selection.Reads {} words t) {name : String}
    (member : (.profile, name) ∈ t.values) : ∃ p ∈ CollectionProfile.all,
      CollectionProfile.ofName? name false = some p ∧ Supplies .profile p.name words := by
  rcases reads.fromWords member with none | ⟨admitted, supplies⟩
  · cases none
  · obtain ⟨p, found⟩ := Option.isSome_iff_exists.mp admitted
    obtain ⟨known, is⟩ := ofName?_cases found
    exact ⟨p, known, found, is ▸ supplies rfl⟩

/-- What is accepted and done with a profile is done with one that the words name. -/
theorem exists_profile (accepted : ofWords env words = .ok a) (concerned : a.Concerned) :
    ∃ p ∈ CollectionProfile.all, a.profile = some p ∧ Supplies .profile p.name words := by
  obtain ⟨t, reads, given, rfl⟩ := ofWords_eq_ok_iff.mp accepted
  obtain ⟨name, given⟩ := Option.isSome_iff_exists.mp (given concerned.needsProfile)
  obtain ⟨p, known, found, supplies⟩ := exists_of_selected reads (mem_of_lookup given)
  have value : t.value? env .profile = some name := by
    rw [Selection.value?, given]
    rfl
  refine ⟨p, known, ?_, supplies⟩
  change (t.value? env .profile >>= (CollectionProfile.ofName? · false)) = some p
  rw [value]
  exact found

/-- Words that name no profile that there is are not accepted. -/
theorem not_accepted (wrong : Unprofiled words) : ofWords env words ≠ .ok a := by
  intro accepted
  obtain ⟨t, reads, given, -⟩ := ofWords_eq_ok_iff.mp accepted
  cases wrong with
  | @unknown name supplies none =>
      obtain ⟨p, known, found, -⟩ := exists_of_selected reads (reads.supplied supplies)
      exact none p known (ofName?_cases found).2
  | missing member mentions unnamed =>
      have needs : t.needsProfile = true := by
        refine needsProfile_of_has ?_
        rcases profiled_cases member with rfl | ⟨o, needs, rfl⟩
        · exact .inl (reads.has mentions)
        · exact .inr ⟨o, needs, reads.has mentions⟩
      obtain ⟨name, given⟩ := Option.isSome_iff_exists.mp (given needs)
      obtain ⟨p, -, -, supplies⟩ := exists_of_selected reads (mem_of_lookup given)
      exact unnamed supplies.mentions

/-- Help is given to those who ask for it before anything is wrong, and to no one else. -/
theorem isRequest_iff {e : UsageError} (failed : ofWords env words = .error e) :
    e.isRequest = true ↔ Selection.AsksHelp {} words := by
  rw [← Selection.read_eq_help_iff rfl]
  constructor
  · intro request
    rcases bind_eq_error_iff.mp failed with failed | ⟨t, -, failed⟩
    · rw [failed, Selection.eq_help_of_request failed request rfl]
    · split at failed
      · cases failed
        cases request
      · cases failed
  · intro read
    rw [ofWords, read] at failed
    cases failed
    rfl

/-- Words that name no profile that there is are not carried out, whatever there is to be read or to
be reached: the files are left as they are. -/
theorem usage (wrong : Unprofiled words) : ∃ e, ofWords env words = .error e ∧
    (e.isRequest = true ↔ Selection.AsksHelp {} words) ∧
    ∀ w files, runProgram w env ("check" :: words) files = .ofUsage e files := by
  cases read : ofWords env words with
  | ok a => exact absurd read (not_accepted wrong)
  | error e =>
      refine ⟨e, rfl, isRequest_iff read, fun w files => ?_⟩
      rw [runProgram, Command.ofWords, read]
      rfl

end CheckArgs

end ProfileAudit
