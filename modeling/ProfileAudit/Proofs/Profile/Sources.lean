import ProfileAudit.Profile.Extract
import ProfileAudit.Proofs.RuleFile
import ProfileAudit.Proofs.Run

/-!
# What the sources of an extraction give

An extraction goes by steps: the target selector is checked, the list and the rules are read, and
then the backend is asked. It succeeds if all steps do, with the union of what each source gives
alone; otherwise it fails as the first step that fails (`extractMetricSet_steps`). Before the last
step everything is read (`extractMetricSet_eq`), so a failure up to there leaves the backend alone.
-/

namespace ProfileAudit

namespace ExtractSources

/-! ## Steps -/

/-- The check of the target selector, if there is one. -/
def check (sources : ExtractSources) : Except Failure Unit :=
  match sources.targetSelectors with
  | some selector => checkTargetSelector selector
  | none => .ok ()

/-- What a file gives, and nothing if none is named. -/
def ofFile (file : Option String) (metrics : String → Except Failure NameSet) :
    Except Failure NameSet :=
  match file with
  | some path => metrics path
  | none => .ok .empty

/-- What the files give, after the check. -/
def reading (sources : ExtractSources) (files : FileTree) : Except Failure NameSet := do
  sources.check
  let allowed ← ofFile sources.allowListFile (metricsInAllowList files)
  let ruled ← ofFile sources.ruleFile (metricsInRuleFile files)
  return allowed.union ruled

/-- How the wait for the metadata of some targets ends under the context of the run. -/
def metadata (b : Backend) (s : Surroundings) (j : Journal) (selector : String) :
    Except Failure (List TargetMetadata) :=
  (s.context.guard "fetching target metadata"
    (b.metadata { matchTarget := some selector } (j.ready s).moment) (j.ready s).clock).1

/-- What the targets give. -/
def asking (sources : ExtractSources) (b : Backend) (s : Surroundings) (j : Journal) :
    Except Failure NameSet :=
  match sources.targetSelectors with
  | some selector => (metadata b s j selector).map fun found => .ofList (found.map (·.metric))
  | none => .ok .empty

/-! ## Conditions -/

/-- The target selector passes the strict reading. -/
def Checked (sources : ExtractSources) : Prop :=
  ∀ selector ∈ sources.targetSelectors, ∃ names, Query.strictMetrics selector = .ok names

/-- The list can be read, and it is one. -/
def Listed (sources : ExtractSources) (files : FileTree) : Prop :=
  ∀ path ∈ sources.allowListFile, ∃ text, files.read path = .ok text ∧
    ∃ names, allowListOfText? text = some names

/-- The rules can be read, and they are in order. -/
def Ruled (sources : ExtractSources) (files : FileTree) : Prop :=
  ∀ path ∈ sources.ruleFile, ∃ text, files.read path = .ok text ∧
    ∃ groups, RuleGroup.listOfText? text = some groups ∧ RuleGroup.InOrder groups

/-- All steps before the backend is asked succeed. -/
structure Ready (sources : ExtractSources) (files : FileTree) : Prop where
  checked : sources.Checked
  listed : sources.Listed files
  ruled : sources.Ruled files

/-- The backend answers under the context of the run. -/
def Answered (sources : ExtractSources) (b : Backend) (s : Surroundings) (j : Journal) : Prop :=
  ∀ selector ∈ sources.targetSelectors, ∃ found, metadata b s j selector = .ok found

/-- The failure of the first step that fails. -/
inductive FailsFirst (sources : ExtractSources) (b : Backend) (s : Surroundings) (j : Journal) :
    Failure → Prop
  | refused {selector : String} {refusal : Query.Refusal} :
    selector ∈ sources.targetSelectors → Query.strictMetrics selector = .error refusal →
    FailsFirst sources b s j
      ⟨.query refusal, [s!"validating target selector '{selector}'"]⟩
  | unlisted {path : String} {failure : Failure} : sources.Checked →
    path ∈ sources.allowListFile → metricsInAllowList j.files path = .error failure →
    FailsFirst sources b s j failure
  | unruled {path : String} {failure : Failure} : sources.Checked → sources.Listed j.files →
    path ∈ sources.ruleFile → metricsInRuleFile j.files path = .error failure →
    FailsFirst sources b s j failure
  | unanswered {selector : String} {failure : Failure} : sources.Ready j.files →
    selector ∈ sources.targetSelectors → metadata b s j selector = .error failure →
    FailsFirst sources b s j failure

variable {sources : ExtractSources} {files : FileTree} {b : Backend} {s : Surroundings}
  {j : Journal} {failure : Failure}

theorem check_eq_ok_iff : sources.check = .ok () ↔ sources.Checked := by
  unfold check Checked
  cases sources.targetSelectors with
  | none => simp
  | some selector =>
      simp only [Option.mem_def, Option.some.injEq, forall_eq', checkTargetSelector]
      cases Query.strictMetrics selector <;> simp

theorem check_eq_error_iff : sources.check = .error failure ↔
    ∃ selector ∈ sources.targetSelectors, ∃ refusal,
      Query.strictMetrics selector = .error refusal ∧
      failure = ⟨.query refusal, [s!"validating target selector '{selector}'"]⟩ := by
  unfold check
  cases sources.targetSelectors with
  | none => simp
  | some selector =>
      simp only [Option.mem_def, Option.some.injEq, exists_eq_left', checkTargetSelector]
      cases Query.strictMetrics selector with
      | ok names => simp
      | error refusal =>
          simp only [Except.error.injEq, exists_eq_left']
          exact eq_comm

/-- The sources give the same if the files that they name hold the same. -/
theorem reading_congr {files' : FileTree}
    (listed : ∀ path ∈ sources.allowListFile, files.read path = files'.read path)
    (ruled : ∀ path ∈ sources.ruleFile, files.read path = files'.read path) :
    sources.reading files = sources.reading files' := by
  have allowed : ofFile sources.allowListFile (metricsInAllowList files) =
      ofFile sources.allowListFile (metricsInAllowList files') := by
    cases given : sources.allowListFile with
    | none => rfl
    | some path => simp only [ofFile, metricsInAllowList, FileTree.readFor, listed path given]
  have rules : ofFile sources.ruleFile (metricsInRuleFile files) =
      ofFile sources.ruleFile (metricsInRuleFile files') := by
    cases given : sources.ruleFile with
    | none => rfl
    | some path => simp only [ofFile, metricsInRuleFile, FileTree.readFor, ruled path given]
  simp only [reading, allowed, rules]

/-- A file that is not named is in order. -/
theorem exists_ofFile_iff {file : Option String} {metrics : String → Except Failure NameSet} :
    (∃ set, ofFile file metrics = .ok set) ↔
      ∀ path ∈ file, ∃ set, metrics path = .ok set := by
  cases file with
  | none => simp [ofFile]
  | some path => simp [ofFile]

theorem exists_metricsInAllowList_iff {path : String} :
    (∃ metrics, metricsInAllowList files path = .ok metrics) ↔
      ∃ text, files.read path = .ok text ∧ ∃ names, allowListOfText? text = some names := by
  simp only [metricsInAllowList, bind_eq_ok_iff, map_eq_ok_iff, readFor_eq_ok_iff,
    orFail_eq_ok_iff]
  constructor
  · rintro ⟨metrics, text, held, names, parsed, -⟩
    exact ⟨text, held, names, parsed⟩
  · rintro ⟨text, held, names, parsed⟩
    exact ⟨_, text, held, names, parsed, rfl⟩

theorem listed_iff : sources.Listed files ↔
    ∃ allowed, ofFile sources.allowListFile (metricsInAllowList files) = .ok allowed := by
  simp only [Listed, exists_ofFile_iff, exists_metricsInAllowList_iff]

theorem ruled_iff : sources.Ruled files ↔
    ∃ ruled, ofFile sources.ruleFile (metricsInRuleFile files) = .ok ruled := by
  simp only [Ruled, exists_ofFile_iff, exists_metricsInRuleFile_iff]

theorem ofFile_eq_error_iff {file : Option String} {metrics : String → Except Failure NameSet} :
    ofFile file metrics = .error failure ↔ ∃ path ∈ file, metrics path = .error failure := by
  cases file with
  | none => simp [ofFile]
  | some path => simp [ofFile]

theorem exists_asking_iff : (∃ set, sources.asking b s j = .ok set) ↔ sources.Answered b s j := by
  unfold asking Answered
  cases sources.targetSelectors with
  | none => simp
  | some selector =>
      simp only [Option.mem_def, Option.some.injEq, forall_eq', map_eq_ok_iff]
      constructor
      · rintro ⟨set, found, answered, -⟩
        exact ⟨found, answered⟩
      · rintro ⟨found, answered⟩
        exact ⟨_, found, answered, rfl⟩

theorem asking_eq_error_iff : sources.asking b s j = .error failure ↔
    ∃ selector ∈ sources.targetSelectors, metadata b s j selector = .error failure := by
  unfold asking
  cases sources.targetSelectors with
  | none => simp
  | some selector => simp [map_eq_error_iff]

theorem reading_eq_ok_iff {set : NameSet} : sources.reading files = .ok set ↔
    sources.check = .ok () ∧
      ∃ allowed, ofFile sources.allowListFile (metricsInAllowList files) = .ok allowed ∧
        ∃ ruled, ofFile sources.ruleFile (metricsInRuleFile files) = .ok ruled ∧
          allowed.union ruled = set := by
  simp only [reading, bind_eq_ok_iff, pure, Except.pure, Except.ok.injEq]
  exact ⟨fun ⟨_, rest⟩ => rest, fun rest => ⟨(), rest⟩⟩

theorem ready_iff : sources.Ready files ↔ ∃ set, sources.reading files = .ok set := by
  simp only [reading_eq_ok_iff]
  constructor
  · rintro ⟨checked, listed, ruled⟩
    obtain ⟨allowed, listed⟩ := listed_iff.mp listed
    obtain ⟨ruled, read⟩ := ruled_iff.mp ruled
    exact ⟨_, check_eq_ok_iff.mpr checked, allowed, listed, ruled, read, rfl⟩
  · rintro ⟨_, checked, allowed, listed, ruled, read, -⟩
    exact ⟨check_eq_ok_iff.mp checked, listed_iff.mpr ⟨allowed, listed⟩,
      ruled_iff.mpr ⟨ruled, read⟩⟩

theorem reading_eq_error_iff : sources.reading files = .error failure ↔
    sources.check = .error failure ∨ sources.Checked ∧
      (ofFile sources.allowListFile (metricsInAllowList files) = .error failure ∨
        sources.Listed files ∧
          ofFile sources.ruleFile (metricsInRuleFile files) = .error failure) := by
  have checked : (∃ done, sources.check = .ok done) ↔ sources.Checked :=
    exists_const Unit |>.trans check_eq_ok_iff
  simp only [reading, bind_eq_error_iff, pure, Except.pure, reduceCtorEq, and_false, exists_false,
    or_false, listed_iff, exists_and_right, checked]

end ExtractSources

open ExtractSources

/-! ## The whole -/

/-- Everything is read before the backend is asked. -/
theorem extractMetricSet_eq (b : Backend) (sources : ExtractSources) :
    extractMetricSet b sources = (do
      let found ← Audit.ofStep fun _ j => (sources.reading j.files, j)
      let targeted ← ofSource sources.targetSelectors (targetMetrics b)
      return found.union targeted) := by
  have read (source : Option String) (metrics : FileTree → String → Except Failure NameSet) :
      (ofSource source fun path => .ofStep fun _ j => (metrics j.files path, j)) =
        .ofStep fun _ j => (ofFile source (metrics j.files), j) := by
    cases source with
    | none => rfl
    | some path => rfl
  have files (targeted : Audit NameSet) : (do
      let allowed ← Audit.ofStep fun _ j =>
        (ofFile sources.allowListFile (metricsInAllowList j.files), j)
      let ruled ← Audit.ofStep fun _ j =>
        (ofFile sources.ruleFile (metricsInRuleFile j.files), j)
      let targeted ← targeted
      return (allowed.union ruled).union targeted) = (do
      let found ← Audit.ofStep fun _ j => ((do
        let allowed ← ofFile sources.allowListFile (metricsInAllowList j.files)
        let ruled ← ofFile sources.ruleFile (metricsInRuleFile j.files)
        return allowed.union ruled), j)
      let targeted ← targeted
      return found.union targeted) := by
    funext s j
    simp only [Audit.bind_apply, Audit.ofStep]
    cases ofFile sources.allowListFile (metricsInAllowList j.files) with
    | error _ => rfl
    | ok allowed =>
        dsimp only
        cases ofFile sources.ruleFile (metricsInRuleFile j.files) <;> rfl
  simp only [extractMetricSet, reading, check, read]
  cases sources.targetSelectors with
  | none => exact files (ofSource none _)
  | some selector =>
      simp only [files]
      funext s j
      rw [Audit.bind_apply]
      cases checkTargetSelector selector <;> rfl

variable {b : Backend} {sources : ExtractSources} {s : Surroundings} {j : Journal}

/-- A failure before the backend is asked leaves the journal as it is. -/
theorem extractMetricSet_of_error {failure : Failure}
    (failed : sources.reading j.files = .error failure) :
    extractMetricSet b sources s j = (.error failure, j) := by
  rw [extractMetricSet_eq, Audit.bind_apply]
  simp only [Audit.ofStep, failed]

theorem extractMetricSet_of_ok {found : NameSet} (read : sources.reading j.files = .ok found) :
    extractMetricSet b sources s j = (do
      let targeted ← ofSource sources.targetSelectors (targetMetrics b)
      return found.union targeted : Audit NameSet) s j := by
  rw [extractMetricSet_eq, Audit.bind_apply]
  simp only [Audit.ofStep, read]

/-- The result of an extraction, by the results of its steps. -/
theorem extractMetricSet_fst (b : Backend) (sources : ExtractSources) (s : Surroundings)
    (j : Journal) : (extractMetricSet b sources s j).1 = (do
      let found ← sources.reading j.files
      let targeted ← sources.asking b s j
      return found.union targeted) := by
  cases read : sources.reading j.files with
  | error failure => rw [extractMetricSet_of_error read]; rfl
  | ok found =>
      rw [extractMetricSet_of_ok read, Audit.fst_bind_pure]
      unfold asking
      cases sources.targetSelectors with
      | none => rfl
      | some selector =>
          have targeted : (targetMetrics b selector s j).1 =
            (metadata b s j selector).map fun found => .ofList (found.map (·.metric)) :=
            Audit.fst_bind_pure
          simp only [ofSource, targeted]
          rfl

theorem extractMetricSet_eq_ok_iff {metrics : NameSet} :
    (extractMetricSet b sources s j).1 = .ok metrics ↔ sources.check = .ok () ∧
      ∃ allowed, ofFile sources.allowListFile (metricsInAllowList j.files) = .ok allowed ∧
        ∃ ruled, ofFile sources.ruleFile (metricsInRuleFile j.files) = .ok ruled ∧
          ∃ targeted, sources.asking b s j = .ok targeted ∧
            (allowed.union ruled).union targeted = metrics := by
  rw [extractMetricSet_fst]
  simp only [bind_eq_ok_iff, reading_eq_ok_iff, pure, Except.pure, Except.ok.injEq]
  constructor
  · rintro ⟨_, ⟨checked, allowed, listed, ruled, read, rfl⟩, targeted, asked, rfl⟩
    exact ⟨checked, allowed, listed, ruled, read, targeted, asked, rfl⟩
  · rintro ⟨checked, allowed, listed, ruled, read, targeted, asked, rfl⟩
    exact ⟨_, ⟨checked, allowed, listed, ruled, read, rfl⟩, targeted, asked, rfl⟩

theorem extractMetricSet_eq_error_iff {failure : Failure} :
    (extractMetricSet b sources s j).1 = .error failure ↔
      sources.reading j.files = .error failure ∨
        sources.Ready j.files ∧ sources.asking b s j = .error failure := by
  rw [extractMetricSet_fst]
  simp only [bind_eq_error_iff, ready_iff, pure, Except.pure, reduceCtorEq, and_false,
    exists_false, or_false, exists_and_right]

/-- The calls of an extraction. -/
theorem extractMetricSet_calls (b : Backend) (sources : ExtractSources) (s : Surroundings)
    (j : Journal) : ∃ asked : List Call,
      (extractMetricSet b sources s j).2.calls = j.calls ++ asked ∧
      asked.length ≤ 1 ∧ ∀ c, c ∈ asked ↔ sources.Ready j.files ∧
        (j.ready s).clock.isCancelled = false ∧
        ∃ selector ∈ sources.targetSelectors, c = .metadata { matchTarget := some selector } := by
  cases read : sources.reading j.files with
  | error failure =>
      have unready : ¬ sources.Ready j.files := by
        rw [ready_iff, read]
        rintro ⟨set, ok⟩
        cases ok
      refine ⟨[], ?_, Nat.zero_le 1, fun c => ?_⟩
      · rw [extractMetricSet_of_error read, List.append_nil]
      · simp only [List.not_mem_nil, unready, false_and]
  | ok found =>
      have ready : sources.Ready j.files := ready_iff.mpr ⟨found, read⟩
      rw [extractMetricSet_of_ok read, Audit.snd_bind_pure]
      cases sources.targetSelectors with
      | none => exact ⟨[], (List.append_nil _).symm, Nat.zero_le 1, by simp⟩
      | some selector =>
          simp only [ofSource, targetMetrics, Audit.snd_bind_pure, ready, true_and, Option.mem_def,
            Option.some.injEq, exists_eq_left']
          cases cancelled : (j.ready s).clock.isCancelled with
          | true =>
              rw [Audit.call_of_cancelled cancelled]
              exact ⟨[], (List.append_nil _).symm, Nat.zero_le 1, by simp⟩
          | false =>
              rw [Audit.call_of_running cancelled]
              exact ⟨[_], rfl, Nat.le_refl 1, by simp⟩

/-! ## Sources alone -/

theorem extractMetricSet_listAlone {allowed : NameSet} :
    (extractMetricSet b { allowListFile := sources.allowListFile } s j).1 = .ok allowed ↔
      ofFile sources.allowListFile (metricsInAllowList j.files) = .ok allowed := by
  rw [extractMetricSet_eq_ok_iff]
  simp only [check, asking, ofFile, Except.ok.injEq, exists_eq_left', NameSet.union_empty,
    true_and, exists_eq_right]

theorem extractMetricSet_rulesAlone {ruled : NameSet} :
    (extractMetricSet b { ruleFile := sources.ruleFile } s j).1 = .ok ruled ↔
      ofFile sources.ruleFile (metricsInRuleFile j.files) = .ok ruled := by
  rw [extractMetricSet_eq_ok_iff]
  simp only [check, asking, ofFile, Except.ok.injEq, exists_eq_left', NameSet.union_empty,
    NameSet.empty_union, true_and, exists_eq_right]

theorem extractMetricSet_targetsAlone {targeted : NameSet} :
    (extractMetricSet b { targetSelectors := sources.targetSelectors } s j).1 = .ok targeted ↔
      sources.check = .ok () ∧ sources.asking b s j = .ok targeted := by
  rw [extractMetricSet_eq_ok_iff]
  simp only [check, asking, ofFile, Except.ok.injEq, exists_eq_left', NameSet.union_empty,
    NameSet.empty_union, exists_eq_right]

/-! ## Success and failure -/

theorem failsFirst_iff {failure : Failure} : sources.FailsFirst b s j failure ↔
    sources.reading j.files = .error failure ∨
      sources.Ready j.files ∧ sources.asking b s j = .error failure := by
  rw [reading_eq_error_iff, check_eq_error_iff, ofFile_eq_error_iff, ofFile_eq_error_iff,
    asking_eq_error_iff]
  constructor
  · rintro (⟨given, refused⟩ | ⟨checked, named, unlisted⟩ | ⟨checked, listed, named, unruled⟩ |
      ⟨ready, given, unanswered⟩)
    · exact .inl (.inl ⟨_, given, _, refused, rfl⟩)
    · exact .inl (.inr ⟨checked, .inl ⟨_, named, unlisted⟩⟩)
    · exact .inl (.inr ⟨checked, .inr ⟨listed, _, named, unruled⟩⟩)
    · exact .inr ⟨ready, _, given, unanswered⟩
  · rintro ((⟨selector, given, refusal, refused, rfl⟩ | ⟨checked, ⟨path, named, unlisted⟩ |
      ⟨listed, path, named, unruled⟩⟩) | ⟨ready, selector, given, unanswered⟩)
    · exact .refused given refused
    · exact .unlisted checked named unlisted
    · exact .unruled checked listed named unruled
    · exact .unanswered ready given unanswered

theorem exists_extractMetricSet_iff :
    (∃ metrics, (extractMetricSet b sources s j).1 = .ok metrics) ↔
      sources.Ready j.files ∧ sources.Answered b s j := by
  rw [extractMetricSet_fst, ready_iff, ← exists_asking_iff]
  simp only [bind_eq_ok_iff, pure, Except.pure, Except.ok.injEq]
  constructor
  · rintro ⟨metrics, found, read, targeted, asked, -⟩
    exact ⟨⟨found, read⟩, targeted, asked⟩
  · rintro ⟨⟨found, read⟩, targeted, asked⟩
    exact ⟨_, found, read, targeted, asked, rfl⟩

theorem extractMetricSet_eq_ok_iff_alone {metrics : NameSet} :
    (extractMetricSet b sources s j).1 = .ok metrics ↔ ∃ allowed ruled targeted,
      (extractMetricSet b { allowListFile := sources.allowListFile } s j).1 = .ok allowed ∧
      (extractMetricSet b { ruleFile := sources.ruleFile } s j).1 = .ok ruled ∧
      (extractMetricSet b { targetSelectors := sources.targetSelectors } s j).1 = .ok targeted ∧
      ∀ a, a ∈ metrics ↔ a ∈ allowed ∨ a ∈ ruled ∨ a ∈ targeted := by
  rw [extractMetricSet_eq_ok_iff]
  simp only [extractMetricSet_listAlone, extractMetricSet_rulesAlone,
    extractMetricSet_targetsAlone]
  have union (allowed ruled targeted : NameSet) :
      (allowed.union ruled).union targeted = metrics ↔
        ∀ a, a ∈ metrics ↔ a ∈ allowed ∨ a ∈ ruled ∨ a ∈ targeted := by
    have members (a : String) : a ∈ (allowed.union ruled).union targeted ↔
        a ∈ allowed ∨ a ∈ ruled ∨ a ∈ targeted := by
      rw [NameSet.mem_union, NameSet.mem_union, or_assoc]
    constructor
    · rintro rfl
      exact members
    · exact fun same => NameSet.eq_of_mem_iff fun a => (members a).trans (same a).symm
  simp only [union]
  constructor
  · rintro ⟨checked, allowed, listed, ruled, read, targeted, asked, same⟩
    exact ⟨allowed, ruled, targeted, listed, read, ⟨checked, asked⟩, same⟩
  · rintro ⟨allowed, ruled, targeted, listed, read, ⟨checked, asked⟩, same⟩
    exact ⟨checked, allowed, listed, ruled, read, targeted, asked, same⟩

end ProfileAudit
