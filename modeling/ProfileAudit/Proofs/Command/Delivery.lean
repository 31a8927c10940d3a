import ProfileAudit.Proofs.Command.Operations
import ProfileAudit.Proofs.Directory
import ProfileAudit.Proofs.Steady

/-!
# What an operation delivers

An operation gathers what it has to report, takes the local time for the names, and then writes and
tells. Nothing is asked any more once it writes. So what an operation delivers is settled by the
replies, by the files that it reads, and by the time (`CheckOperation.exists_made`).
-/

namespace ProfileAudit

open FileTree

/-! ## Names of reports -/

/-- A name of a report without the time in it: the stem, and the extension. -/
abbrev ReportKind := String × String

/-- The name of a report that is made at some time. -/
def ReportKind.name (kind : ReportKind) (time : Timestamp) : String :=
  s!"{kind.1}-{time.text}.{kind.2}"

theorem reportPath_eq (dir stem extension : String) (time : Timestamp) :
    reportPath dir stem extension time = Path.join dir (ReportKind.name (stem, extension) time) :=
  rfl

theorem Timestamp.whole_padded (digits n : Nat) : '/' ∉ (padded digits n).toList := by
  intro slash
  rw [padded, String.toList_ofList] at slash
  rcases List.mem_append.mp slash with zero | digit
  · cases List.eq_of_mem_replicate zero
  · cases Nat.isDigit_of_mem_toDigits (by decide) (by decide) digit

theorem Timestamp.whole_text (t : Timestamp) : '/' ∉ t.text.toList := by
  have year : '/' ∉ (yearText t.year).toList := by
    have digits := whole_padded 4 t.year.natAbs
    unfold yearText
    dsimp only
    split
    · simpa using digits
    · split
      · simpa using digits
      · exact digits
  simp only [text, String.toList_append, List.mem_append, not_or]
  simp [year, whole_padded]

/-- The stem and the extension can stand in the name of a file. -/
def ReportKind.IsPlain (kind : ReportKind) : Prop :=
  '/' ∉ kind.1.toList ∧ '/' ∉ kind.2.toList

instance (kind : ReportKind) : Decidable kind.IsPlain := inferInstanceAs (Decidable (_ ∧ _))

theorem ReportKind.toList_name (kind : ReportKind) (time : Timestamp) : (kind.name time).toList =
    kind.1.toList ++ '-' :: time.text.toList ++ '.' :: kind.2.toList := by
  simp [name, toString]

theorem ReportKind.IsPlain.isName {kind : ReportKind} (plain : kind.IsPlain) (time : Timestamp) :
    Path.IsName (kind.name time) := by
  have dash : '-' ∈ (kind.name time).toList := by simp [kind.toList_name]
  refine ⟨?_, ?_, ?_, ?_⟩
  · rw [kind.toList_name]
    simp [plain.1, plain.2, time.whole_text]
  all_goals
    intro same
    rw [same] at dash
    revert dash
    decide

/-- The stem of neither kind begins with that of the other one. -/
def ReportKind.Apart (kind other : ReportKind) : Prop :=
  ¬ kind.1.toList <+: other.1.toList ∧ ¬ other.1.toList <+: kind.1.toList

instance (kind other : ReportKind) : Decidable (kind.Apart other) :=
  inferInstanceAs (Decidable (_ ∧ _))

/-- Reports of kinds that are apart have different names, whenever they are made. -/
theorem ReportKind.Apart.name_ne {kind other : ReportKind} (apart : kind.Apart other)
    (time time' : Timestamp) : kind.name time ≠ other.name time' := by
  intro same
  have begins (k : ReportKind) (t : Timestamp) : k.1.toList <+: (k.name t).toList := by
    rw [k.toList_name, List.append_assoc]
    exact List.prefix_append _ _
  have first := begins kind time
  rw [same] at first
  rcases List.prefix_or_prefix_of_prefix first (begins other time') with shorter | longer
  · exact apart.1 shorter
  · exact apart.2 longer

/-! ## Products -/

/-- What is written and told at some time. -/
structure Product (kinds : List ReportKind) where
  reports : Timestamp → List (String × String)
  lines : Timestamp → List String
  named : ∀ time, ((reports time).map (·.1)).Sublist (kinds.map (·.name time))

section

variable {kinds : List ReportKind}

/-- The reports, if there is a product. -/
def reportsOf (made : Except Failure (Product kinds)) (time : Timestamp) :
    List (String × String) :=
  match made with
  | .ok product => product.reports time
  | .error _ => []

theorem named_reportsOf (made : Except Failure (Product kinds)) (time : Timestamp) :
    ((reportsOf made time).map (·.1)).Sublist (kinds.map (·.name time)) := by
  cases made with
  | ok product => exact product.named time
  | error f => exact List.nil_sublist _

/-- What comes of a product, by what comes of its reports. -/
def toldOf (made : Except Failure (Product kinds)) (time : Timestamp)
    (written : Except Failure Unit) : Except Failure (List String) := do
  let product ← made
  written
  return product.lines time

/-- Writes the reports of a product, and tells about it. -/
def deliver (dir : String) (made : Except Failure (Product kinds)) (time : Timestamp)
    (t : FileTree) : FileTree × Except Failure (List String) :=
  ((writeReports dir (reportsOf made time) t).1,
    toldOf made time (writeReports dir (reportsOf made time) t).2)

/-- Gathers for a product in two steps, takes the time between them, and delivers. -/
def delivery {α β : Type} (dir : String) (gather : Audit α) (more : α → Audit β)
    (product : α → β → Product kinds) : Audit (List String) := do
  let a ← gather
  let time ← Audit.localTime
  let b ← more a
  Audit.onFiles (writeReports dir ((product a b).reports time))
  return (product a b).lines time

/-- Work on files goes on if it has succeeded. -/
theorem Audit.onFiles_bind (f g : FileTree → FileTree × Except Failure Unit) :
    (do
      Audit.onFiles f
      Audit.onFiles g) = Audit.onFiles fun t => goOn g (f t) := by
  funext s j
  rw [Audit.bind_apply]
  simp only [Audit.onFiles, Audit.ofStep]
  rcases f j.files with ⟨t, f | _⟩ <;> rfl

theorem delivery_apply {α β : Type} (dir : String) (gather : Audit α) (more : α → Audit β)
    (product : α → β → Product kinds) (s : Surroundings) (j : Journal) :
    delivery dir gather more product s j = match gather s j with
      | (.error f, k) => (.error f, k)
      | (.ok a, k) => match more a s k with
        | (.error f, l) => (.error f, l)
        | (.ok b, l) =>
          let written :=
            writeReports dir ((product a b).reports (s.localTime k.clock.now)) l.files
          (written.2.map fun _ => (product a b).lines (s.localTime k.clock.now),
            { l with files := written.1 }) := by
  unfold delivery
  rw [Audit.bind_apply]
  generalize gather s j = ending
  obtain ⟨f | a, k⟩ := ending
  · rfl
  · simp only [Audit.localTime, Audit.ofStep, Audit.bind_apply, Audit.onFiles]
    generalize more a s k = ending
    obtain ⟨f | b, l⟩ := ending
    · rfl
    · dsimp only
      generalize writeReports dir ((product a b).reports (s.localTime k.clock.now)) l.files =
      written
      obtain ⟨t, f | _⟩ := written <;> rfl

/-- From any journal, unless the run is over at the end, the part delivers a product at some time.
-/
def Delivers (s : Surroundings) (part : Audit (List String)) (dir : String)
    (made : FileTree → Except Failure (Product kinds)) : Prop :=
  ∀ j, s.context.isOver (part s j).2.clock = false → ∃ time clock calls,
    part s j = ((deliver dir (made j.files) (s.localTime time) j.files).2,
      { j with clock, calls, files := (deliver dir (made j.files) (s.localTime time) j.files).1 })

/-- What is gathered settles what is delivered. -/
theorem Foretold.delivers {α β : Type} {s : Surroundings} {gather : Audit α}
    {more : α → Audit β} {result : FileTree → Except Failure α}
    {results : α → FileTree → Except Failure β} (gathers : Foretold s gather result)
    (adds : ∀ a, Foretold s (more a) (results a)) (dir : String)
    (product : α → β → Product kinds) :
    Delivers s (delivery dir gather more product) dir fun files =>
      result files >>= fun a => (results a files).map (product a) := by
  intro j running
  obtain ⟨r, clock, calls, ends, goes, told⟩ := gathers j
  rw [delivery_apply, ends] at running ⊢
  cases r with
  | error f =>
      have first : result j.files = .error f := (told running).symm
      refine ⟨0, clock, calls, ?_⟩
      beta_reduce
      rw [first]
      rfl
  | ok a =>
      obtain ⟨r', clock', calls', ends', goes', told'⟩ := adds a { j with clock, calls }
      dsimp only at running ⊢
      rw [ends'] at running ⊢
      have still : s.context.isOver clock' = false := by
        cases r' with
        | error f => exact running
        | ok b => exact running
      have first : result j.files = .ok a := (told (RunContext.running_of_goesTo goes' still)).symm
      have second : results a j.files = r' := (told' still).symm
      have settled : (result j.files >>= fun a => (results a j.files).map (product a)) =
          r'.map (product a) := by
        rw [first, ← second]
        rfl
      refine ⟨clock.now, clock', calls', ?_⟩
      rw [settled]
      cases r' with
      | error f => rfl
      | ok b => rfl

/-- What is delivered is the same wherever the replies are the same. -/
theorem Agree.delivers {α β γ : Type} {replies : Replies} {view : FileTree → γ}
    {gather : Venue → Audit α} {more : Venue → α → Audit β} {part : Venue → Audit (List String)}
    {dir : String} (product : α → β → Product kinds) (gathers : Agree replies view gather)
    (adds : ∀ a, Agree replies view fun v => more v a)
    (is : ∀ v, part v = delivery dir (gather v) (more v) product) :
    ∃ made : γ → Except Failure (Product kinds), ∀ v : Venue, v.Gives replies →
      Delivers v.surroundings (part v) dir fun files => made (view files) := by
  obtain ⟨result, told⟩ := gathers
  choose results told' using adds
  refine ⟨fun seen => result seen >>= fun a => (results a seen).map (product a), fun v gives => ?_⟩
  rw [is]
  exact (told v gives).delivers (fun a => told' a v gives) dir product

end

/-! ## Reports with a table -/

/-- A report, if there is anything in it, and a line that tells where it is. -/
def Product.ofReport (dir stem : String) (line : Option String → String) (report : TableReport) :
    Product [(stem, "log")] where
  reports time :=
    if report.rows = [] then []
    else [(ReportKind.name (stem, "log") time, (report.sink "").render)]
  lines time := [line (if report.rows = [] then none else some (reportPath dir stem "log" time))]
  named time := by
    split
    · exact List.nil_sublist _
    · exact .refl _

/-- Goes on if a report fits into its table, and panics otherwise. -/
def TableReport.fitting (report : TableReport) : Audit Unit :=
  Audit.orPanic (if report.Fits then some () else none)

theorem Agree.fitting {γ : Type} {replies : Replies} {view : FileTree → γ}
    (report : TableReport) : Agree replies view fun _ => report.fitting :=
  .ofResult _

theorem writeReport_eq_delivery (dir stem : String) (line : Option String → String)
    (gather : Audit TableReport) :
    (do
      let path ← gather >>= writeReport dir stem
      return [line path]) =
      delivery dir gather TableReport.fitting fun report _ => .ofReport dir stem line report := by
  funext s j
  rw [bind_assoc, Audit.bind_apply, delivery_apply]
  generalize gather s j = ending
  obtain ⟨f | report, k⟩ := ending
  · rfl
  · dsimp only
    rw [Audit.bind_apply, writeReport_apply]
    by_cases fits : report.Fits
    · have laid := report.laysOut_iff_fits.mpr fits
      rw [TableReport.fitting, if_pos fits]
      by_cases none : report.rows = []
      · rw [ReportSink.finish_of_empty none]
        simp only [Product.ofReport, if_pos none]
        rfl
      · rw [ReportSink.finish_of_rows none laid]
        simp only [Product.ofReport, if_neg none, Audit.orPanic, Audit.ofResult, Audit.ofStep,
          Option.elim_some, writeReports_singleton]
        have path_only (path : String) : (report.sink path).render = (report.sink "").render := rfl
        rw [path_only, reportPath_eq]
        generalize (report.sink "").render = text
        dsimp only [TableReport.sink]
        rcases k.files.writeArtifact _ text with ⟨t, f | _⟩ <;> rfl
    · rw [TableReport.fitting, if_neg fits, TableReport.finish_of_wide fits]
      rfl

/-! ## Operations -/

namespace CollectionProfile

/-- The stem of the report on the counts of an extraction. -/
def cardinalityStem (p : CollectionProfile) : String :=
  s!"{p.name}-profile-extractor-cardinality-statistics"

/-- The stem of the relabeling that an extraction makes. -/
def relabelStem (p : CollectionProfile) : String :=
  s!"{p.name}-profile-extractor-relabel-config"

/-- The name of the counts that an extraction writes at some time. -/
def countsName (p : CollectionProfile) (time : Timestamp) : String :=
  ReportKind.name (p.cardinalityStem, "log") time

/-- The name of the relabeling that an extraction writes at some time. -/
def relabelName (p : CollectionProfile) (time : Timestamp) : String :=
  ReportKind.name (p.relabelStem, "yaml") time

/-- The table of counts that is written, if there is one. -/
def countsReport (p : CollectionProfile) (counts : Option String) (time : Timestamp) :
    List (String × String) := (counts.map (p.countsName time, ·)).toList

/-- The relabeling that is written for some metrics. -/
def relabelText (metrics : NameSet) : String := (KeepRelabelConfig.ofMetrics metrics).toYaml

/-- What an extraction makes at some time. -/
def outcome (p : CollectionProfile) (dir : String) (metrics : NameSet)
    (counts : Option String) (time : Timestamp) : ExtractionOutcome where
  metrics := metrics
  relabelConfig := Path.join dir (p.relabelName time)
  cardinalityReport := counts.map fun _ => Path.join dir (p.countsName time)

/-- Counts some metrics and lays the counts out, if that is wanted. -/
def counting (b : Backend) (metrics : NameSet) (withCardinality : Bool) : Audit (Option String) :=
  if withCardinality then do
    let records ← evaluateCardinality b metrics
    some <$> Audit.orPanic (cardinalityTable? records)
  else pure none

/-- An extraction gathers first, and then writes everything in one go. -/
theorem extract_eq (p : CollectionProfile) (b : Backend) (sources : ExtractSources)
    (settings : ProfileSettings) (withCardinality : Bool) :
    p.extract b sources settings withCardinality = (do
      let metrics ← extractMetricSet b sources
      let time ← Audit.localTime
      let counts ← counting b metrics withCardinality
      Audit.onFiles (writeReports settings.reportDir
        (p.countsReport counts time ++ [(p.relabelName time, relabelText metrics)]))
      return p.outcome settings.reportDir metrics counts time) := by
  refine congrArg _ (funext fun metrics => congrArg _ (funext fun time => ?_))
  cases withCardinality with
  | false =>
      simp only [counting, Bool.false_eq_true, if_false, pure_bind]
      refine congrArg (Audit.onFiles · >>= _) (funext fun t => ?_)
      exact (writeReports_singleton _ _ _ t).symm
  | true =>
      simp only [counting, if_true, reportCardinality, map_bind, map_pure, bind_assoc, pure_bind,
        bind_map_left]
      refine congrArg _ (funext fun records => congrArg _ (funext fun table => ?_))
      rw [← bind_assoc, Audit.onFiles_bind]
      refine congrArg (Audit.onFiles · >>= _) (funext fun t => ?_)
      refine .trans ?_ (writeReports_cons _ _ _ _ t).symm
      exact congrArg (goOn · _) (funext fun t => (writeReports_singleton _ _ _ t).symm)

end CollectionProfile

namespace CheckOperation

open CollectionProfile

/-- The kinds of reports that an operation may write. -/
def kinds : CheckOperation → List ReportKind
  | validation => [(minimal.validationStem, "log")]
  | extraction => [(minimal.cardinalityStem, "log"), (minimal.relabelStem, "yaml")]
  | status => [("implementation-status", "log")]

/-- What an operation sees of the files. -/
def view (a : CheckArgs) : CheckOperation → FileTree → Except Failure NameSet
  | extraction => a.sources.reading
  | _ => fun _ => .ok .empty

theorem isPlain_kinds : ∀ o : CheckOperation, ∀ kind ∈ o.kinds, kind.IsPlain := by
  intro o
  cases o <;> decide

/-- Reports of two operations have different names, and so do those of one. -/
theorem pairwise_kinds : (all.flatMap kinds).Pairwise ReportKind.Apart := by
  decide

variable {a : CheckArgs} {settings : ProfileSettings} {replies : Replies}

/-- What an extraction makes of its metrics, and of their counts if these are wanted. -/
def extracted (settings : ProfileSettings) (metrics : NameSet)
    (counts : Option String) : Product extraction.kinds where
  reports time :=
    (counts.map (ReportKind.name (minimal.cardinalityStem, "log") time, ·)).toList ++
    [(ReportKind.name (minimal.relabelStem, "yaml") time,
      (KeepRelabelConfig.ofMetrics metrics).toYaml)]
  lines time := extractionLines
    { metrics
      relabelConfig := reportPath settings.reportDir minimal.relabelStem "yaml" time
      cardinalityReport := counts.map fun _ =>
        reportPath settings.reportDir minimal.cardinalityStem "log" time }
  named time := by
    cases counts with
    | none => exact (List.Sublist.refl _).cons _
    | some table => exact .refl _

theorem extract_eq_delivery (b : Backend) (sources : ExtractSources) (withCardinality : Bool) :
    (do
      let o ← minimal.extract b sources settings withCardinality
      return extractionLines o) =
      delivery settings.reportDir (extractMetricSet b sources)
        (counting b · withCardinality) (extracted settings) := by
  simp only [extract_eq, delivery, bind_assoc, pure_bind]
  rfl

/-- No profile but the minimal one is validated, or has metrics extracted. -/
theorem eq_minimal_of_profileFor {can : CollectionProfile → Bool} (not_full : can full = false)
    {what : String} {p : CollectionProfile} (ok : a.profileFor can what = .ok p) : p = minimal := by
  unfold CheckArgs.profileFor at ok
  split at ok
  · next q given =>
      cases ok
      have able := (Option.filter_eq_some_iff.mp given).2
      cases p with
      | full => cases not_full.symm.trans able
      | minimal => rfl
  · cases ok

/-- An operation that has no profile to work on fails at once, and one that has works on the minimal
one. -/
theorem exists_made_of_profile {o : CheckOperation} {can : CollectionProfile → Bool}
    {what : String} {work : Venue → CollectionProfile → Audit (List String)} {dir : String}
    (not_full : can full = false) (a : CheckArgs)
    (works : ∃ made : Except Failure NameSet → Except Failure (Product o.kinds),
      ∀ v : Venue, v.Gives replies →
        Delivers v.surroundings (work v minimal) dir fun files => made (o.view a files)) :
    ∃ made : Except Failure NameSet → Except Failure (Product o.kinds),
      ∀ v : Venue, v.Gives replies →
        Delivers v.surroundings (Audit.ofResult (a.profileFor can what) >>= work v) dir
          fun files => made (o.view a files) := by
  cases given : a.profileFor can what with
  | error f => exact ⟨fun _ => .error f, fun v _ j _ => ⟨0, j.clock, j.calls, rfl⟩⟩
  | ok p =>
      obtain rfl := eq_minimal_of_profileFor not_full given
      exact works

/-- **The replies, the files that are read, and the time settle what an operation delivers.** -/
theorem exists_made (o : CheckOperation) (a : CheckArgs) (settings : ProfileSettings)
    (replies : Replies) : ∃ made : Except Failure NameSet → Except Failure (Product o.kinds),
      ∀ v : Venue, v.Gives replies → Delivers v.surroundings
        (o.part a v.backend settings v.source) settings.reportDir fun files =>
          made (o.view a files) := by
  cases o with
  | validation =>
      simp only [part, CheckArgs.validation_eq]
      refine exists_made_of_profile rfl a (Agree.delivers
        (fun report _ => .ofReport settings.reportDir minimal.validationStem validationLine report)
        (.validationReport minimal settings) .fitting fun v => ?_)
      rw [validate_eq]
      exact writeReport_eq_delivery _ _ _ _
  | extraction =>
      simp only [part, CheckArgs.extraction_eq]
      refine exists_made_of_profile rfl a (Agree.delivers (extracted settings)
        (.extractMetricSet a.sources) (fun metrics => ?_)
        fun v => extract_eq_delivery v.backend a.sources a.outputCardinality)
      cases a.outputCardinality with
      | false => exact .pure none
      | true => exact .bind (.count metrics) fun _ => .map (.ofResult _)
  | status =>
      simp only [part, CheckArgs.statusReport_eq]
      refine Agree.delivers
        (fun report _ => .ofReport settings.reportDir "implementation-status" statusLine report)
        (.missingReport settings a.profile) .fitting fun v => ?_
      rw [reportStatus_eq]
      exact writeReport_eq_delivery _ _ _ _

end CheckOperation

end ProfileAudit
