import Mathlib.Data.Set.Basic
import ProfileAudit.Proofs.Command.Delivery
import ProfileAudit.Proofs.Profile.Sources

/-!
# What an extraction leaves behind

An extraction derives the metrics, counts them if it is asked to, and writes its reports in one go,
the relabeling as the last of them. So the relabeling is there if and only if the extraction has
succeeded, and what is in it stems from the sources alone: the counts have no part in it, and nor
has what becomes of the run after the metrics are derived (`extract_allOrNothing`). But counting may
be asked too much (`CollectionProfile.Overruns`), and then it ends the run in a panic before
anything is written.
-/

namespace ProfileAudit

open FileTree

namespace FileTree

variable {t u v : FileTree} {dir name path text : String} {places others : Set (List String)}
  {reports : List (String × String)}

/-! ## Files beside reports -/

/-- Both trees have the same files, but for some places. -/
def SameFilesBeside (places : Set (List String)) (t u : FileTree) : Prop :=
  ∀ place ∉ places, ∀ contents,
    t.node? place = some (.file contents) ↔ u.node? place = some (.file contents)

/-- The places of files of some names. -/
def placesOf (names : List String) : Set (List String) :=
  {place | ∃ name ∈ names, place.getLast? = some name}

theorem SameFiles.beside (same : t.SameFiles u) : t.SameFilesBeside places u :=
  fun place _ contents => same place contents

theorem SameFilesBeside.mono (same : t.SameFilesBeside places u) (wider : places ⊆ others) :
    t.SameFilesBeside others u :=
  fun place apart => same place fun member => apart (wider member)

theorem SameFilesBeside.trans (first : t.SameFilesBeside places u)
    (second : u.SameFilesBeside others v) : t.SameFilesBeside (places ∪ others) v := by
  intro place apart contents
  have here := first place (fun member => apart (.inl member)) contents
  exact here.trans (second place (fun member => apart (.inr member)) contents)

/-- The path leads to the place, and the file there holds the text. -/
def Holds (t : FileTree) (path : String) (place : List String) (text : String) : Prop :=
  t.read path = .ok text ∧
    t.locate (Path.isAbsolute path) (Path.components path) = .ok place ∧
    t.node? place = some (.file (.text text))

theorem exists_of_find {node : FileNode} (found : t.find path = .ok node) : ∃ place,
    t.locate (Path.isAbsolute path) (Path.components path) = .ok place ∧
      t.node? place = some node := by
  unfold find at found
  cases named : path.isEmpty with
  | true =>
      rw [named] at found
      cases found
  | false =>
      simp only [named, Bool.false_eq_true, if_false, bind_eq_ok_iff] at found
      obtain ⟨place, located, found⟩ := found
      split at found
      · cases found
      · next there =>
          cases found
          exact ⟨place, located, there⟩

theorem exists_holds (read : t.read path = .ok text) : ∃ place, t.Holds path place text := by
  have whole := read
  unfold FileTree.read at read
  obtain ⟨node, found, read⟩ := bind_eq_ok_iff.mp read
  obtain ⟨place, located, found⟩ := exists_of_find found
  split at read
  · cases read
  · split at read
    · cases read
    · split at read
      · cases read
        exact ⟨place, whole, located, found⟩
      · cases read

/-- The place of a report has its name. -/
theorem getLast?_of_locate_join (is : Path.IsName name) {place : List String}
    (located : t.locate (Path.isAbsolute (Path.join dir name))
      (Path.components (Path.join dir name)) = .ok place) : place.getLast? = some name := by
  rw [locate_join is] at located
  obtain ⟨above, -, same⟩ := bind_eq_ok_iff.mp located
  cases same
  exact List.getLast?_concat

/-- What becomes of a report: it is there, in its place, or all files stay as they are. -/
theorem settled_join (is : Path.IsName name) (t : FileTree) (dir text : String) :
    let written := t.writeArtifact (Path.join dir name) text
    (written.2 = .ok () ∧ ∃ place, place.getLast? = some name ∧
      written.1.Holds (Path.join dir name) place text ∧
      t.SameFilesBeside {place} written.1) ∨
    ∃ failure, written.2 = .error failure ∧ t.SameFiles written.1 := by
  rcases t.settled_writeArtifact (Path.join dir name) text with ⟨ok, -⟩ | failed
  · obtain ⟨held, place, located, same⟩ := wrote_writeArtifact ok
    obtain ⟨spot, holds⟩ := exists_holds held
    obtain rfl : place = spot := Except.ok.inj (located.symm.trans holds.2.1)
    have beside : t.SameFilesBeside {place} (t.writeArtifact (Path.join dir name) text).1 :=
      fun other apart => same other apart
    exact .inl ⟨ok, place, getLast?_of_locate_join is located, holds, beside⟩
  · exact .inr failed

/-- Whatever comes of a report, files of other names stay as they are. -/
theorem beside_writeArtifact (is : Path.IsName name) (t : FileTree) (dir text : String) :
    t.SameFilesBeside (placesOf [name]) (t.writeArtifact (Path.join dir name) text).1 := by
  rcases settled_join is t dir text with ⟨-, place, last, -, same⟩ | ⟨failure, -, same⟩
  · apply same.mono
    rintro other rfl
    exact ⟨name, List.mem_singleton_self name, last⟩
  · exact same.beside

theorem beside_writeReports (are : ∀ report ∈ reports, Path.IsName report.1) (dir : String)
    (t : FileTree) :
    t.SameFilesBeside (placesOf (reports.map (·.1))) (writeReports dir reports t).1 := by
  induction reports generalizing t with
  | nil => exact (SameFiles.refl t).beside
  | cons report reports ih =>
      obtain ⟨name, text⟩ := report
      obtain ⟨is, are⟩ := List.forall_mem_cons.mp are
      have first := beside_writeArtifact is t dir text
      have listed : placesOf [name] ⊆ placesOf ((name, text) :: reports |>.map (·.1)) := by
        rintro place ⟨own, member, last⟩
        rw [List.mem_singleton.mp member] at last
        exact ⟨name, List.mem_cons_self, last⟩
      have behind : placesOf (reports.map (·.1)) ⊆
          placesOf ((name, text) :: reports |>.map (·.1)) := by
        rintro place ⟨own, member, last⟩
        exact ⟨own, List.mem_cons_of_mem _ member, last⟩
      rw [writeReports_cons]
      generalize t.writeArtifact (Path.join dir name) text = written at first ⊢
      rcases written with ⟨u, failure | done⟩
      · exact first.mono listed
      · exact (first.trans (ih are u)).mono (Set.union_subset listed behind)

theorem writeReports_append (dir : String) (reports others : List (String × String))
    (t : FileTree) : writeReports dir (reports ++ others) t =
      goOn (writeReports dir others) (writeReports dir reports t) := by
  induction reports generalizing t with
  | nil => rfl
  | cons report reports ih =>
      rw [List.cons_append, writeReports_cons, writeReports_cons]
      rcases t.writeArtifact (Path.join dir report.1) report.2 with ⟨u, failure | done⟩
      · rfl
      · exact ih u

/-- The last report is there if all could be written; otherwise only the others may be. -/
theorem writeReports_concat (are : ∀ report ∈ reports, Path.IsName report.1)
    (is : Path.IsName name) (dir text : String) (t : FileTree) :
    let written := writeReports dir (reports ++ [(name, text)]) t
    (written.2 = .ok () ∧ ∃ place, place.getLast? = some name ∧
      written.1.Holds (Path.join dir name) place text ∧
      t.SameFilesBeside (placesOf (reports.map (·.1)) ∪ {place}) written.1) ∨
    ∃ failure, written.2 = .error failure ∧
      t.SameFilesBeside (placesOf (reports.map (·.1))) written.1 := by
  intro written
  have before := beside_writeReports are dir t
  have split : written = goOn (writeReports dir [(name, text)]) (writeReports dir reports t) :=
    writeReports_append dir reports [(name, text)] t
  rw [split]
  generalize writeReports dir reports t = others at before ⊢
  rcases others with ⟨u, failure | done⟩
  · exact .inr ⟨failure, rfl, before⟩
  · rw [goOn, writeReports_singleton]
    rcases settled_join is u dir text with ⟨ok, place, last, held, same⟩ | ⟨failure, failed, same⟩
    · exact .inl ⟨ok, place, last, held, before.trans same⟩
    · refine .inr ⟨failure, failed, ?_⟩
      have unchanged : u.SameFilesBeside ∅ (u.writeArtifact (Path.join dir name) text).1 :=
        same.beside
      exact (before.trans unchanged).mono (Set.union_empty _).le

/-! ## Directories that take reports -/

/-- Reports of some kinds can be written into the directory, whatever their time and text. -/
def Takes (t : FileTree) (dir : String) (kinds : List ReportKind) : Prop :=
  ∀ kind ∈ kinds, ∀ time text, (t.writeArtifact (Path.join dir (kind.name time)) text).2 = .ok ()

/-- A directory that can be made takes all reports. -/
theorem takes_of_makeAll {t u : FileTree} {dir : String} {place : List String}
    {kinds : List ReportKind} (plain : ∀ kind ∈ kinds, kind.IsPlain)
    (made : t.makeAll dir = (u, none)) (there : u.directory? dir = .ok place)
    (empty : ∀ name, u.node? (place ++ [name]) = none) : t.Takes dir kinds := by
  intro kind listed time text
  have is := (plain kind listed).isName time
  have written : u.write (Path.join dir (kind.name time)) text =
      .ok (u.put (place ++ [kind.name time]) (.file (.text text))) := by
    rw [write_join is, there]
    apply putFile_of_ne
    rw [empty]
    exact nofun
  rw [writeArtifact_join is, made]
  dsimp only
  rw [written]

theorem furnishable_of_writeArtifact (is : Path.IsName name)
    (ok : (t.writeArtifact (Path.join dir name) text).2 = .ok ()) : t.Furnishable dir := by
  rw [writeArtifact_join is] at ok
  generalize made : t.makeAll dir = attempt at ok
  rcases attempt with ⟨u, none | fault⟩
  · exact .inl (congrArg Prod.snd made)
  · cases ok

theorem Shelf.refusal?_eq_none (shelf : Shelf t dir) (is : Path.IsName name)
    (ok : (t.writeArtifact (Path.join dir name) text).2 = .ok ()) :
    shelf.refusal? name = none := by
  rw [shelf.first name text is] at ok
  have alone := shelf.next [] name text is nofun
  cases refused : shelf.refusal? name with
  | none => rfl
  | some failure =>
      rw [refused] at alone
      cases ok.symm.trans (congrArg Prod.snd alone)

theorem Shelf.result_of_accepted {shelf : Shelf t dir}
    (accepted : ∀ report ∈ reports, shelf.refusal? report.1 = none) :
    shelf.result reports = .ok () := by
  induction reports with
  | nil => rfl
  | cons report reports ih =>
      obtain ⟨accepted, rest⟩ := List.forall_mem_cons.mp accepted
      rw [Shelf.result, accepted]
      exact ih rest

/-- One report is not in the way of another: a directory that takes each of them takes all. -/
theorem writeReports_of_each (are : ∀ report ∈ reports, Path.IsName report.1)
    (each : ∀ report ∈ reports,
      (t.writeArtifact (Path.join dir report.1) report.2).2 = .ok ()) :
    (writeReports dir reports t).2 = .ok () := by
  cases reports with
  | nil => rfl
  | cons report reports =>
      have furnishable := furnishable_of_writeArtifact (are report List.mem_cons_self)
        (each report List.mem_cons_self)
      obtain ⟨shelf⟩ := exists_shelf furnishable
      rw [shelf.writeReports_first are (List.cons_ne_nil _ _)]
      apply Shelf.result_of_accepted
      intro other listed
      exact shelf.refusal?_eq_none (are other listed) (each other listed)

end FileTree

/-! ## Extractions -/

theorem extractMetricSet_files (b : Backend) (sources : ExtractSources) (s : Surroundings)
    (j : Journal) : (extractMetricSet b sources s j).2.files = j.files := by
  cases read : sources.reading j.files with
  | error failure => rw [extractMetricSet_of_error read]
  | ok found =>
      rw [extractMetricSet_of_ok read, Audit.snd_bind_pure]
      cases sources.targetSelectors with
      | none => rfl
      | some selector =>
          simp only [ofSource, targetMetrics, Audit.snd_bind_pure]
          rfl

namespace CollectionProfile

variable {p : CollectionProfile} {b : Backend} {sources : ExtractSources}
  {settings : ProfileSettings} {withCardinality : Bool} {s : Surroundings} {j k : Journal}
  {metrics : NameSet}

/-- What an extraction writes. -/
def extractionKinds (p : CollectionProfile) : List ReportKind :=
  [(p.cardinalityStem, "log"), (p.relabelStem, "yaml")]

theorem isPlain_extractionKinds : ∀ kind ∈ p.extractionKinds, kind.IsPlain := by
  cases p <;> decide

theorem isName_countsName (time : Timestamp) : Path.IsName (p.countsName time) :=
  (isPlain_extractionKinds _ List.mem_cons_self).isName time

theorem isName_relabelName (time : Timestamp) : Path.IsName (p.relabelName time) :=
  (isPlain_extractionKinds _ (List.mem_cons_of_mem _ List.mem_cons_self)).isName time

/-- A relabeling is never written in place of counts. -/
theorem countsName_ne_relabelName (time time' : Timestamp) :
    p.countsName time ≠ p.relabelName time' := by
  have apart : ReportKind.Apart (p.cardinalityStem, "log") (p.relabelStem, "yaml") := by
    cases p <;> decide
  exact apart.name_ne time time'

/-- What is counted of some metrics. -/
def countsOf (b : Backend) (metrics : NameSet) (s : Surroundings) (k : Journal) :
    List CardinalityRecord := (evaluateCardinality b metrics s k).1.toOption.getD []

/-- To count is asked too much: there cannot be so many permits, or the counts do not fit into a
table. -/
def Overruns (b : Backend) (metrics : NameSet) (withCardinality : Bool) (s : Surroundings)
    (k : Journal) : Prop :=
  withCardinality = true ∧
    (s.context.canPermit = false ∨ ¬ (TableReport.counts (countsOf b metrics s k)).Fits)

/-- With permits for all counts and short names, it is not. -/
theorem not_overruns (permitted : s.context.canPermit = true)
    (short : ∀ metric ∈ metrics.toList, Table.FitsColumn metric) :
    ¬ Overruns b metrics withCardinality s k := by
  rintro ⟨-, excess | wide⟩
  · cases permitted.symm.trans excess
  · obtain ⟨f, sound, counted⟩ := exists_sound_of_permitted b metrics permitted k
    refine wide fun text listed => ?_
    rw [countsOf, counted] at listed
    obtain ⟨record, member, rfl⟩ := List.mem_map.mp listed
    exact short _ (sound.metric_mem member)

/-- Counting leaves the files alone, and panics if it is asked too much and only then. -/
theorem counting_cases (b : Backend) (metrics : NameSet) (withCardinality : Bool)
    (s : Surroundings) (k : Journal) : ∃ result l, l.files = k.files ∧
      counting b metrics withCardinality s k = (result, l) ∧
      ((∃ counts, result = .ok counts ∧ ¬ Overruns b metrics withCardinality s k) ∨
        result = .error .panic ∧ Overruns b metrics withCardinality s k) := by
  cases withCardinality with
  | false => exact ⟨_, k, rfl, rfl, .inl ⟨none, rfl, fun overruns => nomatch overruns.1⟩⟩
  | true =>
      cases permitted : s.context.canPermit with
      | false =>
          refine ⟨.error .panic, k, rfl, ?_, .inr ⟨rfl, rfl, .inl permitted⟩⟩
          rw [counting, if_pos rfl, Audit.bind_apply,
            evaluateCardinality_of_excess b metrics permitted]
      | true =>
          obtain ⟨f, -, counted⟩ := exists_sound_of_permitted b metrics permitted k
          have counts : countsOf b metrics s k = f.records := by
            rw [countsOf, counted]
            rfl
          have goes : counting b metrics true s k =
              (some <$> Audit.orPanic (cardinalityTable? f.records) : Audit (Option String)) s
                { k with clock := f.clock, calls := f.calls } := by
            rw [counting, if_pos rfl, Audit.bind_apply, counted]
          have table : cardinalityTable? f.records =
              if (TableReport.counts f.records).Fits then some (cardinalityTable f.records)
              else none := (TableReport.counts f.records).generate?_eq
          let l : Journal := { k with clock := f.clock, calls := f.calls }
          by_cases fits : (TableReport.counts f.records).Fits
          · rw [if_pos fits] at table
            rw [table] at goes
            refine ⟨.ok (some (cardinalityTable f.records)), l, rfl, goes, .inl ⟨_, rfl, ?_⟩⟩
            rintro ⟨-, excess | wide⟩
            · cases permitted.symm.trans excess
            · exact wide (counts ▸ fits)
          · rw [if_neg fits] at table
            rw [table] at goes
            exact ⟨.error .panic, l, rfl, goes, .inr ⟨rfl, rfl, .inr (counts ▸ fits)⟩⟩

/-- How an extraction goes: no metrics are derived, or they cannot be counted, and it ends there, or
it ends with the writing of the reports, whatever the counts are. -/
theorem extract_cases (p : CollectionProfile) (b : Backend) (sources : ExtractSources)
    (settings : ProfileSettings) (withCardinality : Bool) (s : Surroundings) (j : Journal) :
    let ending := p.extract b sources settings withCardinality s j
    let after := (extractMetricSet b sources s j).2
    (∃ failure, (extractMetricSet b sources s j).1 = .error failure ∧
      ending.1 = .error failure ∧ ending.2.files = j.files) ∨
    (∃ metrics, (extractMetricSet b sources s j).1 = .ok metrics ∧
      Overruns b metrics withCardinality s after ∧
      ending.1 = .error .panic ∧ ending.2.files = j.files) ∨
    ∃ metrics counts time, (extractMetricSet b sources s j).1 = .ok metrics ∧
      ¬ Overruns b metrics withCardinality s after ∧
      let written := writeReports settings.reportDir
        (p.countsReport counts time ++ [(p.relabelName time, relabelText metrics)]) j.files
      ending.1 = written.2.map (fun _ => p.outcome settings.reportDir metrics counts time) ∧
        ending.2.files = written.1 := by
  have files := extractMetricSet_files b sources s j
  intro ending
  unfold ending
  rw [extract_eq, Audit.bind_apply]
  generalize extractMetricSet b sources s j = derived at files ⊢
  rcases derived with ⟨failure | metrics, k⟩
  · exact .inl ⟨failure, rfl, rfl, files⟩
  · refine .inr ?_
    obtain ⟨result, l, still, counted, ends⟩ := counting_cases b metrics withCardinality s k
    dsimp only at files ⊢
    simp only [Audit.localTime, Audit.ofStep, Audit.bind_apply, counted, Audit.onFiles]
    rcases ends with ⟨counts, rfl, fair⟩ | ⟨rfl, overruns⟩
    · refine .inr ⟨metrics, counts, s.localTime k.clock.now, rfl, fair, ?_⟩
      rw [← files, ← still]
      dsimp only
      generalize writeReports settings.reportDir _ l.files = written
      rcases written with ⟨t, failure | done⟩
      · exact ⟨rfl, rfl⟩
      · exact ⟨rfl, rfl⟩
    · exact .inl ⟨metrics, rfl, overruns, rfl, still.trans files⟩

/-- What becomes of the files when an extraction ends. -/
inductive Ends (p : CollectionProfile) (files : FileTree) :
    Except Failure ExtractionOutcome → FileTree → Prop
  /-- The relabeling that keeps the metrics is there, and besides it only the counts are new. -/
  | written {outcome : ExtractionOutcome} {time : Timestamp} {place : List String}
    {after : FileTree} : place.getLast? = some (p.relabelName time) →
    after.Holds outcome.relabelConfig place (relabelText outcome.metrics) →
    files.SameFilesBeside (placesOf [p.countsName time] ∪ {place}) after →
    Ends p files (.ok outcome) after
  /-- There is no relabeling, only the counts are new. -/
  | unwritten {failure : Failure} {time : Timestamp} {after : FileTree} :
    files.SameFilesBeside (placesOf [p.countsName time]) after → Ends p files (.error failure) after

theorem isName_countsReport (counts : Option String) (time : Timestamp) :
    ∀ report ∈ p.countsReport counts time, Path.IsName report.1 := by
  intro report listed
  obtain ⟨records, -, rfl⟩ := Option.map_eq_some_iff.mp (Option.mem_toList.mp listed)
  exact isName_countsName time

theorem placesOf_countsReport (counts : Option String) (time : Timestamp) :
    placesOf ((p.countsReport counts time).map (·.1)) ⊆ placesOf [p.countsName time] := by
  cases counts with
  | none => exact fun place ⟨name, listed, last⟩ => absurd listed List.not_mem_nil
  | some records => exact Set.Subset.rfl

theorem ends_extract (p : CollectionProfile) (b : Backend) (sources : ExtractSources)
    (settings : ProfileSettings) (withCardinality : Bool) (s : Surroundings) (j : Journal) :
    p.Ends j.files (p.extract b sources settings withCardinality s j).1
      (p.extract b sources settings withCardinality s j).2.files := by
  have unchanged (failure : Failure) : p.Ends j.files (.error failure) j.files :=
    @Ends.unwritten p _ _ (s.localTime 0) _ (SameFiles.refl j.files).beside
  rcases extract_cases p b sources settings withCardinality s j with
    ⟨failure, -, failed, files⟩ | ⟨metrics, -, -, failed, files⟩ |
    ⟨metrics, counts, time, -, -, result, files⟩
  · rw [failed, files]
    exact unchanged failure
  · rw [failed, files]
    exact unchanged .panic
  · have beside := placesOf_countsReport (p := p) counts time
    rw [result, files]
    rcases writeReports_concat (isName_countsReport counts time)
        (isName_relabelName (p := p) time) settings.reportDir (relabelText metrics) j.files with
      ⟨ok, place, last, held, same⟩ | ⟨failure, failed, same⟩
    · rw [ok]
      exact .written last held (same.mono (Set.union_subset_union_left _ beside))
    · rw [failed]
      exact .unwritten (same.mono beside)

/-- What is returned as metrics was derived. -/
theorem derived_of_extract {outcome : ExtractionOutcome}
    (ok : (p.extract b sources settings withCardinality s j).1 = .ok outcome) :
    (extractMetricSet b sources s j).1 = .ok outcome.metrics := by
  rcases extract_cases p b sources settings withCardinality s j with
    ⟨failure, -, failed, -⟩ | ⟨metrics, -, -, failed, -⟩ |
    ⟨metrics, counts, time, derived, -, result, -⟩
  · cases ok.symm.trans failed
  · cases ok.symm.trans failed
  · obtain ⟨done, -, rfl⟩ := map_eq_ok_iff.mp (result.symm.trans ok)
    exact derived

/-- Where reports can be written, an extraction succeeds if the metrics are derived, and can be
counted if they are to be. -/
theorem extract_of_takes (takes : j.files.Takes settings.reportDir p.extractionKinds)
    (fair : ∀ metrics, (extractMetricSet b sources s j).1 = .ok metrics →
      ¬ Overruns b metrics withCardinality s (extractMetricSet b sources s j).2) :
    (p.extract b sources settings withCardinality s j).1.map (·.metrics) =
      (extractMetricSet b sources s j).1 := by
  rcases extract_cases p b sources settings withCardinality s j with
    ⟨failure, failed, same, -⟩ | ⟨metrics, derived, overruns, -⟩ |
    ⟨metrics, counts, time, derived, -, result, -⟩
  · rw [failed, same]
    rfl
  · exact absurd overruns (fair metrics derived)
  · have own : (p.relabelStem, "yaml") ∈ p.extractionKinds :=
      List.mem_cons_of_mem _ (List.mem_singleton_self _)
    have written : (writeReports settings.reportDir (p.countsReport counts time ++
        [(p.relabelName time, relabelText metrics)]) j.files).2 = .ok () := by
      apply writeReports_of_each
      · refine List.forall_mem_append.mpr ⟨isName_countsReport counts time, ?_⟩
        exact List.forall_mem_singleton.mpr (isName_relabelName time)
      · refine List.forall_mem_append.mpr ⟨?_, ?_⟩
        · intro report listed
          obtain ⟨table, -, rfl⟩ := Option.map_eq_some_iff.mp (Option.mem_toList.mp listed)
          exact takes _ List.mem_cons_self _ _
        · exact List.forall_mem_singleton.mpr (takes _ own _ _)
    rw [result, written, derived]
    rfl

/-- Where the metrics cannot be counted that are derived, nothing is written. -/
theorem extract_of_overruns (derived : (extractMetricSet b sources s j).1 = .ok metrics)
    (overruns : Overruns b metrics withCardinality s (extractMetricSet b sources s j).2) :
    (p.extract b sources settings withCardinality s j).1 = .error .panic ∧
      (p.extract b sources settings withCardinality s j).2.files = j.files := by
  rcases extract_cases p b sources settings withCardinality s j with
    ⟨failure, failed, -⟩ | ⟨-, -, -, panicked⟩ | ⟨metrics', counts, time, derived', fair, -⟩
  · cases derived.symm.trans failed
  · exact panicked
  · cases derived.symm.trans derived'
    exact absurd overruns fair

/-- Where no file was, a relabeling is there exactly if it was written. -/
theorem Ends.appears_iff {files after : FileTree} {result : Except Failure ExtractionOutcome}
    (ends : p.Ends files result after) {place : List String} {time : Timestamp}
    (named : place.getLast? = some (p.relabelName time))
    (absent : ∀ contents, files.node? place ≠ some (.file contents)) :
    (∃ contents, after.node? place = some (.file contents)) ↔ ∃ outcome, result = .ok outcome ∧
      after.Holds outcome.relabelConfig place (relabelText outcome.metrics) := by
  have uncounted (time' : Timestamp) : place ∉ placesOf [p.countsName time'] := by
    rintro ⟨name, listed, last⟩
    rw [List.mem_singleton.mp listed] at last
    exact countsName_ne_relabelName time' time (Option.some.inj (last.symm.trans named))
  cases ends with
  | @written outcome time' spot after last held same =>
      constructor
      · rintro ⟨contents, there⟩
        refine ⟨outcome, rfl, ?_⟩
        by_cases here : place = spot
        · exact here ▸ held
        · have apart : place ∉ placesOf [p.countsName time'] ∪ {spot} := by
            rintro (counted | written)
            · exact uncounted time' counted
            · exact here written
          exact absurd ((same place apart contents).mpr there) (absent contents)
      · rintro ⟨outcome', is, held'⟩
        exact ⟨_, held'.2.2⟩
  | @unwritten failure time' after same =>
      constructor
      · rintro ⟨contents, there⟩
        exact absurd ((same place (uncounted time') contents).mpr there) (absent contents)
      · rintro ⟨outcome, is, -⟩
        cases is

end CollectionProfile

/-! ## All or nothing -/

/-- A run of an extraction: for a profile, in some surroundings, and after whatever was before. -/
structure ExtractionRun where
  profile : CollectionProfile
  backend : Backend
  settings : ProfileSettings
  withCardinality : Bool
  surroundings : Surroundings
  before : Journal

namespace ExtractionRun

def ending (run : ExtractionRun) (sources : ExtractSources) :
    Except Failure ExtractionOutcome × Journal :=
  run.profile.extract run.backend sources run.settings run.withCardinality run.surroundings
    run.before

/-- The metrics that were derived before anything was written. -/
def derived (run : ExtractionRun) (sources : ExtractSources) : Except Failure NameSet :=
  (extractMetricSet run.backend sources run.surroundings run.before).1

/-- The metrics that are returned, and the relabeling that is in the file. -/
def yield (run : ExtractionRun) (sources : ExtractSources) :
    Except Failure (NameSet × Except IoFault String) :=
  (run.ending sources).1.map fun outcome =>
    (outcome.metrics, (run.ending sources).2.files.read outcome.relabelConfig)

/-- The metrics that are derived are to be counted, and cannot. -/
def Overruns (run : ExtractionRun) (sources : ExtractSources) : Prop :=
  ∃ metrics, run.derived sources = .ok metrics ∧
    CollectionProfile.Overruns run.backend metrics run.withCardinality run.surroundings
      (extractMetricSet run.backend sources run.surroundings run.before).2

/-- The reports can be written. -/
def Writable (run : ExtractionRun) : Prop :=
  run.before.files.Takes run.settings.reportDir run.profile.extractionKinds

/-- Two runs read the same, and are told the same about the targets. -/
structure SameSources (run other : ExtractionRun) (sources : ExtractSources) : Prop where
  listed : ∀ path ∈ sources.allowListFile,
    run.before.files.read path = other.before.files.read path
  ruled : ∀ path ∈ sources.ruleFile, run.before.files.read path = other.before.files.read path
  told : ∀ selector ∈ sources.targetSelectors,
    ExtractSources.metadata run.backend run.surroundings run.before selector =
      ExtractSources.metadata other.backend other.surroundings other.before selector

variable {run other : ExtractionRun} {sources : ExtractSources}

theorem SameSources.derived_eq (same : SameSources run other sources) :
    run.derived sources = other.derived sources := by
  have read := sources.reading_congr same.listed same.ruled
  have asked : sources.asking run.backend run.surroundings run.before =
      sources.asking other.backend other.surroundings other.before := by
    unfold ExtractSources.asking
    cases given : sources.targetSelectors with
    | none => rfl
    | some selector => simp only [same.told selector given]
  rw [derived, derived, extractMetricSet_fst, extractMetricSet_fst, read, asked]

theorem ends_ending (run : ExtractionRun) (sources : ExtractSources) :
    run.profile.Ends run.before.files (run.ending sources).1 (run.ending sources).2.files :=
  CollectionProfile.ends_extract _ _ _ _ _ _ _

/-- With a directory for it, a run yields what was derived, and the relabeling of that, unless it
cannot count. -/
theorem Writable.yield_eq (writable : run.Writable) (fair : ¬ run.Overruns sources) :
    run.yield sources = (run.derived sources).map fun metrics =>
      (metrics, .ok (CollectionProfile.relabelText metrics)) := by
  have ends := run.ends_ending sources
  rw [derived, ← CollectionProfile.extract_of_takes writable
    fun metrics derived overruns => fair ⟨metrics, derived, overruns⟩, yield]
  change _ = ((run.ending sources).1.map _).map _
  generalize run.ending sources = ending at ends ⊢
  obtain ⟨result, after⟩ := ending
  dsimp only at ends ⊢
  cases result with
  | error failure => rfl
  | ok outcome =>
      cases ends with
      | written last held same =>
          change Except.ok (outcome.metrics, after.files.read outcome.relabelConfig) = _
          rw [held.1]
          rfl

theorem Overruns.panics (overruns : run.Overruns sources) :
    (run.ending sources).1 = .error .panic ∧
      (run.ending sources).2.files = run.before.files := by
  obtain ⟨metrics, derived, overruns⟩ := overruns
  exact CollectionProfile.extract_of_overruns derived overruns

theorem Overruns.yield_eq (overruns : run.Overruns sources) :
    run.yield sources = .error .panic := by
  rw [yield, overruns.panics.1]
  rfl

/-- **An extraction is all or nothing.** The relabeling is there if and only if the extraction
succeeds, it keeps the metrics that are returned, and these are the ones that were derived; a
failure leaves all files but the counts as they were. Counting is only an observation as long as it
does not panic. Two runs with the same sources that can write yield the same metrics and the same
relabeling, whether they count or not, whatever their limits and the answers to their queries, and
whatever happens to them after the targets are told, if neither of them panics over its counts; one
that does yields nothing. With permits for all counts and short names none does. -/
theorem extract_allOrNothing (sources : ExtractSources) :
    (∀ run : ExtractionRun,
      run.profile.Ends run.before.files (run.ending sources).1 (run.ending sources).2.files ∧
      (∀ outcome, (run.ending sources).1 = .ok outcome →
        run.derived sources = .ok outcome.metrics) ∧
      ∀ place time, place.getLast? = some (run.profile.relabelName time) →
        (∀ contents, run.before.files.node? place ≠ some (.file contents)) →
        ((∃ contents, (run.ending sources).2.files.node? place = some (.file contents)) ↔
          ∃ outcome, (run.ending sources).1 = .ok outcome ∧
            (run.ending sources).2.files.Holds outcome.relabelConfig place
              (CollectionProfile.relabelText outcome.metrics))) ∧
    (∀ run other : ExtractionRun, SameSources run other sources → run.Writable → other.Writable →
      (run.yield sources = other.yield sources ↔
        (run.Overruns sources ↔ other.Overruns sources))) ∧
    (∀ run : ExtractionRun, run.Overruns sources → (run.ending sources).1 = .error .panic ∧
      (run.ending sources).2.files = run.before.files) ∧
    ∀ run : ExtractionRun, run.surroundings.context.canPermit = true →
      (∀ metrics, run.derived sources = .ok metrics →
        ∀ metric ∈ metrics.toList, Table.FitsColumn metric) → ¬ run.Overruns sources := by
  refine ⟨fun run => ⟨run.ends_ending sources, ?_, ?_⟩, ?_, ?_, ?_⟩
  · intro outcome ok
    exact CollectionProfile.derived_of_extract ok
  · intro place time named absent
    exact (run.ends_ending sources).appears_iff named absent
  · intro run other same writable writable'
    have derived := same.derived_eq
    -- a run that cannot count has derived something, and yields nothing of it
    have apart {run other : ExtractionRun} (overruns : run.Overruns sources)
        (fair : ¬ other.Overruns sources) (writable : other.Writable)
        (derived : run.derived sources = other.derived sources) :
        run.yield sources ≠ other.yield sources := by
      obtain ⟨metrics, found, -⟩ := id overruns
      rw [overruns.yield_eq, writable.yield_eq fair, ← derived, found]
      exact nofun
    by_cases overruns : run.Overruns sources <;> by_cases overruns' : other.Overruns sources
    · rw [overruns.yield_eq, overruns'.yield_eq]
      exact iff_of_true rfl (iff_of_true overruns overruns')
    · exact iff_of_false (apart overruns overruns' writable' derived)
        fun both => overruns' (both.mp overruns)
    · exact iff_of_false (apart overruns' overruns writable derived.symm).symm
        fun both => overruns (both.mpr overruns')
    · rw [writable.yield_eq overruns, writable'.yield_eq overruns', derived]
      exact iff_of_true rfl (iff_of_false overruns overruns')
  · exact fun run overruns => overruns.panics
  · rintro run permitted short ⟨metrics, derived, overruns⟩
    exact CollectionProfile.not_overruns permitted (short metrics derived) overruns

/-- A target has a metric, and no query is answered. -/
def reticent : Backend where
  probe _ := .never
  metadata _ _ := .ready (.ok [{ metric := "up" }])
  rules _ := .never
  query _ _ _ := .never

/-- A run that does not count. -/
def uncounted : ExtractionRun where
  profile := .minimal
  backend := reticent
  settings := { reportDir := "reports" }
  withCardinality := false
  surroundings :=
    { context := { deadline := 100, concurrency := none }
      localTime := fun _ => ⟨2024, 5, 6, 7, 8, 9⟩ }
  before := { files := { nodes := [(["allow.yaml"], .file (.text "metrics: [go]\n"))] } }

/-- A run that is cancelled while it counts. -/
def cancelled : ExtractionRun where
  profile := .minimal
  backend := reticent
  settings := { reportDir := "out", noisy := true }
  withCardinality := true
  surroundings :=
    { context := { deadline := 9, concurrency := some 1 }
      localTime := fun now => ⟨2024, 5, 6, 7, 8, now⟩ }
  before :=
    { clock := { now := 3, cancelledAt := some 5 }
      files := { nodes := [(["allow.yaml"], .file (.text "metrics: [go]\n"))] } }

/-- That a run is cancelled while it counts makes no difference. -/
theorem extract_allOrNothing_cancelled :
    let sources : ExtractSources :=
      { allowListFile := some "allow.yaml", targetSelectors := some "up" }
    (cancelled.ending sources).2.clock.isCancelled = true ∧
      (cancelled.yield sources).toOption.map (fun made => (made.1.toList, made.2.toOption)) =
        some (["go", "up"],
          some "sourceLabels:\n- __name__\nregex: (go|up)\naction: keep\n") ∧
      uncounted.yield sources = cancelled.yield sources := by
  intro sources
  have plain := @CollectionProfile.isPlain_extractionKinds .minimal
  have same : SameSources uncounted cancelled sources :=
    ⟨fun _ _ => rfl, fun _ _ => rfl, fun _ _ => rfl⟩
  have writable : uncounted.Writable := takes_of_makeAll plain rfl rfl fun name => rfl
  have writable' : cancelled.Writable := takes_of_makeAll plain rfl rfl fun name => rfl
  obtain ⟨-, yields, -, fair⟩ := extract_allOrNothing sources
  have names : (cancelled.derived sources).toOption.map (·.toList) = some ["go", "up"] := by
    decide +kernel
  refine ⟨by decide +kernel, by decide +kernel,
    (yields uncounted cancelled same writable writable').mpr (iff_of_false ?_ ?_)⟩
  · rintro ⟨metrics, -, counts, -⟩
    cases counts
  · refine fair cancelled rfl fun metrics derived => ?_
    rw [derived] at names
    have listed : metrics.toList = ["go", "up"] := Option.some.inj names
    rw [listed]
    unfold Table.FitsColumn
    decide

/-- A metric whose query fails at once counts nothing. -/
theorem evaluateCardinality_of_refused {b : Backend} {failure : Failure}
    (refuses : ∀ text time m, b.query text time m = .ready (.error failure)) (metric : String)
    {s : Surroundings} {j : Journal} (unbounded : s.context.concurrency = none)
    (running : s.context.isOver (j.clock.pass (s.lag j.moment)) = false) :
    (evaluateCardinality b (.ofList [metric]) s j).1 = .ok [⟨metric, 0⟩] := by
  have uncancelled : (j.clock.pass (s.lag j.moment)).isCancelled = false :=
    (Bool.or_eq_false_iff.mp running).1
  have names : (NameSet.ofList [metric]).toList = [metric] := rfl
  simp [evaluateCardinality, Audit.ofStep, RunContext.canPermit, unbounded, names, Fanout.start,
    Fanout.settle, Fanout.stages, Fanout.run, Fanout.round, Fanout.step, Fanout.advance,
    Fanout.stage?, Fanout.move, Fanout.finish, refuses, running, uncancelled, RunContext.poll?,
    Behaviour.ready, Behaviour.result?, Fanout.isDone, Fanout.records, List.replicate]

/-- A run that is to count more at once than there can be permits. -/
def crowded : ExtractionRun :=
  { uncounted with
    withCardinality := true
    surroundings :=
      { uncounted.surroundings with
        context := { deadline := 100, concurrency := some (maxPermits + 1) } } }

/-- A target has a metric with a name that does not fit into a table. -/
def verbose : Backend where
  probe _ := .never
  metadata _ _ := .ready (.ok [{ metric := Table.overlong }])
  rules _ := .never
  query _ _ _ := .ready (.error ⟨.http, []⟩)

def short : ExtractionRun := { uncounted with backend := verbose }

def long : ExtractionRun := { short with withCardinality := true }

/-- What is extracted of one target. -/
theorem extractMetricSet_up (run : ExtractionRun) :
    extractMetricSet run.backend { targetSelectors := some "up" } run.surroundings run.before = (do
      let targeted ← targetMetrics run.backend "up"
      return NameSet.empty.union targeted : Audit NameSet) run.surroundings run.before := by
  refine extractMetricSet_of_ok ?_
  have accepted : ExtractSources.check { targetSelectors := some "up" } = .ok () :=
    eq_ok_of_toOption (by decide +kernel)
  rw [ExtractSources.reading, accepted]
  rfl

theorem derived_up {run : ExtractionRun} {metrics : NameSet}
    (told : (targetMetrics run.backend "up" run.surroundings run.before).1 = .ok metrics) :
    run.derived { targetSelectors := some "up" } = .ok metrics := by
  rw [derived, extractMetricSet_up, Audit.fst_bind_pure, told]
  exact congrArg Except.ok metrics.empty_union

/-- What does not count yields something where it can write, and what overruns nothing. -/
theorem Writable.yield_ne (writable : run.Writable) (silent : run.withCardinality = false)
    {metrics : NameSet} (derives : run.derived sources = .ok metrics)
    (overruns : other.Overruns sources) :
    (run.yield sources).toOption.isSome = true ∧ run.yield sources ≠ other.yield sources := by
  have fair : ¬ run.Overruns sources := by
    rintro ⟨metrics, -, counts, -⟩
    cases silent.symm.trans counts
  rw [writable.yield_eq fair, overruns.yield_eq, derives]
  refine ⟨rfl, fun same => ?_⟩
  cases same

/-- Two runs with the same sources need not yield the same: one that counts may panic. -/
theorem yield_ne_of_counting :
    let sources : ExtractSources := { targetSelectors := some "up" }
    (SameSources uncounted crowded sources ∧ uncounted.Writable ∧ crowded.Writable ∧
      (uncounted.yield sources).toOption.isSome = true ∧
      uncounted.yield sources ≠ crowded.yield sources) ∧
    SameSources short long sources ∧ short.Writable ∧ long.Writable ∧
      (short.yield sources).toOption.isSome = true ∧
      short.yield sources ≠ long.yield sources := by
  intro sources
  have plain := @CollectionProfile.isPlain_extractionKinds .minimal
  have writable {run : ExtractionRun} (settings : run.settings = { reportDir := "reports" })
      (files : run.before.files = uncounted.before.files) (p : run.profile = .minimal) :
      run.Writable := by
    rw [Writable, settings, files, p]
    exact takes_of_makeAll plain rfl rfl fun name => rfl
  have up : uncounted.derived sources = .ok (.ofList ["up"]) := derived_up rfl
  have crowds : crowded.Overruns sources := ⟨_, derived_up rfl, rfl, .inl rfl⟩
  have overlong : short.derived sources = .ok (.ofList [Table.overlong]) := derived_up rfl
  have wide : long.Overruns sources := by
    refine ⟨.ofList [Table.overlong], derived_up rfl, rfl, .inr fun fits => ?_⟩
    refine Table.not_fitsColumn_overlong (fits _ ?_)
    rw [CollectionProfile.countsOf, extractMetricSet_up,
      evaluateCardinality_of_refused (fun _ _ _ => rfl) _ rfl rfl]
    exact List.mem_singleton_self _
  have writes : uncounted.Writable := writable rfl rfl rfl
  have writes' : short.Writable := writable rfl rfl rfl
  refine ⟨⟨⟨fun _ _ => rfl, fun _ _ => rfl, fun _ _ => rfl⟩, writes, writable rfl rfl rfl, ?_⟩,
    ⟨fun _ _ => rfl, fun _ _ => rfl, fun _ _ => rfl⟩, writes', writable rfl rfl rfl, ?_⟩
  · exact writes.yield_ne rfl up crowds
  · exact writes'.yield_ne rfl overlong wide

end ExtractionRun

end ProfileAudit
