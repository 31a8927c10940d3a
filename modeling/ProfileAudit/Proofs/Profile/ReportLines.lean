import ProfileAudit.Profile.Basic
import ProfileAudit.Proofs.Profile.Reconcile
import ProfileAudit.Proofs.Query.Metrics
import ProfileAudit.Proofs.Report.Table
import ProfileAudit.Report.Sink

/-!
# Lines of a report on rules

A row of a report has cells of different origin. The query is put on one line, and whatever is
quoted stands on one line anyway; everything else is put into the row as it is
(`Finding.onOneLine_rowWith_iff`). So a name with a line break in it breaks the line of its finding.
Where the names of rules, groups, files and monitors stand on one line, what a query adds does so as
well if its strings do, however many lines the query itself is written on
(`unbroken_of_mem_reconcile`). A report whose cells stand on one line has one line for each finding
(`ReportSink.exists_lines`).
-/

namespace ProfileAudit

variable {breaks : Char → Bool}

/-! ## Queries -/

namespace Query

/-- The query stands on one line, or it can be read and its strings stand on one line, whatever
breaks there are between its words. -/
def Steady (breaks : Char → Bool) (query : String) : Prop :=
  OnOneLine breaks query.toList ∨ ∃ ts, Token.ofText query = .ok ts ∧
    ∀ text, .string text ∈ ts → OnOneLine breaks text.toList

/-- What is known of a query whose strings stand on one line. -/
def Wording.unbroken (breaks : Char → Bool) : Wording where
  char c := breaks c = false
  name := IsMetricName
  value text := OnOneLine breaks text.toList
  plain_of_name := IsMetricName.isPlain
  char_of_value own := own

variable {w : Wording} {query text : String}

theorem Steady.exists_wording (steady : Steady breaks query) :
    ∃ w : Wording, (∀ c, w.char c → breaks c = false) ∧
      Yields w (Expr.ofText query) (Expr.Meets w) := by
  rcases steady with line | ⟨ts, read, strings⟩
  · exact ⟨.ofText query.toList, line, yields_ofQuery query⟩
  · refine ⟨.unbroken breaks, fun c => id, ?_⟩
    have yields := yields_ofText query
    rw [read] at yields
    have worded : Worded (.unbroken breaks) false ts := Worded.imp yields (fun n => id) strings
    rw [Expr.ofText, read]
    exact yields_ofTokens worded

theorem Wording.Shows.onOneLine (ends : LineEnds breaks)
    (unbroken : ∀ c, w.char c → breaks c = false) (shows : w.Shows text) :
    OnOneLine breaks text.toList := by
  intro c member
  rcases shows c member with plain | char
  · exact ends.of_isPlain plain
  · exact unbroken c char

/-- The metrics of a query stand on one line if its strings do. -/
theorem Steady.onOneLine_of_mem {ms : NameSet} {n : String} (steady : Steady breaks query)
    (ends : LineEnds breaks) (references : referencedMetrics query = .ok ms) (member : n ∈ ms) :
    OnOneLine breaks n.toList := by
  obtain ⟨w, unbroken, yields⟩ := steady.exists_wording
  have names := yields_referencedMetrics yields
  rw [references] at names
  rcases names n member with named | own
  · exact Wording.Shows.onOneLine ends unbroken (.of_name named)
  · exact Wording.Shows.onOneLine ends unbroken (.of_value own)

/-- What is said of a query that does not parse stands on one line, too. -/
theorem Steady.onOneLine_message {fault : Fault} (steady : Steady breaks query)
    (ends : LineEnds breaks) (fails : referencedMetrics query = .error fault) :
    OnOneLine breaks fault.message.toList := by
  obtain ⟨w, unbroken, yields⟩ := steady.exists_wording
  have meets := yields_referencedMetrics yields
  rw [fails] at meets
  exact Wording.Shows.onOneLine ends unbroken (Fault.Meets.shows_message meets)

end Query

/-! ## Rows -/

/-- What is said of a pattern that is none, behind the colon of the message. -/
def FindingKind.explanation (explain : String → String) : FindingKind → String
  | regexError regex => explain regex
  | _ => ""

namespace Finding

/-- The row of a report, with what is said of patterns that are none. -/
def rowWith (explain : String → String) (f : Finding) : List String :=
  [f.monitor.getD "", f.group, f.file, f.rule, Blank.onOneLine f.query, f.metric.getD "",
    f.kind.message ++ f.kind.explanation explain]

theorem rowWith_nothing (f : Finding) : f.rowWith (fun _ => "") = f.row := by
  have nothing : f.kind.explanation (fun _ => "") = "" := by cases f.kind <;> rfl
  rw [rowWith, nothing, String.append_empty]
  rfl

/-- What is put into the row of a finding as it is stands on one line. -/
structure Unbroken (breaks : Char → Bool) (explain : String → String) (f : Finding) : Prop where
  monitor : ∀ monitor ∈ f.monitor, OnOneLine breaks monitor.toList
  group : OnOneLine breaks f.group.toList
  file : OnOneLine breaks f.file.toList
  rule : OnOneLine breaks f.rule.toList
  metric : ∀ metric ∈ f.metric, OnOneLine breaks metric.toList
  fault : ∀ fault, f.kind = .parseError fault → OnOneLine breaks fault.message.toList
  regex : ∀ regex, f.kind = .regexError regex → OnOneLine breaks (explain regex).toList

variable {explain : String → String} {f : Finding}

theorem onOneLine_getD {text : Option String} :
    OnOneLine breaks (text.getD "").toList ↔ ∀ t ∈ text, OnOneLine breaks t.toList := by
  cases text with
  | none => exact iff_of_true (fun c => nofun) nofun
  | some t => simp

theorem onOneLine_behind {opening text : String} (line : OnOneLine breaks opening.toList) :
    OnOneLine breaks (opening ++ text).toList ↔ OnOneLine breaks text.toList := by
  rw [String.toList_append, onOneLine_append, and_iff_right line]

/-- The message of a finding stands on one line if what it does not quote does. -/
theorem onOneLine_message_iff (ends : LineEnds breaks) (kind : FindingKind) :
    OnOneLine breaks (kind.message ++ kind.explanation explain).toList ↔
      (∀ fault, kind = .parseError fault → OnOneLine breaks fault.message.toList) ∧
      ∀ regex, kind = .regexError regex → OnOneLine breaks (explain regex).toList := by
  have plain (text : String) (plain : text.toList.all isPlain = true) :
      OnOneLine breaks text.toList := ends.literal plain
  have silent := plain "" rfl
  cases kind with
  | notLoaded =>
      change OnOneLine breaks ("not loaded" ++ "").toList ↔ _
      simp only [onOneLine_behind (plain "not loaded" (by decide +kernel)), silent, reduceCtorEq,
        false_implies, implies_true, and_true]
  | notImplemented =>
      change OnOneLine breaks ("not implemented" ++ "").toList ↔ _
      simp only [onOneLine_behind (plain "not implemented" (by decide +kernel)), silent,
        reduceCtorEq, false_implies, implies_true, and_true]
  | parseError fault =>
      change OnOneLine breaks ("failed to parse query: " ++ fault.message ++ "").toList ↔ _
      simp only [String.append_empty,
        onOneLine_behind (plain "failed to parse query: " (by decide +kernel)),
        FindingKind.parseError.injEq, forall_eq', reduceCtorEq, false_implies, implies_true,
        and_true]
  | regexError regex =>
      change OnOneLine breaks ("failed to match regex " ++ Quoted.text regex ++ ": " ++
        explain regex).toList ↔ _
      simp only [String.append_assoc, onOneLine_behind (ends.text regex),
        onOneLine_behind (plain "failed to match regex " (by decide +kernel)),
        onOneLine_behind (plain ": " (by decide +kernel)), FindingKind.regexError.injEq,
        forall_eq', reduceCtorEq, false_implies, implies_true, true_and]
  | unknownRuleKind name =>
      change OnOneLine breaks ("unknown rule kind " ++ Quoted.text name ++ "").toList ↔ _
      simp only [String.append_empty, ends.text,
        onOneLine_behind (plain "unknown rule kind " (by decide +kernel)), reduceCtorEq,
        false_implies, implies_true, and_true]

/-- A row has a line break only where something is put into it as it is. -/
theorem onOneLine_rowWith_iff (ends : LineEnds breaks) :
    (∀ cell ∈ f.rowWith explain, OnOneLine breaks cell.toList) ↔ f.Unbroken breaks explain := by
  simp only [rowWith, List.forall_mem_cons, onOneLine_getD, onOneLine_message_iff ends, ends.words,
    true_and]
  constructor
  · rintro ⟨monitor, group, file, rule, metric, ⟨fault, regex⟩, -⟩
    exact ⟨monitor, group, file, rule, metric, fault, regex⟩
  · rintro ⟨monitor, group, file, rule, metric, fault, regex⟩
    exact ⟨monitor, group, file, rule, metric, ⟨fault, regex⟩, List.forall_mem_nil _⟩

end Finding

/-! ## Findings -/

/-- What reconciliation finds on a rule, case by case. -/
inductive Rule.Finds (r : Rule) (index : RegexIndex) : Finding → Prop
  | unknown {name : String} : r.kind = .unknown name →
    Finds r index (.ofRule r none none (.unknownRuleKind name))
  | fault {fault : Query.Fault} : (∀ name, r.kind ≠ .unknown name) →
    Query.referencedMetrics r.query = .error fault →
    Finds r index (.ofRule r none none (.parseError fault))
  | answer {metrics : NameSet} {metric monitor regex : String} {kind : FindingKind} :
    (∀ name, r.kind ≠ .unknown name) → Query.referencedMetrics r.query = .ok metrics →
    metric ∈ metrics → (monitor, regex) ∈ index.entries → verdict? regex metric = some kind →
    Finds r index (.ofRule r (some monitor) (some metric) kind)

section

variable {rules : List Rule} {r : Rule} {loaded : NameSet} {index : RegexIndex} {f : Finding}
  {explain : String → String}

theorem Rule.finds_of_mem_findings
    (found : f ∈ r.findings loaded (index.entries.map Admission.ofEntry)) : r.Finds index f := by
  unfold Rule.findings at found
  split at found
  · next name unknown =>
      rw [List.mem_singleton.mp found]
      exact .unknown unknown
  · next known =>
      split at found
      · cases found
      · split at found
        · next fault fails =>
            rw [List.mem_singleton.mp found]
            exact .fault known fails
        · next metrics references =>
            obtain ⟨metric, needed, found⟩ := List.mem_flatMap.mp found
            obtain ⟨a, member, found⟩ := List.mem_filterMap.mp found
            obtain ⟨kind, answer, rfl⟩ := Option.map_eq_some_iff.mp found
            obtain ⟨entry, listed, rfl⟩ := List.mem_map.mp member
            exact .answer known references (List.mem_of_mem_filter needed) listed answer

/-- The names of a rule stand on one line, and so do the strings of its query if it is read. -/
structure Rule.Unbroken (breaks : Char → Bool) (r : Rule) : Prop where
  name : OnOneLine breaks r.name.toList
  group : OnOneLine breaks r.group.toList
  file : OnOneLine breaks r.file.toList
  query : (∀ name, r.kind ≠ .unknown name) → Query.Steady breaks r.query

/-- The names of monitors stand on one line, and so does what is said of their patterns if they are
none. -/
structure RegexIndex.Unbroken (breaks : Char → Bool) (explain : String → String)
    (index : RegexIndex) : Prop where
  monitor : ∀ entry ∈ index.entries, OnOneLine breaks entry.1.toList
  regex : ∀ entry ∈ index.entries, Pattern.ofText? (Pattern.anchored entry.2) = none →
    OnOneLine breaks (explain entry.2).toList

theorem Rule.Unbroken.of_finds (unbroken : r.Unbroken breaks) (ends : LineEnds breaks)
    (monitors : index.Unbroken breaks explain) (finds : r.Finds index f) :
    f.Unbroken breaks explain := by
  cases finds with
  | unknown is =>
      exact ⟨nofun, unbroken.group, unbroken.file, unbroken.name, nofun, nofun, nofun⟩
  | fault known fails =>
      refine ⟨nofun, unbroken.group, unbroken.file, unbroken.name, nofun, ?_, nofun⟩
      rintro fault ⟨⟩
      exact (unbroken.query known).onOneLine_message ends fails
  | @answer metrics metric monitor regex kind known references member listed answer =>
      refine ⟨?_, unbroken.group, unbroken.file, unbroken.name, ?_, ?_, ?_⟩
      · rintro _ ⟨⟩
        exact monitors.monitor _ listed
      · rintro _ ⟨⟩
        exact (unbroken.query known).onOneLine_of_mem ends references member
      · rintro fault ⟨⟩
        rcases verdict?_cases answer with is | is <;> cases is
      · rintro other ⟨⟩
        obtain ⟨invalid, rfl⟩ := verdict?_eq_regexError_iff.mp answer
        exact monitors.regex _ listed invalid

theorem unbroken_of_mem_reconcile (ends : LineEnds breaks) (all : ∀ r ∈ rules, r.Unbroken breaks)
    (monitors : index.Unbroken breaks explain) :
    ∀ f ∈ reconcile rules loaded index, f.Unbroken breaks explain := by
  intro f found
  obtain ⟨r, listed, found⟩ := List.mem_flatMap.mp found
  exact (all r listed).of_finds ends monitors (Rule.finds_of_mem_findings found)

end

/-! ## Reports -/

theorem ReportSink.toList_render (sink : ReportSink) : sink.render.toList =
    (Table.render sink.header sink.rows).toList ++
      ([] ++ '\n' :: (s!"encountered {sink.issues} issues".toList ++ '\n' :: [])) := by
  simp [ReportSink.render, toString]

/-- A report whose cells stand on one line has its lines: one for each row, the header being the
first one, an empty one and the one that counts the issues. -/
theorem ReportSink.exists_lines (ends : LineEnds breaks) (sink : ReportSink)
    (onOneLine : ∀ row ∈ sink.header :: sink.rows, ∀ cell ∈ row, OnOneLine breaks cell.toList) :
    ∃ lines, partsBetween breaks sink.render.toList =
        lines ++ [[], s!"encountered {sink.issues} issues".toList, []] ∧
      List.Forall₂ (Table.Shows sink.header sink.rows) lines (sink.header :: sink.rows) := by
  have trailer : OnOneLine breaks s!"encountered {sink.issues} issues".toList := by
    simp only [toString, String.toList_append, onOneLine_append]
    refine ⟨⟨ends.literal (by decide +kernel), ends.number _⟩, ends.literal (by decide +kernel)⟩
  refine ⟨_, ?_, Table.forall₂_shows sink.header sink.rows⟩
  rw [toList_render, Table.partsBetween_render ends.lineBreaks onOneLine,
    partsBetween_line ends.lineBreaks (List.forall_mem_nil _),
    partsBetween_line ends.lineBreaks trailer]
  rfl

theorem onOneLine_header (ends : LineEnds breaks) (p : CollectionProfile) :
    ∀ cell ∈ Finding.header p.name, OnOneLine breaks cell.toList := by
  have cells : (Finding.header p.name).all (·.toList.all isPlain) = true := by
    cases p
    · have upper : LetterCase.upper CollectionProfile.full.name = "FULL" := by cbv
      rw [Finding.header, upper]
      decide +kernel
    · have upper : LetterCase.upper CollectionProfile.minimal.name = "MINIMAL" := by cbv
      rw [Finding.header, upper]
      decide +kernel
  exact fun cell member => ends.literal (List.all_eq_true.mp cells cell member)

variable {explain : String → String}

/-- **A report has one line for each finding, unless something with a line break in it is put into a
row as it is.** The query is not, nor is anything that is quoted: there is a break in a row exactly
if there is one in the name of its monitor, group, file, rule or metric, in what is said of its
query, or in what is said of a pattern that is none. There is none if the rules and the monitors
have names on one line and the strings of the queries stand on one line, and the report then has its
lines in order: the header, one for each finding, an empty one and the one that counts them. -/
theorem findings_on_lines (ends : LineEnds breaks) (rules : List Rule) (loaded : NameSet)
    (index : RegexIndex) :
    (∀ f ∈ reconcile rules loaded index,
      (∀ cell ∈ f.rowWith explain, OnOneLine breaks cell.toList) ↔ f.Unbroken breaks explain) ∧
    ((∀ r ∈ rules, r.Unbroken breaks) → index.Unbroken breaks explain →
      ∀ f ∈ reconcile rules loaded index, f.Unbroken breaks explain) ∧
    ∀ (p : CollectionProfile) (path : String),
      (∀ f ∈ reconcile rules loaded index, ∀ cell ∈ f.rowWith explain,
        Table.Printable breaks cell) →
      let rows := (reconcile rules loaded index).map (·.rowWith explain)
      ∃ lines, partsBetween breaks
          (ReportSink.mk path (Finding.header p.name) rows).render.toList =
            lines ++ [[], s!"encountered {rows.length} issues".toList, []] ∧
        List.Forall₂ (Table.Shows (Finding.header p.name) rows) lines
          (Finding.header p.name :: rows) := by
  refine ⟨fun f _ => Finding.onOneLine_rowWith_iff ends, ?_, ?_⟩
  · exact unbroken_of_mem_reconcile ends
  · intro p path printable
    apply ReportSink.exists_lines ends (ReportSink.mk path _ _)
    refine List.forall_mem_cons.mpr ⟨onOneLine_header ends p, fun row listed cell member => ?_⟩
    obtain ⟨f, found, rfl⟩ := List.mem_map.mp listed
    exact (printable f found cell member).line

/-- A query on three lines makes one line. -/
theorem findings_on_lines_of_long_query :
    let r := alertOn "sum(\n  foo\n)"
    let index := RegexIndex.empty.insert "m" "foo"
    let rows := (reconcile [r] .empty index).map (·.rowWith fun _ => "")
    rows = [["m", "g", "/etc/rules/a.yaml", "Absent", "sum( foo )", "foo", "not loaded"]] ∧
      (∀ f ∈ reconcile [r] .empty index, f.Unbroken endsLine fun _ => "") ∧
      ∃ lines, partsBetween endsLine
          (ReportSink.mk "r.log" (Finding.header "minimal") rows).render.toList =
            lines ++ [[], "encountered 1 issues".toList, []] ∧ lines.length = 2 := by
  intro r index rows
  have row : rows =
      [["m", "g", "/etc/rules/a.yaml", "Absent", "sum( foo )", "foo", "not loaded"]] := by
    decide +kernel
  have read : Query.Token.ofText "sum(\n  foo\n)" = .ok [.keyword (.aggregation .sum) "sum",
      .mark .openParen, .word "foo", .mark .closeParen, .finish] := by cbv
  have steady : Query.Steady endsLine r.query := .inr ⟨_, read, by simp⟩
  have plain (text : String) (plain : text.toList.all isPlain = true) :
      OnOneLine endsLine text.toList := lineEnds_endsLine.literal plain
  have rule : r.Unbroken endsLine :=
    ⟨plain "Absent" (by decide +kernel), plain "g" (by decide +kernel),
      plain "/etc/rules/a.yaml" (by decide +kernel), fun known => steady⟩
  have monitor : OnOneLine endsLine "m".toList := plain "m" (by decide +kernel)
  have monitors : index.Unbroken endsLine fun _ => "" :=
    ⟨List.forall_mem_singleton.mpr monitor, fun entry listed invalid => List.forall_mem_nil _⟩
  have printable : ∀ row ∈ rows, ∀ cell ∈ row, Table.Printable endsLine cell := by
    rw [row]
    decide +kernel
  have counted : s!"encountered {rows.length} issues" = "encountered 1 issues" := by
    rw [row]
    rfl
  obtain ⟨-, unbroken, report⟩ := findings_on_lines lineEnds_endsLine [r] .empty index
  obtain ⟨lines, split, shows⟩ := report .minimal "r.log" fun f found =>
    printable _ (List.mem_map_of_mem found)
  refine ⟨row, unbroken (List.forall_mem_singleton.mpr rule) monitors, lines, ?_, ?_⟩
  · rw [← counted]
    exact split
  · rw [shows.length_eq]
    exact congrArg (·.length + 1) row

/-- The name of a rule, a value that is no pattern and the value that names a metric break the lines
of their rows, and the report of one finding has six lines instead of five. -/
theorem breaks_lines :
    let odd : Rule := { alertOn "up" with name := "a\nb", kind := .unknown "odd" }
    let faulty := alertOn "\x7ba=~\"(\nb\"\x7d"
    let named := alertOn "\x7b__name__=\"a\nb\"\x7d"
    let index := RegexIndex.empty.insert "m" "a\nb"
    ((reconcile [odd, faulty, named] .empty index).map fun f =>
        f.row.map fun cell => cell.toList.contains '\n') =
      [[false, false, false, true, false, false, false],
        [false, false, false, false, false, false, true],
        [false, false, false, false, false, true, false]] ∧
    (partsBetween endsLine (ReportSink.mk "r.log" (Finding.header "minimal")
      ((reconcile [odd] .empty index).map (·.row))).render.toList).length = 6 := by
  intro odd faulty named index
  have header : Finding.header "minimal" = ["MINIMAL MONITOR", "GROUP", "LOCATION", "RULE",
      "QUERY", "METRIC", "ERROR"] := by cbv
  refine ⟨by decide +kernel, ?_⟩
  rw [header]
  decide +kernel

end ProfileAudit
