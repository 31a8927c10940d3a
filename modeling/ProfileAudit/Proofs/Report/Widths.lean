import ProfileAudit.Cardinality
import ProfileAudit.Profile.Status
import ProfileAudit.Proofs.Profile.ReportLines
import ProfileAudit.Proofs.Report.Table

/-!
# Which reports have a table

A cell can only be padded to a width that texts can be padded to, so a table is laid out if the
cells of all columns but the last are short enough (`Table.laysOut_iff`). In the reports those are
the names of monitors, groups, files, rules and metrics, and queries on one line, and nothing on
their way into the table bounds them: a report has a table exactly if they are short
(`reports_laid_out_iff`). The last columns are not padded, so neither counts nor errors matter.
-/

namespace ProfileAudit

/-! ## Tables -/

namespace Table

variable {header : List String} {rows : List (List String)}

/-- The text fits into a column that is padded. -/
def FitsColumn (text : String) : Prop := text.length + gap ≤ maxWidth

instance (text : String) : Decidable (FitsColumn text) := Nat.decLe _ _

/-- A text with one character too many. -/
@[irreducible]
def overlong : String := String.ofList (List.replicate 65534 'm')

theorem length_overlong : overlong.length = 65534 := by
  unfold overlong
  exact String.length_ofList.trans List.length_replicate

theorem not_fitsColumn_overlong : ¬ FitsColumn overlong := by
  rw [FitsColumn, length_overlong]
  decide

/-- A row has a cell for each column of the header, and no other one. -/
def Even (header : List String) (rows : List (List String)) : Prop :=
  ∀ row ∈ rows, row.length = header.length

theorem columns_of_even (even : Even header rows) : columns header rows = header.length := by
  refine Nat.le_antisymm (foldr_max_le fun n member => ?_) (le_foldr_max List.mem_cons_self)
  obtain ⟨row, listed, rfl⟩ := List.mem_map.mp member
  rcases List.mem_cons.mp listed with rfl | listed
  · exact Nat.le_refl _
  · exact Nat.le_of_eq (even row listed)

/-- Every column but the last is padded, to its width and the gap. -/
theorem mem_paddings_iff {w : Nat} : w ∈ paddings header rows ↔
    ∃ i, i + 1 < columns header rows ∧ columnWidth header rows i + gap = w := by
  rw [paddings, List.mem_map]
  constructor
  · rintro ⟨v, member, rfl⟩
    obtain ⟨i, found⟩ := List.mem_iff_getElem?.mp member
    rw [List.getElem?_dropLast, length_widths] at found
    split at found
    · next inside =>
        refine ⟨i, by omega, ?_⟩
        rw [← getD_widths, found, Option.getD_some]
    · cases found
  · rintro ⟨i, inside, rfl⟩
    refine ⟨columnWidth header rows i, List.mem_iff_getElem?.mpr ⟨i, ?_⟩, rfl⟩
    have there : i < (widths header rows).length := by rw [length_widths]; omega
    rw [List.getElem?_dropLast, length_widths, if_pos (by omega), ← getD_widths,
      List.getElem?_eq_getElem there, Option.getD_some]

theorem columnWidth_le_iff {i n : Nat} : columnWidth header rows i ≤ n ↔
    ∀ row ∈ header :: rows, (cell row i).length ≤ n := by
  refine ⟨fun le row listed => (length_cell_le listed i).trans le, fun all => ?_⟩
  refine foldr_max_le fun m member => ?_
  obtain ⟨row, listed, rfl⟩ := List.mem_map.mp member
  exact all row listed

/-- **A table is laid out exactly if the cells fit** of all columns but the last. -/
theorem laysOut_iff : laysOut header rows = true ↔ ∀ row ∈ header :: rows,
    ∀ i, i + 1 < columns header rows → FitsColumn (cell row i) := by
  simp only [laysOut, List.all_eq_true, decide_eq_true_eq, mem_paddings_iff]
  constructor
  · intro all row listed i padded
    exact (Nat.add_le_add_right (length_cell_le listed i) gap).trans (all _ ⟨i, padded, rfl⟩)
  · rintro fits _ ⟨i, padded, rfl⟩
    have short : columnWidth header rows i ≤ maxWidth - gap :=
      columnWidth_le_iff.mpr fun row listed => Nat.le_sub_of_add_le (fits row listed i padded)
    exact Nat.add_le_of_le_sub (by decide) short

theorem laysOut_iff_of_even (even : Even header rows) : laysOut header rows = true ↔
    ∀ row ∈ header :: rows, ∀ text ∈ row.dropLast, FitsColumn text := by
  rw [laysOut_iff, columns_of_even even]
  refine forall₂_congr fun row listed => ?_
  have length : row.length = header.length := by
    rcases List.mem_cons.mp listed with rfl | listed
    · rfl
    · exact even row listed
  rw [← length]
  constructor
  · intro fits text member
    obtain ⟨i, inside, rfl⟩ := List.mem_iff_getElem.mp member
    rw [List.length_dropLast] at inside
    have there : i < row.length := by omega
    have own := fits i (by omega)
    rwa [cell, List.getElem?_eq_getElem there, Option.getD_some, ← List.getElem_dropLast] at own
  · intro fits i padded
    have there : i < row.length := by omega
    rw [cell, List.getElem?_eq_getElem there, Option.getD_some]
    have inside : i < row.dropLast.length := by rw [List.length_dropLast]; omega
    have own := fits _ (List.getElem_mem inside)
    rwa [List.getElem_dropLast] at own

theorem paddings_le_iff : (∀ w ∈ paddings header rows, w ≤ maxWidth) ↔
    laysOut header rows = true := by
  simp only [laysOut, List.all_eq_true, decide_eq_true_eq]

end Table

/-! ## Reports -/

/-- A report with a table, by what stands in it. -/
inductive TableReport where
  | findings (p : CollectionProfile) (fs : List Finding)
  | status (fs : List StatusFinding)
  | counts (records : List CardinalityRecord)

namespace TableReport

def header : TableReport → List String
  | findings p _ => Finding.header p.name
  | status _ => StatusFinding.header
  | counts _ => ["METRIC", "CARDINALITY"]

def rows : TableReport → List (List String)
  | findings _ fs => fs.map (·.row)
  | status fs => fs.map (·.row)
  | counts records => records.map fun r => [r.metric, toString r.count]

/-- What a report is given by others that stands in a padded column. -/
def texts : TableReport → List String
  | findings _ fs => fs.flatMap fun f =>
    [f.monitor.getD "", f.group, f.file, f.rule, Blank.onOneLine f.query, f.metric.getD ""]
  | status fs => fs.map (·.monitor)
  | counts records => records.map (·.metric)

/-- All of them are short. -/
def Fits (r : TableReport) : Prop := ∀ text ∈ r.texts, Table.FitsColumn text

instance (r : TableReport) : Decidable r.Fits := List.decidableBAll _ _

/-- The report as it is collected. -/
def sink (r : TableReport) (path : String) : ReportSink := ⟨path, r.header, r.rows⟩

variable {r : TableReport}

theorem even (r : TableReport) : Table.Even r.header r.rows := by
  intro row listed
  cases r with
  | findings p fs | status fs | counts records =>
      obtain ⟨_, _, rfl⟩ := List.mem_map.mp listed
      rfl

theorem fits_header (r : TableReport) : ∀ text ∈ r.header, Table.FitsColumn text := by
  have short (texts : List String) (all : texts.all (·.length ≤ 100) = true) :
      ∀ text ∈ texts, Table.FitsColumn text := by
    intro text member
    have le : text.length ≤ 100 := of_decide_eq_true (List.all_eq_true.mp all text member)
    exact (Nat.add_le_add_right le Table.gap).trans (by decide)
  cases r with
  | findings p fs =>
      apply short
      cases p
      · have upper : LetterCase.upper CollectionProfile.full.name = "FULL" := by cbv
        rw [header, Finding.header, upper]
        rfl
      · have upper : LetterCase.upper CollectionProfile.minimal.name = "MINIMAL" := by cbv
        rw [header, Finding.header, upper]
        rfl
  | status fs => exact short StatusFinding.header rfl
  | counts records => exact short ["METRIC", "CARDINALITY"] rfl

theorem fits_name (p : CollectionProfile) : Table.FitsColumn p.name := by
  unfold Table.FitsColumn
  cases p <;> decide

theorem fits_empty : Table.FitsColumn "" := by
  unfold Table.FitsColumn
  decide

/-- Of the cells of a status row that are padded only the name of the monitor may be long. -/
theorem fits_status_iff (f : StatusFinding) :
    (∀ text ∈ f.row.dropLast, Table.FitsColumn text) ↔ Table.FitsColumn f.monitor := by
  unfold StatusFinding.row
  cases f.kind <;> simp [fits_name, fits_empty]

theorem fits_rows_iff (r : TableReport) :
    (∀ row ∈ r.rows, ∀ text ∈ row.dropLast, Table.FitsColumn text) ↔ r.Fits := by
  cases r with
  | findings p fs =>
      simp only [rows, Fits, texts, List.forall_mem_map, List.forall_mem_flatMap]
      rfl
  | status fs => simp only [rows, Fits, texts, List.forall_mem_map, fits_status_iff]
  | counts records => simp [rows, Fits, texts]

theorem laysOut_iff_fits (r : TableReport) : Table.laysOut r.header r.rows = true ↔ r.Fits := by
  rw [Table.laysOut_iff_of_even r.even, List.forall_mem_cons, fits_rows_iff]
  exact and_iff_right fun text member => r.fits_header text (List.dropLast_subset _ member)

theorem generate?_eq (r : TableReport) : Table.generate? r.header r.rows =
    if r.Fits then some (Table.render r.header r.rows) else none := by
  simp only [Table.generate?, laysOut_iff_fits]

theorem render?_eq (r : TableReport) (path : String) :
    (r.sink path).render? = if r.Fits then some (r.sink path).render else none := by
  rw [ReportSink.render?, sink, generate?_eq]
  split <;> rfl

/-- A report without rows has nothing that could be too long. -/
theorem fits_of_rows_nil (none : r.rows = []) : r.Fits :=
  r.fits_rows_iff.mp fun _ listed => absurd listed (none ▸ List.not_mem_nil)

theorem finish?_eq (r : TableReport) (path : String) (files : FileTree) :
    (r.sink path).finish? files =
      if r.Fits then some ((r.sink path).finish files) else none := by
  unfold ReportSink.finish ReportSink.finish?
  by_cases none : (r.sink path).rows = []
  · rw [if_pos (List.isEmpty_iff.mpr none), if_pos (fits_of_rows_nil none)]
    rfl
  · rw [if_neg (mt List.isEmpty_iff.mp none), r.render?_eq path]
    split <;> rfl

/-- A report that does not fit is not written. -/
theorem finish_of_wide (wide : ¬ r.Fits) (path : String) (files : FileTree) :
    (r.sink path).finish files = (files, .error .panic) := by
  rw [ReportSink.finish, r.finish?_eq, if_neg wide]
  rfl

/-- **A report has a table exactly if what stands in its padded columns is short.** Then no cell is
padded beyond the largest width there is, and the report is rendered and finished. Otherwise some
cell would have to be, and none of this can be done. -/
theorem reports_laid_out_iff (r : TableReport) (path : String) (files : FileTree) :
    ((∀ w ∈ Table.paddings r.header r.rows, w ≤ Table.maxWidth) ↔ r.Fits) ∧
    Table.generate? r.header r.rows =
      (if r.Fits then some (Table.render r.header r.rows) else none) ∧
    (r.sink path).render? = (if r.Fits then some (r.sink path).render else none) ∧
    (r.sink path).finish? files =
      (if r.Fits then some ((r.sink path).finish files) else none) := by
  refine ⟨?_, r.generate?_eq, r.render?_eq path, r.finish?_eq path files⟩
  rw [Table.paddings_le_iff, r.laysOut_iff_fits]

end TableReport

/-! ## What comes into a report -/

/-- What a rule brings into padded columns fits into them. -/
structure Rule.FitsColumns (r : Rule) : Prop where
  group : Table.FitsColumn r.group
  file : Table.FitsColumn r.file
  name : Table.FitsColumn r.name
  query : Table.FitsColumn (Blank.onOneLine r.query)

namespace TableReport

variable {p : CollectionProfile} {rule : Rule} {rules : List Rule} {loaded : NameSet}
  {index : RegexIndex} {kind : String}

theorem fits_reconcile (short : ∀ r ∈ rules, r.FitsColumns)
    (monitors : ∀ entry ∈ index.entries, Table.FitsColumn entry.1)
    (metrics : ∀ r ∈ rules, ∀ ms, Query.referencedMetrics r.query = .ok ms →
      ∀ m ∈ ms, Table.FitsColumn m) : (findings p (reconcile rules loaded index)).Fits := by
  refine List.forall_mem_flatMap.mpr fun f found => ?_
  obtain ⟨r, listed, found⟩ := List.mem_flatMap.mp found
  obtain ⟨group, file, name, query⟩ := short r listed
  cases Rule.finds_of_mem_findings found with
  | unknown is => simp [Finding.ofRule, group, file, name, query, fits_empty]
  | fault known fails => simp [Finding.ofRule, group, file, name, query, fits_empty]
  | @answer ms metric monitor regex kind known references member entry answer =>
      have own := monitors _ entry
      have asked := metrics r listed ms references metric member
      simp [Finding.ofRule, group, file, name, query, own, asked]

theorem fitsColumns_of_fits_reconcile (listed : rule ∈ rules)
    (unknown : rule.kind = .unknown kind)
    (fits : (findings p (reconcile rules loaded index)).Fits) : rule.FitsColumns := by
  have found : Finding.ofRule rule none none (.unknownRuleKind kind) ∈
      reconcile rules loaded index := by
    refine List.mem_flatMap.mpr ⟨rule, listed, ?_⟩
    rw [Rule.findings, unknown]
    exact List.mem_singleton_self _
  have cells := List.forall_mem_flatMap.mp fits _ found
  simp only [Finding.ofRule, List.forall_mem_cons] at cells
  obtain ⟨-, group, file, name, query, -⟩ := cells
  exact ⟨group, file, name, query⟩

/-- The name of one metric, or of one rule that is reported, can be too long for a table. -/
theorem none_of_wide {long : String} (wide : ¬ Table.FitsColumn long) (listed : rule ∈ rules)
    (unknown : rule.kind = .unknown kind) (named : rule.name = long) (count : Nat) (path : String)
    (files : FileTree) :
    let report := (findings p (reconcile rules loaded index)).sink path
    cardinalityTable? [⟨long, count⟩] = none ∧ report.render? = none ∧
      report.finish? files = none := by
  intro report
  have counts : ¬ (counts [⟨long, count⟩]).Fits := fun fits =>
    wide (fits long (List.mem_singleton_self _))
  have found : ¬ (findings p (reconcile rules loaded index)).Fits := fun fits =>
    wide (named ▸ (fitsColumns_of_fits_reconcile listed unknown fits).name)
  refine ⟨?_, ?_, ?_⟩
  · exact (generate?_eq (.counts [⟨long, count⟩])).trans (if_neg counts)
  · exact (render?_eq _ _).trans (if_neg found)
  · exact (finish?_eq _ _ _).trans (if_neg found)

theorem paddings_counts {metric : String} (long : 6 ≤ metric.length) (count : String) :
    Table.paddings ["METRIC", "CARDINALITY"] [[metric, count]] = [metric.length + Table.gap] := by
  have header : "METRIC".length = 6 := rfl
  simp [Table.paddings, Table.widths, Table.widest, Table.lengths, header, long]

/-- Names with one character too many. -/
theorem too_wide_for_a_table :
    let long := String.ofList (List.replicate 65534 'm')
    let odd : Rule := { alertOn "up" with name := long, kind := .unknown "odd" }
    let report := (findings .minimal (reconcile [odd] .empty .empty)).sink "r.log"
    Table.paddings ["METRIC", "CARDINALITY"] [[long, "1"]] = [65536] ∧ Table.maxWidth < 65536 ∧
      cardinalityTable? [⟨long, 1⟩] = none ∧ report.render? = none ∧
      report.finish? {} = none := by
  have length : (String.ofList (List.replicate 65534 'm')).length = 65534 := by
    rw [String.length_ofList, List.length_replicate]
  -- nothing but its length counts, and it is not to be computed
  generalize String.ofList (List.replicate 65534 'm') = name at length
  intro long odd report
  have length : long.length = 65534 := length
  have wide : ¬ Table.FitsColumn long := by
    rw [Table.FitsColumn, length]
    decide
  refine ⟨?_, by decide, none_of_wide wide (List.mem_singleton_self odd) rfl rfl 1 "r.log" {}⟩
  rw [paddings_counts (by omega), length, Table.gap]

end TableReport

end ProfileAudit
