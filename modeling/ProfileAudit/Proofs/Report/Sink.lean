import ProfileAudit.Proofs.Files
import ProfileAudit.Proofs.Run
import ProfileAudit.Report.Sink

/-!
# How a report ends

A report without rows is not written. One with rows is there afterwards, or it could not be
written, or not even be laid out, and all files are as they were (`ReportSink.ends_finish`).
-/

namespace ProfileAudit

namespace ReportSink

theorem recordAll_eq (sink : ReportSink) (rows : List (List String)) :
    sink.recordAll rows = { sink with rows := sink.rows ++ rows } := by
  unfold recordAll
  induction rows generalizing sink with
  | nil => rw [List.foldl_nil, List.append_nil]
  | cons row rows ih =>
      rw [List.foldl_cons, ih, record, List.append_assoc]
      rfl

/-- What becomes of a report and of the files. -/
inductive Ends (sink : ReportSink) (files : FileTree) :
    Except Failure (Option String) → FileTree → Prop
  /-- There is nothing to report, and nothing is written. -/
  | empty : sink.rows = [] → Ends sink files (.ok none) files
  /-- The report is there, and its path is returned. -/
  | written {after : FileTree} : sink.rows ≠ [] → Table.laysOut sink.header sink.rows = true →
    after.read sink.path = .ok sink.render → Ends sink files (.ok (some sink.path)) after
  /-- The report cannot be written, and no file is another one than before. -/
  | unwritten {after : FileTree} {failure : Failure} : sink.rows ≠ [] →
    Table.laysOut sink.header sink.rows = true →
    (files.writeArtifact sink.path sink.render).2 = .error failure → files.SameFiles after →
    Ends sink files (.error failure) after
  /-- The table of the report cannot be laid out, and all files are as they were. -/
  | panicked : sink.rows ≠ [] → Table.laysOut sink.header sink.rows = false →
    Ends sink files (.error .panic) files

/-- A report ends in a panic exactly if there is one and it cannot be laid out. -/
theorem Ends.eq_panic_iff {sink : ReportSink} {files after : FileTree}
    {result : Except Failure (Option String)} (ended : sink.Ends files result after) :
    result = .error .panic ↔ sink.rows ≠ [] ∧ Table.laysOut sink.header sink.rows = false := by
  cases ended with
  | empty none => exact iff_of_false nofun fun broken => broken.1 none
  | written _ laid => exact iff_of_false nofun fun broken => nomatch broken.2.symm.trans laid
  | unwritten _ laid failed =>
      obtain ⟨fault, lines, rfl⟩ := FileTree.exists_io_of_writeArtifact failed
      exact iff_of_false nofun fun broken => nomatch broken.2.symm.trans laid
  | panicked some wide => exact iff_of_true rfl ⟨some, wide⟩

/-- No path is returned, and no failure, exactly if there is nothing to report. -/
theorem Ends.eq_none_iff {sink : ReportSink} {files after : FileTree}
    {result : Except Failure (Option String)} (ended : sink.Ends files result after) :
    result = .ok none ↔ sink.rows = [] := by
  cases ended with
  | empty none => exact iff_of_true rfl none
  | written some => exact iff_of_false nofun some
  | unwritten some => exact iff_of_false nofun some
  | panicked some => exact iff_of_false nofun some

/-- A report that can be laid out and written is written, unless there is nothing to report. -/
theorem Ends.of_writable {path : String} {header : List String} {rows : List (List String)}
    {files after : FileTree} {result : Except Failure (Option String)}
    (ended : (ReportSink.mk path header rows).Ends files result after)
    (laid : Table.laysOut header rows = true)
    (writable : ∀ text, (files.writeArtifact path text).2 = .ok ()) :
    (rows = [] ∧ result = .ok none ∧ after = files) ∨
      (rows ≠ [] ∧ result = .ok (some path) ∧
        after.read path = .ok (ReportSink.mk path header rows).render) := by
  cases ended with
  | empty none => exact .inl ⟨none, rfl, rfl⟩
  | written some _ held => exact .inr ⟨some, rfl, held⟩
  | unwritten _ _ failed => cases (writable _).symm.trans failed
  | panicked _ wide => cases wide.symm.trans laid

/-- A report that cannot be laid out ends in a panic. -/
theorem Ends.of_wide {path : String} {header : List String} {rows : List (List String)}
    {files after : FileTree} {result : Except Failure (Option String)}
    (ended : (ReportSink.mk path header rows).Ends files result after) (some : rows ≠ [])
    (wide : Table.laysOut header rows = false) : result = .error .panic ∧ after = files := by
  cases ended with
  | empty none => exact absurd none some
  | written _ laid => cases wide.symm.trans laid
  | unwritten _ laid => cases wide.symm.trans laid
  | panicked => exact ⟨rfl, rfl⟩

theorem render?_of_laid {sink : ReportSink} (laid : Table.laysOut sink.header sink.rows = true) :
    sink.render? = some sink.render := by
  rw [render?, Table.generate?, if_pos laid, Option.map_some]
  rfl

theorem render?_of_wide {sink : ReportSink} (wide : Table.laysOut sink.header sink.rows = false) :
    sink.render? = none := by
  rw [render?, Table.generate?, wide]
  rfl

theorem finish_of_empty {sink : ReportSink} (none : sink.rows = []) (files : FileTree) :
    sink.finish files = (files, .ok Option.none) := by
  rw [finish, finish?, if_pos (List.isEmpty_iff.mpr none), Option.getD_some]

/-- With rows, what becomes of the report is what becomes of its file. -/
theorem finish_of_rows {sink : ReportSink} (some : sink.rows ≠ [])
    (laid : Table.laysOut sink.header sink.rows = true) (files : FileTree) :
    sink.finish files = ((files.writeArtifact sink.path sink.render).1,
      (files.writeArtifact sink.path sink.render).2.map fun _ => Option.some sink.path) := by
  rw [finish, finish?, if_neg fun empty => some (List.isEmpty_iff.mp empty), render?_of_laid laid]
  rfl

theorem finish_of_wide {sink : ReportSink} (some : sink.rows ≠ [])
    (wide : Table.laysOut sink.header sink.rows = false) (files : FileTree) :
    sink.finish files = (files, .error .panic) := by
  rw [finish, finish?, if_neg fun empty => some (List.isEmpty_iff.mp empty), render?_of_wide wide]
  rfl

theorem ends_finish (sink : ReportSink) (files : FileTree) :
    sink.Ends files (sink.finish files).2 (sink.finish files).1 := by
  by_cases none : sink.rows = []
  · rw [finish_of_empty none]
    exact .empty none
  · cases laid : Table.laysOut sink.header sink.rows with
    | true =>
        rw [finish_of_rows none laid]
        rcases files.settled_writeArtifact sink.path sink.render with
          ⟨ok, held⟩ | ⟨failure, failed, same⟩
        · rw [ok]
          exact .written none laid held
        · rw [failed]
          exact .unwritten none laid failed same
    | false =>
        rw [finish_of_wide none laid]
        exact .panicked none laid

end ReportSink

end ProfileAudit
