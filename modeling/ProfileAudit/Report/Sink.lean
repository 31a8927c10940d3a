import ProfileAudit.Files
import ProfileAudit.Report.Table

/-!
Reports of findings. A report collects rows, each of them one issue, and is written only
if there is an issue to report.
-/

namespace ProfileAudit

/-- A report that is being collected. -/
structure ReportSink where
  path : String
  header : List String
  rows : List (List String) := []
  deriving Inhabited

namespace ReportSink

def record (sink : ReportSink) (row : List String) : ReportSink :=
  { sink with rows := sink.rows ++ [row] }

/-- Records several rows. -/
def recordAll (sink : ReportSink) (rows : List (List String)) : ReportSink :=
  rows.foldl record sink

def issues (sink : ReportSink) : Nat := sink.rows.length

/-- The table and a line that counts the issues. -/
def render (sink : ReportSink) : String :=
  Table.render sink.header sink.rows ++ s!"\nencountered {sink.issues} issues\n"

/-- The text of the report, if its table can be laid out. -/
def render? (sink : ReportSink) : Option String :=
  (Table.generate? sink.header sink.rows).map (· ++ s!"\nencountered {sink.issues} issues\n")

/-- Writes the report if there is an issue, and tells where, if its table can be laid out. -/
def finish? (sink : ReportSink) (files : FileTree) :
    Option (FileTree × Except Failure (Option String)) :=
  if sink.rows.isEmpty then some (files, .ok none)
  else sink.render?.map fun text =>
    let (files, written) := files.writeArtifact sink.path text
    (files, written.map fun _ => some sink.path)

/-- Writes the report if there is an issue, and tells where. A table that cannot be laid out ends
the program before anything is written. -/
def finish (sink : ReportSink) (files : FileTree) : FileTree × Except Failure (Option String) :=
  (sink.finish? files).getD (files, .error .panic)

end ReportSink

end ProfileAudit
