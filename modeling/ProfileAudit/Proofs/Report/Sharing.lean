import Mathlib.Data.List.Basic
import Mathlib.Logic.Function.Basic
import ProfileAudit.Proofs.Report.Sink
import ProfileAudit.Proofs.Report.Widths

/-!
# A report that is shared

Several producers record rows in one sink, ask how many there are and look at the report, each at
its own pace. Every call holds the lock, so nothing but whose turn it is remains open, and a
schedule says that. Whoever looks at a report that cannot be laid out panics with the lock in hand,
and then nobody gets hold of the lock any more. What has been called so far explains the sink and
all that the producers were told (`SharedSink.Consistent`); a turn keeps this up, and so does any
schedule.
-/

namespace ProfileAudit

/-! ## Producers -/

/-- A call to a sink. -/
inductive SinkCall where
  | record (row : List String)
  | issues
  | render
  deriving DecidableEq

/-- What a producer is told. -/
inductive SinkAnswer where
  | recorded
  | count (n : Nat)
  | text (s : String)
  /-- The call panics. -/
  | panicked
  deriving DecidableEq

namespace SinkCall

/-- Carries out a call while nobody else uses the sink, if the call comes to an end. -/
def perform? (sink : ReportSink) : SinkCall → Option (ReportSink × SinkAnswer)
  | record row => some (sink.record row, .recorded)
  | issues => some (sink, .count sink.issues)
  | render => sink.render?.map fun text => (sink, .text text)

def row? : SinkCall → Option (List String)
  | record row => some row
  | issues => none
  | render => none

end SinkCall

/-- A call that was made. -/
structure SinkEvent where
  producer : Nat
  call : SinkCall
  answer : SinkAnswer
  deriving DecidableEq

/-- A sink and those who use it. -/
structure SharedSink where
  sink : ReportSink
  /-- Somebody has panicked with the lock in hand. -/
  isPoisoned : Bool := false
  /-- What each producer has still to call. -/
  pending : Nat → List SinkCall
  /-- The calls that were made, in their order. -/
  log : List SinkEvent := []

namespace SharedSink

/-- Before the first turn. -/
def start (path : String) (header : List String) (calls : Nat → List SinkCall) : SharedSink where
  sink := { path, header }
  pending := calls

/-- A producer makes its next call, if it has one. A producer that is done for after a panic is
one that has no further turn. -/
def turn (s : SharedSink) (producer : Nat) : SharedSink :=
  match s.pending producer with
  | [] => s
  | call :: rest =>
    let pending := Function.update s.pending producer rest
    match if s.isPoisoned then none else call.perform? s.sink with
    | some (sink, answer) => { s with sink, pending, log := s.log ++ [⟨producer, call, answer⟩] }
    | none => { s with isPoisoned := true, pending, log := s.log ++ [⟨producer, call, .panicked⟩] }

/-- The producers take turns. -/
def run (s : SharedSink) (schedule : List Nat) : SharedSink := schedule.foldl turn s

/-- Finishes the report when no producer is left. -/
def finish (s : SharedSink) (files : FileTree) : FileTree × Except Failure (Option String) :=
  if s.isPoisoned then (files, .error .panic) else s.sink.finish files

end SharedSink

/-! ## What the calls explain -/

/-- The row that was recorded by a call, if one was. -/
def SinkEvent.row? (e : SinkEvent) : Option (List String) :=
  if e.answer = .recorded then e.call.row? else none

/-- The rows that were recorded. -/
def recordedRows (log : List SinkEvent) : List (List String) := log.filterMap (·.row?)

/-- The report on some rows. -/
def reportText (header : List String) (rows : List (List String)) : String :=
  Table.render header rows ++ s!"\nencountered {rows.length} issues\n"

/-- Somebody has looked at rows that cannot be laid out. -/
def Broken (header : List String) (log : List SinkEvent) : Prop :=
  ∃ before e after, log = before ++ e :: after ∧ e.call = .render ∧
    Table.laysOut header (recordedRows before) = false

/-- What a call comes to, if the rows were recorded before and nobody has panicked. -/
def SinkCall.answer (header : List String) (rows : List (List String)) : SinkCall → SinkAnswer
  | record _ => .recorded
  | issues => .count rows.length
  | render => if Table.laysOut header rows then .text (reportText header rows) else .panicked

/-- What a producer is told is about the calls that were made before. -/
structure SinkEvent.IsAbout (e : SinkEvent) (header : List String) (before : List SinkEvent) :
    Prop where
  whole : ¬ Broken header before → e.answer = e.call.answer header (recordedRows before)
  broken : Broken header before → e.answer = .panicked

/-- The calls that a producer has made. -/
def callsOf (log : List SinkEvent) (producer : Nat) : List SinkCall :=
  (log.filter (·.producer = producer)).map (·.call)

/-- The sink is what the calls have made of it, each producer was told the truth, and has made its
calls in order. -/
structure SharedSink.Consistent (s : SharedSink) (path : String) (header : List String)
    (calls : Nat → List SinkCall) : Prop where
  sink : s.sink = ⟨path, header, recordedRows s.log⟩
  poisoned_iff : s.isPoisoned = true ↔ Broken header s.log
  told : ∀ before e after, s.log = before ++ e :: after → e.IsAbout header before
  order : ∀ producer, callsOf s.log producer ++ s.pending producer = calls producer

theorem recordedRows_append (log : List SinkEvent) (e : SinkEvent) :
    recordedRows (log ++ [e]) = recordedRows log ++ e.row?.toList := by
  unfold recordedRows
  rw [List.filterMap_append]
  cases row : e.row? <;> simp [row]

theorem callsOf_append_self (log : List SinkEvent) (e : SinkEvent) :
    callsOf (log ++ [e]) e.producer = callsOf log e.producer ++ [e.call] := by
  simp [callsOf]

theorem callsOf_append_of_ne {log : List SinkEvent} {e : SinkEvent} {producer : Nat}
    (other : e.producer ≠ producer) : callsOf (log ++ [e]) producer = callsOf log producer := by
  simp [callsOf, other]

/-- A call with what came before it is either the last one or an earlier one. -/
theorem eq_append_cases {log before after : List SinkEvent} {e last : SinkEvent}
    (is : log ++ [last] = before ++ e :: after) :
    (after = [] ∧ before = log ∧ e = last) ∨
      ∃ earlier, after = earlier ++ [last] ∧ log = before ++ e :: earlier := by
  rcases List.eq_nil_or_concat after with rfl | ⟨earlier, other, rfl⟩
  · obtain ⟨same, one⟩ := List.append_inj' is rfl
    cases one
    exact .inl ⟨rfl, same.symm, rfl⟩
  · rw [List.concat_eq_append, ← List.cons_append, ← List.append_assoc] at is
    obtain ⟨same, one⟩ := List.append_inj' is rfl
    cases one
    exact .inr ⟨earlier, List.concat_eq_append, same⟩

theorem broken_append_iff {header : List String} {log : List SinkEvent} {e : SinkEvent} :
    Broken header (log ++ [e]) ↔ Broken header log ∨
      e.call = .render ∧ Table.laysOut header (recordedRows log) = false := by
  constructor
  · rintro ⟨before, looked, after, is, renders, wide⟩
    rcases eq_append_cases is with ⟨rfl, rfl, rfl⟩ | ⟨earlier, rfl, same⟩
    · exact .inr ⟨renders, wide⟩
    · exact .inl ⟨before, looked, earlier, same, renders, wide⟩
  · rintro (⟨before, looked, after, rfl, renders, wide⟩ | ⟨renders, wide⟩)
    · exact ⟨before, looked, after ++ [e], by simp, renders, wide⟩
    · exact ⟨log, e, [], rfl, renders, wide⟩

/-- What is broken stays broken. -/
theorem Broken.append {header : List String} {log : List SinkEvent} (broken : Broken header log)
    (more : List SinkEvent) : Broken header (log ++ more) := by
  obtain ⟨before, looked, after, rfl, renders, wide⟩ := broken
  exact ⟨before, looked, after ++ more, by simp, renders, wide⟩

namespace SinkCall

variable {path : String} {header : List String} {rows : List (List String)}

/-- A call that comes to an end records its row, if it has one, and tells the truth. -/
theorem perform?_eq_some {call : SinkCall} {sink : ReportSink} {answer : SinkAnswer}
    (performs : call.perform? ⟨path, header, rows⟩ = some (sink, answer)) (producer : Nat) :
    sink = ⟨path, header, rows ++ (SinkEvent.mk producer call answer).row?.toList⟩ ∧
      answer = call.answer header rows ∧
      ¬ (call = .render ∧ Table.laysOut header rows = false) := by
  cases call with
  | record row =>
      cases performs
      exact ⟨rfl, rfl, nofun⟩
  | issues =>
      cases performs
      exact ⟨by simp [SinkEvent.row?], rfl, nofun⟩
  | render =>
      cases laid : Table.laysOut header rows with
      | true =>
          rw [perform?, ReportSink.render?_of_laid laid] at performs
          cases performs
          exact ⟨by simp [SinkEvent.row?], by rw [answer, if_pos laid]; rfl, nofun⟩
      | false =>
          rw [perform?, ReportSink.render?_of_wide laid] at performs
          cases performs

/-- A call that does not come to an end looks at rows that cannot be laid out. -/
theorem perform?_eq_none {call : SinkCall} (fails : call.perform? ⟨path, header, rows⟩ = none) :
    call = .render ∧ Table.laysOut header rows = false := by
  cases call with
  | record row => cases fails
  | issues => cases fails
  | render =>
      refine ⟨rfl, Bool.eq_false_iff.mpr fun laid => ?_⟩
      rw [perform?, ReportSink.render?_of_laid laid] at fails
      cases fails

end SinkCall

namespace SharedSink.Consistent

variable {s : SharedSink} {path : String} {header : List String} {calls : Nat → List SinkCall}

theorem start (path : String) (header : List String) (calls : Nat → List SinkCall) :
    (SharedSink.start path header calls).Consistent path header calls where
  sink := rfl
  poisoned_iff := by
    refine iff_of_false Bool.false_ne_true ?_
    rintro ⟨before, e, after, log, -⟩
    cases before <;> cases log
  told before e after log := by cases before <;> cases log
  order _ := rfl

/-- A further call is made in its turn, and its answer is about the calls before it. -/
theorem later {producer : Nat} {call : SinkCall} {rest : List SinkCall} {answer : SinkAnswer}
    {sink : ReportSink} {isPoisoned : Bool} (consistent : s.Consistent path header calls)
    (due : s.pending producer = call :: rest)
    (becomes : sink = ⟨path, header, recordedRows (s.log ++ [⟨producer, call, answer⟩])⟩)
    (poisons : isPoisoned = true ↔ Broken header (s.log ++ [⟨producer, call, answer⟩]))
    (about : (SinkEvent.mk producer call answer).IsAbout header s.log) :
    (SharedSink.mk sink isPoisoned (Function.update s.pending producer rest)
      (s.log ++ [⟨producer, call, answer⟩])).Consistent path header calls where
  sink := becomes
  poisoned_iff := poisons
  told before e after log := by
    rcases eq_append_cases log with ⟨-, rfl, rfl⟩ | ⟨earlier, -, same⟩
    · exact about
    · exact consistent.told before e earlier same
  order other := by
    have before := consistent.order other
    dsimp only
    by_cases same : other = producer
    · subst same
      rw [callsOf_append_self s.log ⟨other, call, answer⟩, Function.update_self,
        List.append_assoc, List.singleton_append, ← due, before]
    · rw [callsOf_append_of_ne (Ne.symm same), Function.update_of_ne same, before]

theorem turn (consistent : s.Consistent path header calls) (producer : Nat) :
    (s.turn producer).Consistent path header calls := by
  unfold SharedSink.turn
  split
  · exact consistent
  · next call rest due =>
      cases poisoned : s.isPoisoned with
      | true =>
          -- nobody gets hold of the lock, and so nothing is recorded
          have broken := consistent.poisoned_iff.mp poisoned
          refine consistent.later due ?_ (iff_of_true rfl (broken.append _))
            ⟨absurd broken, fun _ => rfl⟩
          rw [recordedRows_append, consistent.sink]
          simp [SinkEvent.row?]
      | false =>
          have whole : ¬ Broken header s.log :=
            mt consistent.poisoned_iff.mpr (poisoned ▸ Bool.false_ne_true)
          simp only [Bool.false_eq_true, if_false, consistent.sink]
          split
          · next sink answer performs =>
              obtain ⟨becomes, is, laid⟩ := SinkCall.perform?_eq_some performs producer
              refine consistent.later due ?_ ?_ ⟨fun _ => is, fun broken => absurd broken whole⟩
              · rw [recordedRows_append]
                exact becomes
              · rw [broken_append_iff]
                exact iff_of_false (poisoned ▸ Bool.false_ne_true) (not_or_intro whole laid)
          · next fails =>
              obtain ⟨renders, wide⟩ := SinkCall.perform?_eq_none fails
              refine consistent.later due ?_ ?_ ⟨fun _ => ?_, fun _ => rfl⟩
              · rw [recordedRows_append]
                simp [SinkEvent.row?]
              · exact iff_of_true rfl (broken_append_iff.mpr (.inr ⟨renders, wide⟩))
              · dsimp only
                rw [renders, SinkCall.answer, wide]
                rfl

theorem run (consistent : s.Consistent path header calls) (schedule : List Nat) :
    (s.run schedule).Consistent path header calls := by
  induction schedule generalizing s with
  | nil => exact consistent
  | cons producer schedule ih => exact ih (consistent.turn producer)

/-- As long as nothing is broken nobody panics. -/
theorem not_panicked (consistent : s.Consistent path header calls)
    (whole : ¬ Broken header s.log) {e : SinkEvent} (made : e ∈ s.log) : e.answer ≠ .panicked := by
  obtain ⟨before, after, is⟩ := List.append_of_mem made
  have intact : ¬ Broken header before := fun broken => whole (is ▸ broken.append _)
  rw [(consistent.told before e after is).whole intact]
  cases call : e.call with
  | record row => exact nofun
  | issues => exact nofun
  | render =>
      have laid : Table.laysOut header (recordedRows before) = true := by
        by_contra wide
        exact whole ⟨before, e, after, is, call, Bool.eq_false_iff.mpr wide⟩
      rw [SinkCall.answer, if_pos laid]
      exact nofun

/-- Then every row that a producer has asked to record is recorded. -/
theorem row?_eq (consistent : s.Consistent path header calls) (whole : ¬ Broken header s.log)
    {e : SinkEvent} (made : e ∈ s.log) : e.row? = e.call.row? := by
  obtain ⟨before, after, is⟩ := List.append_of_mem made
  have intact : ¬ Broken header before := fun broken => whole (is ▸ broken.append _)
  have answer := (consistent.told before e after is).whole intact
  cases call : e.call with
  | record row =>
      rw [call] at answer
      rw [SinkEvent.row?, answer, call]
      rfl
  | issues => rw [SinkEvent.row?, call]; exact ite_self _
  | render => rw [SinkEvent.row?, call]; exact ite_self _

end SharedSink.Consistent

/-! ## Rows of several producers -/

/-- The rows are those of all producers, each one's in its own order. -/
def Interleaves (rows : List (List String)) (own : Nat → List (List String)) : Prop :=
  ∃ tagged : List (Nat × List String), tagged.map (·.2) = rows ∧
    ∀ producer, (tagged.filter (·.1 = producer)).map (·.2) = own producer

theorem interleaves_recordedRows (log : List SinkEvent) :
    Interleaves (recordedRows log) fun producer =>
      recordedRows (log.filter (·.producer = producer)) := by
  refine ⟨log.filterMap fun e => e.row?.map (e.producer, ·), ?_, fun producer => ?_⟩
  · rw [List.map_filterMap]
    refine congrArg (List.filterMap · log) (funext fun e => ?_)
    cases e.row? <;> rfl
  · induction log with
    | nil => rfl
    | cons e log ih =>
        by_cases own : e.producer = producer
        · cases row : e.row? <;> simp_all [recordedRows]
        · cases row : e.row? <;> simp_all [recordedRows]

/-- As long as nothing is broken the rows that a producer has recorded are those of its calls. -/
theorem SharedSink.Consistent.recordedRows_filter {s : SharedSink} {path : String}
    {header : List String} {calls : Nat → List SinkCall}
    (consistent : s.Consistent path header calls) (whole : ¬ Broken header s.log) (producer : Nat) :
    recordedRows (s.log.filter (·.producer = producer)) =
      (callsOf s.log producer).filterMap (·.row?) := by
  rw [recordedRows, callsOf, List.filterMap_map]
  refine List.filterMap_congr fun e listed => ?_
  exact consistent.row?_eq whole (List.mem_of_mem_filter listed)

/-! ## The end of the report -/

/-- How a sink ends. Nothing is returned exactly if no row was recorded, and then nothing is
written. With rows, their rendering is in the file of the sink's path, which is returned, and no
other file has changed; or there is a failure, and no file has changed. -/
structure SharedSink.Concludes (s : SharedSink) (files : FileTree) : Prop where
  discarded_iff : (s.finish files).2 = .ok none ↔ s.sink.rows = []
  discarded : s.sink.rows = [] → s.finish files = (files, .ok none)
  kept : s.sink.rows ≠ [] →
    (∃ after, s.finish files = (after, .ok (some s.sink.path)) ∧
        files.Wrote s.sink.path (reportText s.sink.header s.sink.rows) after) ∨
      ∃ after failure, failure ≠ .panic ∧ s.finish files = (after, .error failure) ∧
        files.SameFiles after

/-- Nobody has looked at rows that cannot be laid out, nor are there such rows at the end. -/
structure SharedSink.Sound (s : SharedSink) : Prop where
  whole : ¬ Broken s.sink.header s.log
  laid : s.sink.rows = [] ∨ Table.laysOut s.sink.header s.sink.rows = true

theorem SharedSink.concludes {s : SharedSink} (clean : s.isPoisoned = false)
    (laid : s.sink.rows = [] ∨ Table.laysOut s.sink.header s.sink.rows = true)
    (files : FileTree) : s.Concludes files := by
  have finish : s.finish files = s.sink.finish files := by
    rw [SharedSink.finish, clean]
    rfl
  refine ⟨?_, fun none => ?_, fun some => ?_⟩
  · rw [finish]
    exact (s.sink.ends_finish files).eq_none_iff
  · rw [finish]
    exact ReportSink.finish_of_empty none files
  · have ends := finish.trans (ReportSink.finish_of_rows some (laid.resolve_left some) files)
    rcases files.settled_writeArtifact s.sink.path s.sink.render with
      ⟨ok, -⟩ | ⟨failure, failed, same⟩
    · rw [ok] at ends
      exact .inl ⟨_, ends, files.wrote_writeArtifact ok⟩
    · obtain ⟨fault, lines, rfl⟩ := FileTree.exists_io_of_writeArtifact failed
      rw [failed] at ends
      exact .inr ⟨_, ⟨.io fault, lines⟩, nofun, ends, same⟩

/-- **A shared report is the report of all producers, unless it cannot be laid out.** However many
there are, whatever they call and whoever's turn it is, the calls so far explain the sink and what
everybody was told. Until somebody looks at rows that cannot be laid out nobody panics, the number
of issues is that of the rows that were recorded, and the rows are those of the producers' calls so
far, each one's in its order. From then on every call panics. The sink concludes with its rows
exactly if nobody has done that and its rows can be laid out; otherwise finishing it panics too, and
nothing is written. -/
theorem shared_report (path : String) (header : List String) (calls : Nat → List SinkCall)
    (schedule : List Nat) (files : FileTree) :
    let s := (SharedSink.start path header calls).run schedule
    s.Consistent path header calls ∧
      (¬ Broken header s.log → (∀ e ∈ s.log, e.answer ≠ .panicked) ∧
        s.sink.issues = (recordedRows s.log).length ∧
        Interleaves s.sink.rows fun producer => (callsOf s.log producer).filterMap (·.row?)) ∧
      (s.Concludes files ↔ s.Sound) ∧ (¬ s.Sound → s.finish files = (files, .error .panic)) := by
  intro s
  have consistent : s.Consistent path header calls :=
    (SharedSink.Consistent.start path header calls).run schedule
  have headed : s.sink.header = header := by rw [consistent.sink]
  have ends : ¬ s.Sound → s.finish files = (files, .error .panic) := by
    intro unsound
    cases poisoned : s.isPoisoned with
    | true => rw [SharedSink.finish, if_pos poisoned]
    | false =>
        have whole : ¬ Broken s.sink.header s.log := by
          rw [headed, ← consistent.poisoned_iff, poisoned]
          exact Bool.false_ne_true
        obtain ⟨some, wide⟩ := not_or.mp fun laid => unsound ⟨whole, laid⟩
        rw [SharedSink.finish, poisoned]
        exact ReportSink.finish_of_wide some (Bool.eq_false_iff.mpr wide) files
  refine ⟨consistent, fun whole => ⟨fun e => consistent.not_panicked whole, ?_, ?_⟩, ⟨?_, ?_⟩, ends⟩
  · rw [ReportSink.issues, consistent.sink]
  · rw [consistent.sink]
    simpa only [consistent.recordedRows_filter whole] using interleaves_recordedRows s.log
  · intro concludes
    by_contra unsound
    have ended := ends unsound
    by_cases none : s.sink.rows = []
    · cases ended.symm.trans (concludes.discarded none)
    · rcases concludes.kept none with ⟨after, ok, -⟩ | ⟨after, failure, other, failed, -⟩
      · cases ended.symm.trans ok
      · cases ended.symm.trans failed
        exact other rfl
  · intro sound
    refine SharedSink.concludes ?_ sound.laid files
    rw [← Bool.not_eq_true, consistent.poisoned_iff, ← headed]
    exact sound.whole

/-- A producer looks at a row that cannot be laid out, then another one asks, and then the sink is
finished. -/
theorem SharedSink.run_of_wide {header row : List String}
    (wide : Table.laysOut header [row] = false) :
    let s := (SharedSink.start "r.log" header fun
      | 0 => [.record row, .render]
      | 1 => [.issues]
      | _ => []).run [0, 0, 1]
    s.sink.rows = [row] ∧ s.log.map (·.answer) = [.recorded, .panicked, .panicked] ∧
      s.finish {} = ({}, .error .panic) := by
  have looks : (ReportSink.mk "r.log" header [row]).render? = none :=
    ReportSink.render?_of_wide wide
  simp [run, start, turn, finish, SinkCall.perform?, ReportSink.record, looks, Function.update]

/-- One long cell: who looks at the report panics, and so does who asks for the number of rows
afterwards, and who finishes it. -/
theorem panics_of_long_cell :
    let s := (SharedSink.start "r.log" ["N", "M"] fun
      | 0 => [.record [Table.overlong, ""], .render]
      | 1 => [.issues]
      | _ => []).run [0, 0, 1]
    s.sink.rows = [[Table.overlong, ""]] ∧
      s.log.map (·.answer) = [.recorded, .panicked, .panicked] ∧
      s.finish {} = ({}, .error .panic) := by
  refine SharedSink.run_of_wide (Bool.eq_false_iff.mpr fun laid => ?_)
  have even : Table.Even ["N", "M"] [[Table.overlong, ""]] := by simp [Table.Even]
  exact Table.not_fitsColumn_overlong
    ((Table.laysOut_iff_of_even even).mp laid _ (.tail _ (.head _)) _ (.head _))

/-- Two producers, the second of which asks twice. -/
example : ((SharedSink.start "r.log" ["N"] fun
    | 0 => [.record ["a"], .record ["b"]]
    | 1 => [.issues, .record ["c"], .issues]
    | _ => []).run [0, 1, 1, 0, 1, 1]).log =
    [⟨0, .record ["a"], .recorded⟩, ⟨1, .issues, .count 1⟩, ⟨1, .record ["c"], .recorded⟩,
      ⟨0, .record ["b"], .recorded⟩, ⟨1, .issues, .count 3⟩] := by decide

end ProfileAudit
