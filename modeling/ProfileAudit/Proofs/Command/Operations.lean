import ProfileAudit.Command.Check
import ProfileAudit.Proofs.Profile.Cancellation

/-!
# Operations and their outcomes

The command carries out its operations one after the other, and tells of each how it ended before it
goes on with the next one. An operation prints nothing itself, so what is printed is what is told
(`Outcomes.printed`), and whatever becomes of an operation, the next one is carried out, unless
the operation panics (`exists_outcomes`).
-/

namespace ProfileAudit

/-! ## Operations -/

/-- The operations of the command. -/
inductive CheckOperation where
  | validation | extraction | status
  deriving DecidableEq

namespace CheckOperation

/-- The operations in the order in which they are carried out. -/
def all : List CheckOperation := [validation, extraction, status]

def name : CheckOperation → String
  | validation => "validation"
  | extraction => "extraction"
  | status => "status"

def isRequested (a : CheckArgs) : CheckOperation → Bool
  | validation => a.validate
  | extraction => !a.sources.isEmpty
  | status => a.status

/-- The operation looks at the monitors of the cluster. -/
def needsCluster : CheckOperation → Bool
  | validation => true
  | extraction => false
  | status => true

/-- How the operation is carried out. -/
def part (a : CheckArgs) (backend : Backend) (settings : ProfileSettings) (source : MonitorSource) :
    CheckOperation → Audit (List String)
  | validation => a.validation backend source settings
  | extraction => a.extraction backend settings
  | status => a.statusReport source settings

end CheckOperation

namespace CheckArgs

variable (a : CheckArgs)

/-- The operations that are asked for. -/
def requested : List CheckOperation := CheckOperation.all.filter (·.isRequested a)

/-- The operations that are carried out: without a cluster only those that do without one. -/
def carriedOut (connected : Bool) : List CheckOperation :=
  a.requested.filter fun o => connected || !o.needsCluster

theorem carriedOut_true : a.carriedOut true = a.requested :=
  List.filter_eq_self.mpr fun _ _ => rfl

/-- The operations are reported one after the other. Without a cluster it makes no difference what
would be in it. -/
theorem operations_eq (backend : Backend) (source : Option MonitorSource)
    (settings : ProfileSettings) (other : MonitorSource) : a.operations backend source settings =
      (a.carriedOut source.isSome).forM fun o =>
        Audit.report o.name (o.part a backend settings (source.getD other)) := by
  unfold operations carriedOut requested
  cases source <;> cases validate : a.validate <;> cases extract : a.sources.isEmpty <;>
    cases status : a.status <;>
    simp [CheckOperation.all, CheckOperation.isRequested, CheckOperation.needsCluster,
      CheckOperation.name, CheckOperation.part, validate, extract, status]

end CheckArgs

/-! ## What is told of an operation -/

/-- The line on a validation, by the path of its report. -/
def validationLine : Option String → String
  | some path => s!"Validation found discrepancies, refer: {path}"
  | none => "Validation found no discrepancies"

/-- The lines on an extraction, by what it has made. -/
def extractionLines (o : ExtractionOutcome) : List String :=
  s!"Extracted {o.metrics.toList.length} metric(s), refer: {o.relabelConfig}" ::
    (o.cardinalityReport.map fun path => s!"Cardinality statistics, refer: {path}").toList

/-- The line on the status, by the path of its report. -/
def statusLine : Option String → String
  | some path => s!"Some profiles are not fully implemented, refer: {path}"
  | none => "All profiles are fully implemented"

namespace CheckArgs

variable (a : CheckArgs)

theorem validation_eq (backend : Backend) (source : MonitorSource) (settings : ProfileSettings) :
    a.validation backend source settings = (do
      let p ← Audit.ofResult (a.profileFor (·.canValidate) "validation")
      let path ← p.validate backend source settings
      return [validationLine path]) := by
  unfold validation
  refine congrArg _ (funext fun p => congrArg _ (funext fun path => ?_))
  cases path <;> rfl

theorem extraction_eq (backend : Backend) (settings : ProfileSettings) :
    a.extraction backend settings = (do
      let p ← Audit.ofResult (a.profileFor (·.canExtract) "extraction")
      let o ← p.extract backend a.sources settings a.outputCardinality
      return extractionLines o) := rfl

theorem statusReport_eq (source : MonitorSource) (settings : ProfileSettings) :
    a.statusReport source settings = (do
      let path ← reportStatus source settings a.profile
      return [statusLine path]) := by
  unfold statusReport
  refine congrArg _ (funext fun path => ?_)
  cases path <;> rfl

end CheckArgs

namespace CheckOperation

/-- The lines that tell of an operation that did not fail. -/
def Tells : CheckOperation → List String → Prop
  | validation, lines => ∃ path, lines = [validationLine path]
  | extraction, lines => ∃ o, lines = extractionLines o
  | status, lines => ∃ path, lines = [statusLine path]

variable {a : CheckArgs} {backend : Backend} {settings : ProfileSettings} {source : MonitorSource}

theorem mute_part (o : CheckOperation) : Mute (o.part a backend settings source) := by
  cases o with
  | validation =>
      unfold part
      rw [a.validation_eq]
      exact .bind (.ofResult _) fun p => .bind (.validate p _ _ _) fun _ => .pure _
  | extraction =>
      unfold part
      rw [a.extraction_eq]
      exact .bind (.ofResult _) fun p => .bind (.extract p _ _ _ _) fun _ => .pure _
  | status =>
      unfold part
      rw [a.statusReport_eq]
      exact .bind (.reportStatus _ _ _) fun _ => .pure _

theorem tells_part {o : CheckOperation} {s : Surroundings} {j : Journal} {lines : List String}
    (ok : (o.part a backend settings source s j).1 = .ok lines) : o.Tells lines := by
  cases o with
  | validation =>
      unfold part at ok
      rw [a.validation_eq] at ok
      obtain ⟨p, _, -, ok⟩ := Audit.exists_of_bind_ok ok
      obtain ⟨path, _, -, ok⟩ := Audit.exists_of_bind_ok ok
      cases ok
      exact ⟨path, rfl⟩
  | extraction =>
      unfold part at ok
      rw [a.extraction_eq] at ok
      obtain ⟨p, _, -, ok⟩ := Audit.exists_of_bind_ok ok
      obtain ⟨o, _, -, ok⟩ := Audit.exists_of_bind_ok ok
      cases ok
      exact ⟨o, rfl⟩
  | status =>
      unfold part at ok
      rw [a.statusReport_eq] at ok
      obtain ⟨path, _, -, ok⟩ := Audit.exists_of_bind_ok ok
      cases ok
      exact ⟨path, rfl⟩

end CheckOperation

/-! ## Outcomes -/

/-- The outcome of an operation: the lines on it, or why it failed. -/
abbrev Outcome := CheckOperation × Except Failure (List String)

namespace Outcome

/-- What is printed of an outcome. -/
def output : Outcome → String
  | (_, .ok lines) => String.join (lines.map (· ++ "\n"))
  | (_, .error _) => ""

/-- What is printed of an outcome as a complaint. -/
def errors : Outcome → String
  | (_, .ok _) => ""
  | (o, .error f) => s!"{o.name} failed: {f.render}" ++ "\n"

end Outcome

/-- An outcome has been told. -/
def Journal.telling (j : Journal) (outcome : Outcome) : Journal :=
  { j with output := j.output ++ outcome.output, errors := j.errors ++ outcome.errors }

@[simp]
theorem Journal.telling_clock (j : Journal) (outcome : Outcome) :
    (j.telling outcome).clock = j.clock := rfl

@[simp]
theorem Journal.telling_files (j : Journal) (outcome : Outcome) :
    (j.telling outcome).files = j.files := rfl

theorem Audit.forM_say (lines : List String) (s : Surroundings) (j : Journal) :
    lines.forM Audit.say s j =
      (.ok (), { j with output := j.output ++ String.join (lines.map (· ++ "\n")) }) := by
  induction lines generalizing j with
  | nil =>
      rw [List.map_nil, String.join_nil, String.append_empty]
      rfl
  | cons line lines ih =>
      change (Audit.say line >>= fun _ => lines.forM Audit.say) s j = _
      rw [Audit.bind_apply, Audit.say, Audit.ofStep]
      dsimp only
      rw [ih, List.map_cons, String.join_cons, String.append_assoc, String.append_assoc,
        String.append_assoc]

/-- The result is a panic. -/
def panics {α : Type} : Except Failure α → Bool
  | .error f => f.isPanic
  | .ok _ => false

/-- An operation that returns is told, and nothing is lost by that. -/
theorem Audit.report_of_returned {part : Audit (List String)} {s : Surroundings} {j : Journal}
    (returned : panics (part s j).1 = false) (o : CheckOperation) :
    Audit.report o.name part s j = (.ok (), (part s j).2.telling (o, (part s j).1)) := by
  unfold Audit.report
  rw [Audit.bind_apply]
  simp only [Audit.attempt, Audit.ofStep]
  generalize part s j = ending at returned ⊢
  obtain ⟨failure | lines, k⟩ := ending
  · have returned : failure.isPanic = false := returned
    simp only [returned, Audit.complain, Audit.ofStep, Journal.telling, Outcome.output,
      Outcome.errors, Bool.false_eq_true, if_false, String.append_empty, String.append_assoc]
  · simp only [Audit.forM_say, Journal.telling, Outcome.output, Outcome.errors,
      String.append_empty]

/-- A panic is not told, but passed on. -/
theorem Audit.report_of_panic {part : Audit (List String)} {s : Surroundings} {j k : Journal}
    {f : Failure} (ends : part s j = (.error f, k)) (panic : f.isPanic = true)
    (operation : String) : Audit.report operation part s j = (.error f, k) := by
  unfold Audit.report
  rw [Audit.bind_apply]
  simp only [Audit.attempt, Audit.ofStep, ends, if_pos panic]

/-- The outcomes of some operations that return, one after the other. -/
inductive Outcomes (s : Surroundings) (part : CheckOperation → Audit (List String)) :
    List CheckOperation → Journal → List Outcome → Journal → Prop
  | done {j : Journal} : Outcomes s part [] j [] j
  | next {o : CheckOperation} {ops : List CheckOperation} {j k l : Journal}
    {r : Except Failure (List String)} {outcomes : List Outcome} :
    part o s j = (r, k) → panics r = false → Outcomes s part ops (k.telling (o, r)) outcomes l →
    Outcomes s part (o :: ops) j ((o, r) :: outcomes) l

/-- Some operations return, and then one panics. -/
structure BreaksOff (s : Surroundings) (part : CheckOperation → Audit (List String))
    (ops done : List CheckOperation) (o : CheckOperation) (j : Journal) (outcomes : List Outcome)
    (f : Failure) (k : Journal) : Prop where
  among : done ++ [o] <+: ops
  panics : f.isPanic = true
  broken : ∃ before, Outcomes s part done j outcomes before ∧ part o s before = (.error f, k)

/-- An outcome is told before the next operation is carried out. -/
theorem Audit.forM_report_cons {s : Surroundings} {part : CheckOperation → Audit (List String)}
    {o : CheckOperation} {j : Journal} (returned : panics (part o s j).1 = false)
    (ops : List CheckOperation) :
    ((o :: ops).forM fun o => Audit.report o.name (part o)) s j =
      (ops.forM fun o => Audit.report o.name (part o)) s
        ((part o s j).2.telling (o, (part o s j).1)) := by
  change (Audit.report o.name (part o) >>= fun _ =>
    ops.forM fun o => Audit.report o.name (part o)) s j = _
  rw [Audit.bind_apply, Audit.report_of_returned returned]

/-- **No operation stops the next one, unless it panics.** -/
theorem exists_outcomes (s : Surroundings) (part : CheckOperation → Audit (List String))
    (ops : List CheckOperation) (j : Journal) :
    (∃ outcomes k, Outcomes s part ops j outcomes k ∧
      (ops.forM fun o => Audit.report o.name (part o)) s j = (.ok (), k)) ∨
    ∃ done o outcomes f k, BreaksOff s part ops done o j outcomes f k ∧
      (ops.forM fun o => Audit.report o.name (part o)) s j = (.error f, k) := by
  induction ops generalizing j with
  | nil => exact .inl ⟨[], j, .done, rfl⟩
  | cons o ops ih =>
      cases returned : panics (part o s j).1 with
      | false =>
          rw [Audit.forM_report_cons returned]
          rcases ih ((part o s j).2.telling (o, (part o s j).1)) with
            ⟨outcomes, k, run, ends⟩ | ⟨done, o', outcomes, f, k, breaks, ends⟩
          · exact .inl ⟨_, k, .next rfl returned run, ends⟩
          · obtain ⟨before, run, broken⟩ := breaks.broken
            refine .inr ⟨o :: done, o', _, f, k, ⟨?_, breaks.panics, before,
              .next rfl returned run, broken⟩, ends⟩
            exact List.cons_prefix_cons.mpr ⟨rfl, breaks.among⟩
      | true =>
          cases ends : part o s j with
          | mk r k =>
          cases r with
          | ok lines =>
              rw [ends] at returned
              cases returned
          | error f =>
              rw [ends] at returned
              refine .inr ⟨[], o, [], f, k, ⟨?_, returned, j, .done, ends⟩, ?_⟩
              · exact List.cons_prefix_cons.mpr ⟨rfl, List.nil_prefix⟩
              · change (Audit.report o.name (part o) >>= fun _ =>
                  ops.forM fun o => Audit.report o.name (part o)) s j = _
                rw [Audit.bind_apply, Audit.report_of_panic ends returned]

namespace Outcomes

variable {s : Surroundings} {part : CheckOperation → Audit (List String)}
  {ops : List CheckOperation} {j k : Journal} {outcomes : List Outcome}

theorem operations (run : Outcomes s part ops j outcomes k) : outcomes.map (·.1) = ops := by
  induction run with
  | done => rfl
  | next _ _ _ ih => rw [List.map_cons, ih]

/-- None of the operations has panicked. -/
theorem returned (run : Outcomes s part ops j outcomes k) :
    ∀ outcome ∈ outcomes, panics outcome.2 = false := by
  induction run with
  | done => exact List.forall_mem_nil _
  | next _ returned _ ih => exact List.forall_mem_cons.mpr ⟨returned, ih⟩

/-- What is printed is what is told of the operations. -/
theorem printed (mute : ∀ o, Mute (part o)) (run : Outcomes s part ops j outcomes k) :
    k.output = j.output ++ String.join (outcomes.map (·.output)) ∧
      k.errors = j.errors ++ String.join (outcomes.map (·.errors)) ∧ k.exit = j.exit := by
  induction run with
  | done => simp
  | @next o _ j k _ r _ ends _ _ ih =>
      obtain ⟨output, errors, exit⟩ := (mute o).keeps s j
      rw [ends] at output errors exit
      obtain ⟨output', errors', exit'⟩ := ih
      refine ⟨?_, ?_, exit'.trans exit⟩
      · rw [output', List.map_cons, String.join_cons, ← String.append_assoc, ← output]
        rfl
      · rw [errors', List.map_cons, String.join_cons, ← String.append_assoc, ← errors]
        rfl

/-- What is told of an operation that did not fail is what its lines say. -/
theorem tells (kind : ∀ o s j lines, (part o s j).1 = .ok lines → o.Tells lines)
    (run : Outcomes s part ops j outcomes k) {o : CheckOperation} {lines : List String}
    (told : (o, .ok lines) ∈ outcomes) : o.Tells lines := by
  induction run with
  | done => cases told
  | next ends _ _ ih =>
      rcases List.mem_cons.mp told with is | told
      · cases is
        exact kind _ _ _ _ (congrArg Prod.fst ends)
      · exact ih told

end Outcomes

/-- If there is one operation only, it is that one which panics. -/
theorem BreaksOff.of_singleton {s : Surroundings} {part : CheckOperation → Audit (List String)}
    {done : List CheckOperation} {only o : CheckOperation} {j k : Journal}
    {outcomes : List Outcome} {f : Failure}
    (breaks : BreaksOff s part [only] done o j outcomes f k) :
    part only s j = (.error f, k) := by
  obtain ⟨before, run, broken⟩ := breaks.broken
  have among := breaks.among
  cases run with
  | done =>
      obtain ⟨rfl, -⟩ := List.cons_prefix_cons.mp among
      exact broken
  | next => simp at among

/-- Before a panic everything has been told of the operations that returned. -/
theorem BreaksOff.printed {s : Surroundings} {part : CheckOperation → Audit (List String)}
    {ops done : List CheckOperation} {o : CheckOperation} {j k : Journal} {outcomes : List Outcome}
    {f : Failure} (mute : ∀ o, Mute (part o))
    (breaks : BreaksOff s part ops done o j outcomes f k) :
    k.output = j.output ++ String.join (outcomes.map (·.output)) ∧
      k.errors = j.errors ++ String.join (outcomes.map (·.errors)) ∧ k.exit = j.exit := by
  obtain ⟨before, run, broken⟩ := breaks.broken
  obtain ⟨output, errors, exit⟩ := (mute o).keeps s before
  rw [broken] at output errors exit
  obtain ⟨output', errors', exit'⟩ := run.printed mute
  exact ⟨output.trans output', errors.trans errors', exit.trans exit'⟩

end ProfileAudit
