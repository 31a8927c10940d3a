import ProfileAudit.Report.Table
import ProfileAudit.Run

/-!
How many series each metric has. The counts are asked for at once, as far as the limits of
the run allow, and each count is a task of its own. Tasks are interleaved: a trace of
steps says in which order, and the run follows one such trace.
-/

namespace ProfileAudit

/-- The number of series of a metric. -/
structure CardinalityRecord where
  metric : String
  count : Nat
  deriving DecidableEq, Inhabited

/-- The nearest whole number of 64 bits, and of two the greater one. -/
def nearest (x : Float) : Nat :=
  let positive := if 0 < x then x else 0
  let whole := positive.toUInt64
  min (Nat.pow 2 64 - 1)
    (whole.toNat + if 0.5 ≤ positive - whole.toFloat then 1 else 0)

/-- The sum of the finite samples as a whole number of 64 bits, rounded. -/
def totalCount (samples : List Sample) : Nat :=
  nearest (((samples.map (·.value)).filter Float.isFinite).foldl (· + ·) 0)

/-- The query for the number of series of a metric. -/
def countQuery (metric : String) : String := s!"count({metric})"

/-! ## Tasks -/

/-- Where a task is. -/
inductive CountStage where
  /-- It waits for a permit. -/
  | waiting
  /-- It has a permit. -/
  | admitted
  /-- It has seen that the run is not over. -/
  | cleared
  /-- Its query began at some instant. -/
  | asking (began : Nat) (call : Behaviour (List Sample))
  /-- Its query has ended. -/
  | answered (result : Except Failure (List Sample))
  /-- It has ended, with a count or with none. -/
  | done (count : Option Nat)

/-- The task has a permit. -/
def CountStage.isHolding : CountStage → Bool
  | waiting => false
  | done _ => false
  | _ => true

/-- All tasks, the free permits (no number means that none is needed), the clock, and the
calls that have begun. -/
structure Fanout where
  tasks : List (String × CountStage)
  permits : Option Nat
  /-- The instant at which all queries are evaluated. -/
  time : Nat
  clock : Clock
  calls : List Call

/-- A step of the whole. -/
inductive FanoutStep where
  /-- A task goes on by one stage. -/
  | advance (metric : String)
  /-- A task that waits for a permit sees that the run is cancelled. -/
  | leave (metric : String)
  /-- Time passes. -/
  | pass (duration : Nat)
  /-- The run is cancelled. -/
  | cancel

namespace Fanout

def stage? (f : Fanout) (metric : String) : Option CountStage := f.tasks.lookup metric

/-- Moves a task to a stage. -/
def move (f : Fanout) (metric : String) (stage : CountStage) : Fanout :=
  { f with tasks := f.tasks.map fun t => if t.1 = metric then (metric, stage) else t }

/-- Ends a task, which gives its permit back. -/
def finish (f : Fanout) (metric : String) (count : Option Nat) : Fanout :=
  { f.move metric (.done count) with permits := f.permits.map (· + 1) }

/-- Ends a task that waits for a permit, if the run is cancelled. -/
def leave (metric : String) (f : Fanout) : Fanout :=
  match f.stage? metric, f.permits with
  | some .waiting, some _ => if f.clock.isCancelled then f.move metric (.done none) else f
  | _, _ => f

/-- Lets a task go on by one stage, if it can. -/
def advance (b : Backend) (ctx : RunContext) (metric : String) (f : Fanout) : Fanout :=
  match f.stage? metric with
  | some .waiting =>
    match f.permits with
    | none => f.move metric .admitted
    | some (n + 1) => { f.move metric .admitted with permits := some n }
    | some 0 => f.leave metric
  | some .admitted =>
    if ctx.isOver f.clock then f.finish metric none else f.move metric .cleared
  | some .cleared =>
    let query := countQuery metric
    if f.clock.isCancelled then f.move metric (.answered (.error (.cancelled query)))
    else
      let call := b.query query f.time ⟨f.clock.now, f.calls⟩
      { f.move metric (.asking f.clock.now call) with calls := f.calls ++ [.query query f.time] }
  | some (.asking began call) =>
    match ctx.poll? (countQuery metric) began call f.clock with
    | some result => f.move metric (.answered result)
    | none => f
  | some (.answered (.ok samples)) => f.finish metric (some (totalCount samples))
  | some (.answered (.error _)) =>
    f.finish metric (if ctx.isOver f.clock then none else some 0)
  | some (.done _) => f
  | none => f

def step (b : Backend) (ctx : RunContext) (f : Fanout) : FanoutStep → Fanout
  | .advance metric => f.advance b ctx metric
  | .leave metric => f.leave metric
  | .pass duration => { f with clock := f.clock.pass duration }
  | .cancel => { f with clock := f.clock.cancel }

/-- Follows a trace of steps. -/
def run (b : Backend) (ctx : RunContext) (f : Fanout) (trace : List FanoutStep) : Fanout :=
  trace.foldl (step b ctx) f

/-- The tasks for some metrics before their first step. -/
def start (metrics : NameSet) (ctx : RunContext) (clock : Clock) (calls : List Call) : Fanout where
  tasks := metrics.toList.map (·, .waiting)
  permits := ctx.concurrency
  time := clock.now
  clock := clock
  calls := calls

/-- All tasks have ended. -/
def isDone (f : Fanout) : Bool := f.tasks.all fun
  | (_, .done _) => true
  | _ => false

/-- The counts of the tasks that have ended with one, the highest one first. -/
def records (f : Fanout) : List CardinalityRecord :=
  let counted := f.tasks.filterMap fun
    | (metric, .done (some count)) => some (⟨metric, count⟩ : CardinalityRecord)
    | _ => none
  counted.mergeSort fun a b => decide (b.count ≤ a.count)

/-! ## The trace of a run -/

/-- The number of stages from the first to the last one. -/
def stages : Nat := 5

/-- Each task in turn goes on as far as it can without waiting. -/
def round (f : Fanout) : List FanoutStep :=
  f.tasks.flatMap fun t => List.replicate stages (.advance t.1)

/-- How long it takes until the wait for a query ends, if one has begun. -/
def nextEnd? (ctx : RunContext) (f : Fanout) : Option Nat :=
  (f.tasks.filterMap fun
    | (metric, .asking began call) =>
      let ending := (ctx.guard (countQuery metric) call { f.clock with now := began }).2
      some (ending.now - f.clock.now)
    | _ => none).min?

/-- Follows rounds, waiting for a query after each, until all tasks have ended. Each round
takes some task on, so there are no more rounds than the stages of all tasks. -/
def settle (b : Backend) (ctx : RunContext) : Nat → Fanout → Fanout
  | 0, f => f
  | fuel + 1, f =>
    let f := f.run b ctx f.round
    if f.isDone then f
    else settle b ctx fuel (f.run b ctx [.pass ((f.nextEnd? ctx).getD 0)])

end Fanout

/-! ## Counting -/

/-- The largest number of permits that there can be. -/
def maxPermits : Nat := Nat.pow 2 61 - 1

/-- There can be as many permits as the limits of the run name. -/
def RunContext.canPermit (ctx : RunContext) : Bool :=
  ctx.concurrency.all (decide <| · ≤ maxPermits)

/-- Counts the series of some metrics, the highest count first and by name among equal
ones. A metric whose query fails has none; one whose query did not end before the run was
over is left out. Too many permits end the program before any task begins. -/
def evaluateCardinality (b : Backend) (metrics : NameSet) : Audit (List CardinalityRecord) :=
  .ofStep fun s j =>
    if s.context.canPermit then
      let start := Fanout.start metrics s.context (j.clock.pass (s.lag j.moment)) j.calls
      let f := start.settle b s.context (Fanout.stages * metrics.toList.length)
      (.ok f.records, { j with clock := f.clock, calls := f.calls })
    else (.error .panic, j)

/-- The table of the counts. -/
def cardinalityTable (records : List CardinalityRecord) : String :=
  Table.render ["METRIC", "CARDINALITY"] (records.map fun r => [r.metric, toString r.count])

/-- The table of the counts, if it can be laid out. -/
def cardinalityTable? (records : List CardinalityRecord) : Option String :=
  Table.generate? ["METRIC", "CARDINALITY"] (records.map fun r => [r.metric, toString r.count])

end ProfileAudit
