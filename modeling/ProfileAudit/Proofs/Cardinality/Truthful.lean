import Mathlib.Data.List.Induction
import ProfileAudit.Proofs.Cardinality.Ranking

/-!
# Counts that the backend gave

A run may be cancelled or reach its deadline at any moment of any interleaving: before a task
has its permit, between its look at the clock and its query, while the query is under way, or
after the reply. Wherever that falls, a record goes back to a reply that the backend completed
(`Due`), and a metric without one is missing only because the run was over (`truthful`). The
invariant says of each stage what the trace so far has in store for it (`Grounded`); it holds
on as the trace grows, for no step takes back what was asked, replied or cancelled.
-/

namespace ProfileAudit

open Fanout

variable {b : Backend} {ctx : RunContext} {first : Fanout} {trace longer : List FanoutStep}
  {metric : String}

namespace Fanout

/-! ## Queries and replies -/

/-- The query for a metric began, at some instant, with a step of the trace, while the run was
not cancelled; and this is what the backend did with it. -/
def Asked (b : Backend) (ctx : RunContext) (first : Fanout) (trace : List FanoutStep)
    (metric : String) (began : Nat) (call : Behaviour (List Sample)) : Prop :=
  ∃ past s asking, past ++ [s] <+: trace ∧ first.run b ctx past = asking ∧
    asking.clock.isCancelled = false ∧ asking.clock.now = began ∧
    (asking.step b ctx s).calls = asking.calls ++ [.query (countQuery metric) first.time] ∧
    b.query (countQuery metric) first.time ⟨began, asking.calls⟩ = call

/-- The backend's reply to the query for a metric was complete, and received in a state of the
trace in which the run was not cancelled. -/
def Replied (b : Backend) (ctx : RunContext) (first : Fanout) (trace : List FanoutStep)
    (metric : String) (result : Except Failure (List Sample)) (received : Fanout) : Prop :=
  ∃ past, past <+: trace ∧ first.run b ctx past = received ∧
    received.clock.isCancelled = false ∧
    ∃ began delay, Asked b ctx first past metric began (.after delay result) ∧
      began + delay ≤ received.clock.now

/-- A count that is due to a reply: the total of a success, or nothing for a failure that was
received before the run was over. -/
inductive Due (b : Backend) (ctx : RunContext) (first : Fanout) (trace : List FanoutStep)
    (metric : String) : Nat → Prop
  | total {samples : List Sample} {received : Fanout} :
    Replied b ctx first trace metric (.ok samples) received →
    Due b ctx first trace metric (totalCount samples)
  | failed {failure : Failure} {received : Fanout} :
    Replied b ctx first trace metric (.error failure) received →
    ctx.isOver received.clock = false → Due b ctx first trace metric 0

theorem Asked.extend {began : Nat} {call : Behaviour (List Sample)}
    (asked : Asked b ctx first trace metric began call) (grows : trace <+: longer) :
    Asked b ctx first longer metric began call := by
  obtain ⟨past, s, asking, begins, rest⟩ := asked
  exact ⟨past, s, asking, begins.trans grows, rest⟩

theorem Replied.extend {result : Except Failure (List Sample)} {received : Fanout}
    (replied : Replied b ctx first trace metric result received) (grows : trace <+: longer) :
    Replied b ctx first longer metric result received := by
  obtain ⟨past, within, rest⟩ := replied
  exact ⟨past, within.trans grows, rest⟩

theorem Due.extend {count : Nat} (due : Due b ctx first trace metric count)
    (grows : trace <+: longer) : Due b ctx first longer metric count := by
  cases due with
  | total replied => exact .total (replied.extend grows)
  | failed replied running => exact .failed (replied.extend grows) running

/-- The clock goes on along a trace. -/
theorem goesTo_longer (grows : trace <+: longer) :
    (first.run b ctx trace).clock.GoesTo (first.run b ctx longer).clock := by
  obtain ⟨rest, rfl⟩ := grows
  rw [run_append]
  exact goesTo_run b ctx _ rest

theorem Asked.began_le {began : Nat} {call : Behaviour (List Sample)}
    (asked : Asked b ctx first trace metric began call) :
    began ≤ (first.run b ctx trace).clock.now := by
  obtain ⟨past, s, asking, begins, rfl, -, rfl, -⟩ := asked
  have earlier : past <+: trace := (List.prefix_append past [s]).trans begins
  exact (goesTo_longer earlier).now_le

/-! ## What each stage goes back to -/

/-- What the trace has in store for a stage. -/
def Grounded (b : Backend) (ctx : RunContext) (first : Fanout) (trace : List FanoutStep)
    (metric : String) : CountStage → Prop
  | .asking began call => Asked b ctx first trace metric began call
  | .answered result =>
    (∃ received, Replied b ctx first trace metric result received) ∨
      (∃ failure, result = .error failure) ∧ ctx.isOver (first.run b ctx trace).clock = true
  | .done (some count) => Due b ctx first trace metric count
  | .done none => ctx.isOver (first.run b ctx trace).clock = true
  | _ => True

theorem Grounded.extend {stage : CountStage} (grounded : Grounded b ctx first trace metric stage)
    (grows : trace <+: longer) : Grounded b ctx first longer metric stage := by
  cases stage with
  | asking => exact Asked.extend grounded grows
  | answered =>
      rcases grounded with ⟨received, replied⟩ | ⟨failed, closed⟩
      · exact .inl ⟨received, replied.extend grows⟩
      · exact .inr ⟨failed, RunContext.isOver_of_goesTo (goesTo_longer grows) closed⟩
  | done count =>
      cases count with
      | some count => exact Due.extend grounded grows
      | none => exact RunContext.isOver_of_goesTo (goesTo_longer grows) grounded
  | _ => trivial

/-- The wait for a query ends with its reply, or because the run is over. -/
theorem Asked.grounded_of_poll {began : Nat} {call : Behaviour (List Sample)}
    {result : Except Failure (List Sample)} (asked : Asked b ctx first trace metric began call)
    (polled : ctx.poll? (countQuery metric) began call (first.run b ctx trace).clock =
      some result) : Grounded b ctx first trace metric (.answered result) := by
  have began_le := asked.began_le
  rcases RunContext.poll?_cases polled with ⟨cancelled, rfl⟩ | ⟨running, ended | ⟨late, rfl⟩⟩
  · exact .inr ⟨⟨_, rfl⟩, RunContext.isOver_iff.mpr (.inl cancelled)⟩
  · obtain ⟨delay, short, rfl⟩ := ended
    exact .inl ⟨_, trace, List.prefix_rfl, rfl, running, began, delay, asked, by omega⟩
  · exact .inr ⟨⟨_, rfl⟩, RunContext.isOver_iff.mpr (.inr late)⟩

/-- A count of nothing is assumed only for a failure that came while the run was not over. -/
theorem Replied.due_of_running {failure : Failure} {received : Fanout}
    (replied : Replied b ctx first trace metric (.error failure) received)
    (running : ctx.isOver (first.run b ctx trace).clock = false) :
    Due b ctx first trace metric 0 := by
  obtain ⟨past, earlier, rfl, -⟩ := id replied
  exact .failed replied (RunContext.running_of_goesTo (goesTo_longer earlier) running)

theorem time_run (b : Backend) (ctx : RunContext) (f : Fanout) (trace : List FanoutStep) :
    (f.run b ctx trace).time = f.time := by
  induction trace generalizing f with
  | nil => rfl
  | cons s trace ih =>
      refine (ih _).trans ?_
      have steps := f.step_cases b ctx s
      generalize f.step b ctx s = g at steps
      cases steps with
      | still => rfl
      | clock => rfl
      | task at_ turns moved => exact moved.time

theorem run_concat (b : Backend) (ctx : RunContext) (f : Fanout) (trace : List FanoutStep)
    (s : FanoutStep) : f.run b ctx (trace ++ [s]) = (f.run b ctx trace).step b ctx s :=
  run_append b ctx f trace [s]

/-- A task that goes on goes on with what the trace has in store for it. -/
theorem Turns.grounded {stage stage' : CountStage} {s : FanoutStep}
    (turns : Turns b ctx (first.run b ctx trace) metric stage stage')
    (moved : Moved (first.run b ctx trace) ((first.run b ctx trace).step b ctx s) metric stage
      stage')
    (grounded : Grounded b ctx first trace metric stage) :
    Grounded b ctx first (trace ++ [s]) metric stage' := by
  have grows : trace <+: trace ++ [s] := List.prefix_append trace [s]
  have later (closed : ctx.isOver (first.run b ctx trace).clock = true) :
      ctx.isOver (first.run b ctx (trace ++ [s])).clock = true :=
    RunContext.isOver_of_goesTo (goesTo_longer grows) closed
  cases turns with
  | enter => trivial
  | leave cancelled => exact later (RunContext.isOver_iff.mpr (.inl cancelled))
  | skip closed => exact later closed
  | clear => trivial
  | drop cancelled => exact .inr ⟨⟨_, rfl⟩, later (RunContext.isOver_iff.mpr (.inl cancelled))⟩
  | ask running =>
      have calls := moved.calls
      rw [time_run] at calls ⊢
      exact ⟨trace, s, _, List.prefix_rfl, rfl, running, rfl, calls, rfl⟩
  | answer polled =>
      have asked : Asked b ctx first trace metric _ _ := grounded
      exact (asked.grounded_of_poll polled).extend grows
  | count =>
      rcases grounded with ⟨received, replied⟩ | ⟨⟨_, failed⟩, -⟩
      · exact .total (replied.extend grows)
      · cases failed
  | assume running =>
      rcases grounded with ⟨received, replied⟩ | ⟨-, closed⟩
      · exact (replied.due_of_running running).extend grows
      · cases closed.symm.trans running
  | giveUp closed => exact later closed

/-- **What the tasks come to is grounded in the trace**, in every interleaving. -/
theorem grounded_run (fresh : ∀ t ∈ first.tasks, t.2 = .waiting) (trace : List FanoutStep) :
    ∀ t ∈ (first.run b ctx trace).tasks, Grounded b ctx first trace t.1 t.2 := by
  induction trace using List.reverseRecOn with
  | nil =>
      intro t task
      rw [fresh t task]
      trivial
  | append_singleton trace s ih =>
      have grows : trace <+: trace ++ [s] := List.prefix_append trace [s]
      have steps := (first.run b ctx trace).step_cases b ctx s
      rw [run_concat]
      generalize same : (first.run b ctx trace).step b ctx s = g at steps
      cases steps with
      | still => exact fun t task => (ih t task).extend grows
      | clock => exact fun t task => (ih t task).extend grows
      | task at_ turns moved =>
          subst same
          intro t task
          rcases moved.mem_tasks task with rfl | old
          · exact turns.grounded moved (ih _ (mem_of_stage? at_))
          · exact (ih t old).extend grows

end Fanout

/-! ## Truthful records -/

theorem Fanout.Due.replied {count : Nat} (due : Due b ctx first trace metric count) :
    ∃ result received, Replied b ctx first trace metric result received := by
  cases due with
  | total replied => exact ⟨_, _, replied⟩
  | failed replied => exact ⟨_, _, replied⟩

/-- The records of an interleaving say what the backend replied and nothing else. -/
structure Truthful (b : Backend) (ctx : RunContext) (metrics : List String) (first : Fanout)
    (trace : List FanoutStep) (records : List CardinalityRecord) : Prop where
  once : (records.map (·.metric)).Nodup
  listed : ∀ r ∈ records, r.metric ∈ metrics
  sorted : records.Pairwise fun r s => s.count ≤ r.count
  due : ∀ r ∈ records, Due b ctx first trace r.metric r.count
  /-- A query without a reply leaves no record. -/
  dropped : ∀ metric, (¬ ∃ result received, Replied b ctx first trace metric result received) →
    ∀ r ∈ records, r.metric ≠ metric
  missing : ∀ metric ∈ metrics, (∀ r ∈ records, r.metric ≠ metric) →
    ctx.isOver (first.run b ctx trace).clock = true

theorem Fanout.Sound.once_records {f : Fanout} {names : List String} (sound : Sound ctx names f)
    (named : names.Pairwise (· < ·)) : (f.records.map (·.metric)).Nodup := by
  have perm : (f.records.map (·.metric)).Perm (f.counted.map (·.metric)) :=
    (List.mergeSort_perm f.counted CardinalityRecord.notBelow).map _
  refine perm.nodup_iff.mpr (List.pairwise_map.mpr ?_)
  rw [← sound.names_eq] at named
  exact (pairwise_counted named).imp Std.ne_of_lt

/-- A task that has ended without a record has ended without a count. -/
theorem Fanout.mem_tasks_of_missing {f : Fanout} (listed : metric ∈ f.names)
    (ended : f.isDone = true) (absent : ∀ r ∈ f.records, r.metric ≠ metric) :
    (metric, .done none) ∈ f.tasks := by
  obtain ⟨⟨_, stage⟩, task, rfl⟩ := List.mem_map.mp listed
  have finished := List.all_eq_true.mp ended _ task
  cases stage with
  | done count =>
      cases count with
      | none => exact task
      | some count => exact absurd rfl (absent ⟨_, count⟩ (mem_records.mpr task))
  | _ => cases finished

theorem truthful_records {metrics : List String} {clock : Clock} {calls : List Call} {f : Fanout}
    (completes : Completes b ctx (.ofList metrics) clock calls trace f) :
    Truthful b ctx metrics (start (.ofList metrics) ctx clock calls) trace f.records := by
  obtain ⟨rfl, ended⟩ := completes
  have sound := (sound_start (.ofList metrics) ctx clock calls).run (b := b) trace
  have grounded : ∀ t ∈ ((start (.ofList metrics) ctx clock calls).run b ctx trace).tasks,
      Grounded b ctx (start (.ofList metrics) ctx clock calls) trace t.1 t.2 :=
    grounded_run waiting_of_mem_start trace
  have due : ∀ r ∈ ((start (.ofList metrics) ctx clock calls).run b ctx trace).records,
      Due b ctx (start (.ofList metrics) ctx clock calls) trace r.metric r.count :=
    fun r record => grounded _ (mem_records.mp record)
  refine ⟨sound.once_records (NameSet.ofList metrics).ordered, fun r record => ?_,
    CardinalityRecord.pairwise_sorted _, due, fun metric silent r record same => ?_,
    fun metric listed absent => ?_⟩
  · exact NameSet.mem_ofList.mp (sound.metric_mem record)
  · subst same
    exact silent (due r record).replied
  · have named : metric ∈ ((start (.ofList metrics) ctx clock calls).run b ctx trace).names :=
      sound.names_eq ▸ NameSet.mem_ofList.mpr listed
    exact grounded _ (mem_tasks_of_missing named ended absent)

/-- **Records are truthful**, whenever in an interleaving the run is cancelled or reaches its
deadline; and counting follows such an interleaving, unless it would need more permits than there
can be. -/
theorem truthful (b : Backend) (s : Surroundings) (metrics : List String) :
    (∀ clock calls trace f, Completes b s.context (.ofList metrics) clock calls trace f →
      Truthful b s.context metrics (start (.ofList metrics) s.context clock calls) trace
        f.records) ∧
    (s.context.concurrency ≠ some 0 → s.context.canPermit = true →
      ∀ j : Journal, ∃ first trace records,
        first = start (.ofList metrics) s.context (j.clock.pass (s.lag j.moment)) j.calls ∧
        (first.run b s.context trace).clock =
          (evaluateCardinality b (.ofList metrics) s j).2.clock ∧
        (evaluateCardinality b (.ofList metrics) s j).1 = .ok records ∧
        Truthful b s.context metrics first trace records) ∧
    (s.context.canPermit = false →
      ∀ j : Journal, evaluateCardinality b (.ofList metrics) s j = (.error .panic, j)) := by
  refine ⟨fun clock calls trace f completes => truthful_records completes,
    fun bounded permitted j => ?_, evaluateCardinality_of_excess b _⟩
  obtain ⟨trace, f, completes, result⟩ :=
    evaluateCardinality_eq b (.ofList metrics) s j bounded permitted
  rw [result]
  exact ⟨_, trace, f.records, rfl, congrArg Fanout.clock completes.reached, rfl,
    truthful_records completes⟩

/-- One query fails and counts nothing; the other one is dropped by the cancellation. -/
theorem truthful_of_cancelled :
    let b := Backend.ofAnswers (fun _ => .error (.ofText "refused")) fun m => m.calls.length
    let s : Surroundings := ⟨.start 0 9 0, default, fun _ => 0⟩
    let first := start (.ofList ["a", "b"]) s.context {} []
    let trace : List FanoutStep :=
      List.replicate 5 (.advance "a") ++ List.replicate 3 (.advance "b") ++ [.cancel] ++
        List.replicate 2 (.advance "b")
    Truthful b s.context ["a", "b"] first trace [⟨"a", 0⟩] ∧
      ∃ trace records, (evaluateCardinality b (.ofList ["a", "b"]) s {}).1 = .ok records ∧
        Truthful b s.context ["a", "b"] first trace records := by
  intro b s first trace
  obtain ⟨every, counting, -⟩ := truthful b s ["a", "b"]
  have records : (first.run b s.context trace).records = [⟨"a", 0⟩] := by decide +kernel
  obtain ⟨_, followed, found, rfl, -, result, honest⟩ := counting (by decide) (by decide) {}
  exact ⟨records ▸ every {} [] trace _ ⟨rfl, by decide +kernel⟩, followed, found, result, honest⟩

end ProfileAudit
