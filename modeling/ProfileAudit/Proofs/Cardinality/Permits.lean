import ProfileAudit.Proofs.Cardinality.Ending
import ProfileAudit.Proofs.Names

/-!
# Permits and queries in flight

A task asks only while it holds a permit, and each permit is free or held by one task. So at no
point of any interleaving are more queries in flight than there are permits, and when all tasks
have ended, in whatever way, all permits are free again. No query begins twice: a task that asks
leaves the stages before its query for good (`Asks.query`).
-/

namespace ProfileAudit

open Fanout

/-! ## Stages -/

namespace CountStage

/-- The query is in flight. -/
def isAsking : CountStage → Bool
  | asking _ _ => true
  | _ => false

/-- The query is still ahead. -/
def mayAsk : CountStage → Bool
  | waiting => true
  | admitted => true
  | cleared => true
  | _ => false

theorem isHolding_of_isAsking {stage : CountStage} (asks : stage.isAsking = true) :
    stage.isHolding = true := by
  cases stage with
  | asking => rfl
  | _ => cases asks

end CountStage

theorem countQuery_injective {metric metric' : String}
    (same : countQuery metric = countQuery metric') : metric = metric' := by
  have chars : ("count(" ++ metric ++ ")").toList = ("count(" ++ metric' ++ ")").toList :=
    congrArg String.toList same
  simp only [String.toList_append] at chars
  exact String.toList_inj.mp (List.append_cancel_left (List.append_cancel_right chars))

namespace Fanout

variable {b : Backend} {ctx : RunContext} {first f g : Fanout} {metric : String}
  {stage stage' : CountStage} {names : List String} {asked : List Call}

/-- Only a task that has seen that the run goes on begins its query, and nothing else is asked. -/
theorem Turns.calls_cases (turns : Turns b ctx f metric stage stage') (time : Nat) :
    stage'.calls metric time = [] ∧ (stage'.mayAsk = true → stage.mayAsk = true) ∨
      stage'.calls metric time = [.query (countQuery metric) time] ∧
        stage.mayAsk = true ∧ stage'.mayAsk = false := by
  cases turns with
  | ask => exact .inr ⟨rfl, rfl, rfl⟩
  | enter => exact .inl ⟨rfl, fun _ => rfl⟩
  | clear => exact .inl ⟨rfl, fun _ => rfl⟩
  | _ => exact .inl ⟨rfl, nofun⟩

/-! ## Permits -/

/-- How many queries are in flight. -/
def inFlight (f : Fanout) : Nat := f.tasks.countP (·.2.isAsking)

/-- How many tasks hold a permit. -/
def holders (f : Fanout) : Nat := f.tasks.countP (·.2.isHolding)

theorem inFlight_le_holders (f : Fanout) : f.inFlight ≤ f.holders :=
  List.countP_mono_left fun _ _ => CountStage.isHolding_of_isAsking

theorem total_held (f : Fanout) : f.total CountStage.held = f.holders := by
  unfold total holders
  induction f.tasks with
  | nil => rfl
  | cons t tasks ih =>
      rw [List.map_cons, List.sum_cons, ih, List.countP_cons, CountStage.held]
      cases t.2.isHolding <;> simp [Nat.add_comm]

theorem holders_eq_zero (ended : f.isDone = true) : f.holders = 0 := by
  refine List.countP_eq_zero.mpr fun t task => ?_
  have finished := List.all_eq_true.mp ended t task
  obtain ⟨metric, stage⟩ := t
  cases stage with
  | done => exact Bool.false_ne_true
  | _ => cases finished

/-- Each permit is free or held by one task. -/
theorem Sound.exists_free_permits {n : Nat} (sound : Sound ctx names f)
    (bounded : ctx.concurrency = some n) :
    ∃ free, f.permits = some free ∧ free + f.holders = n := by
  have permits := sound.permits
  rw [bounded, total_held, Option.map_eq_some_iff] at permits
  exact permits

/-! ## Queries -/

/-- What has been asked since the first state: queries for some of the metrics, none of them
twice and none that is still ahead of a task. -/
structure Asks (names : List String) (first f : Fanout) (asked : List Call) : Prop where
  time : f.time = first.time
  calls : f.calls = first.calls ++ asked
  once : asked.Nodup
  listed : ∀ c ∈ asked, ∃ metric ∈ names, c = .query (countQuery metric) first.time
  ahead : ∀ t ∈ f.tasks, t.2.mayAsk = true → .query (countQuery t.1) first.time ∉ asked

/-- A task that goes on without asking leaves what has been asked as it is. -/
theorem Asks.silent (asks : Asks names first f asked) (at_ : f.stage? metric = some stage)
    (moved : Moved f g metric stage stage') (silent : stage'.calls metric f.time = [])
    (kept : stage'.mayAsk = true → stage.mayAsk = true) : Asks names first g asked := by
  obtain ⟨time, calls, once, listed, ahead⟩ := asks
  refine ⟨moved.time.trans time, ?_, once, listed, fun t member may => ?_⟩
  · rw [moved.calls, silent, List.append_nil, calls]
  · rcases moved.mem_tasks member with rfl | old
    · exact ahead (metric, stage) (mem_of_stage? at_) (kept may)
    · exact ahead t old may

/-- A task that asks has not asked before, and will not again. -/
theorem Asks.query (asks : Asks names first f asked) (sound : Sound ctx names f)
    (at_ : f.stage? metric = some stage) (moved : Moved f g metric stage stage')
    (begins : stage'.calls metric f.time = [.query (countQuery metric) f.time])
    (may : stage.mayAsk = true) (past : stage'.mayAsk = false) :
    Asks names first g (asked ++ [.query (countQuery metric) first.time]) := by
  obtain ⟨time, calls, once, listed, ahead⟩ := asks
  have task : (metric, stage) ∈ f.tasks := mem_of_stage? at_
  have new : .query (countQuery metric) first.time ∉ asked := ahead _ task may
  refine ⟨moved.time.trans time, ?_, ?_, fun c member => ?_, fun t member still found => ?_⟩
  · rw [moved.calls, begins, calls, time, List.append_assoc]
  · rw [← List.concat_eq_append]
    exact once.concat new
  · rcases List.mem_append.mp member with before | last
    · exact listed c before
    · have named : metric ∈ names := sound.names_eq ▸ List.mem_map_of_mem task
      exact ⟨metric, named, List.mem_singleton.mp last⟩
  · rcases moved.mem_tasks_cases member with rfl | ⟨old, other⟩
    · cases past.symm.trans still
    · rcases List.mem_append.mp found with before | last
      · exact ahead t old still before
      · rw [List.mem_singleton, Call.query.injEq] at last
        exact other (countQuery_injective last.1)

theorem Asks.step (asks : Asks names first f asked) (sound : Sound ctx names f) (s : FanoutStep) :
    ∃ asked', Asks names first (f.step b ctx s) asked' := by
  have steps := f.step_cases b ctx s
  generalize f.step b ctx s = g at steps
  cases steps with
  | still => exact ⟨asked, asks⟩
  | clock => exact ⟨asked, asks.time, asks.calls, asks.once, asks.listed, asks.ahead⟩
  | task at_ turns moved =>
      rcases turns.calls_cases f.time with ⟨silent, kept⟩ | ⟨begins, may, past⟩
      · exact ⟨asked, asks.silent at_ moved silent kept⟩
      · exact ⟨_, asks.query sound at_ moved begins may past⟩

/-- **No query begins twice**, in whatever order the tasks go on. -/
theorem Asks.run (asks : Asks names first f asked) (sound : Sound ctx names f)
    (trace : List FanoutStep) : ∃ asked', Asks names first (f.run b ctx trace) asked' := by
  induction trace generalizing f asked with
  | nil => exact ⟨asked, asks⟩
  | cons s trace ih =>
      obtain ⟨_, later⟩ := asks.step sound s
      exact ih later (sound.step s)

theorem asks_start (metrics : NameSet) (clock : Clock) (calls : List Call) :
    Asks names (start metrics ctx clock calls) (start metrics ctx clock calls) [] :=
  ⟨rfl, (List.append_nil _).symm, .nil, nofun, fun _ _ _ => List.not_mem_nil⟩

end Fanout

/-! ## The bound -/

/-- A state in which a bound on the queries at once is kept. -/
structure Fanout.Keeps (n : Nat) (metrics : List String) (first f : Fanout) : Prop where
  inFlight_le : f.inFlight ≤ n
  permits : ∃ free, f.permits = some free ∧ free + f.holders = n
  /-- Of the queries for the metrics, some have begun, and none of them twice. -/
  once : ∃ asked, f.calls = first.calls ++ asked ∧ asked.Nodup ∧
    ∀ c ∈ asked, ∃ metric ∈ metrics, c = .query (countQuery metric) first.time
  returned : f.isDone = true → f.permits = some n

theorem Fanout.keeps_run {b : Backend} {ctx : RunContext} {n : Nat}
    (bounded : ctx.concurrency = some n) (metrics : List String) (clock : Clock)
    (calls : List Call) (trace : List FanoutStep) :
    Keeps n metrics (start (.ofList metrics) ctx clock calls)
      ((start (.ofList metrics) ctx clock calls).run b ctx trace) := by
  have begins := sound_start (.ofList metrics) ctx clock calls
  have sound := begins.run (b := b) trace
  obtain ⟨asked, asks⟩ := (asks_start (.ofList metrics) clock calls).run (b := b) begins trace
  obtain ⟨free, permits, together⟩ := sound.exists_free_permits bounded
  have below := ((start (.ofList metrics) ctx clock calls).run b ctx trace).inFlight_le_holders
  refine ⟨by omega, ⟨free, permits, together⟩, ⟨asked, asks.calls, asks.once, ?_⟩, fun ended => ?_⟩
  · intro c member
    obtain ⟨metric, named, same⟩ := asks.listed c member
    exact ⟨metric, NameSet.mem_ofList.mp named, same⟩
  · rw [holders_eq_zero ended, Nat.add_zero] at together
    exact together ▸ permits

/-- **A bound on the queries at once is kept** at every point of every interleaving, wherever the
run is cancelled; and a run ends with all permits free. It does not begin with more permits than
there can be. -/
theorem keeps_bound (b : Backend) (s : Surroundings) (metrics : List String) {n : Nat}
    (bounded : s.context.concurrency = some n) (positive : 1 ≤ n) :
    (∀ clock calls trace, Keeps n metrics (start (.ofList metrics) s.context clock calls)
      ((start (.ofList metrics) s.context clock calls).run b s.context trace)) ∧
    (n ≤ maxPermits → ∀ j : Journal, ∃ trace f,
      Completes b s.context (.ofList metrics) (j.clock.pass (s.lag j.moment)) j.calls trace f ∧
      evaluateCardinality b (.ofList metrics) s j =
        (.ok f.records, { j with clock := f.clock, calls := f.calls }) ∧
      f.permits = some n) ∧
    (maxPermits < n → ∀ j : Journal,
      evaluateCardinality b (.ofList metrics) s j = (.error .panic, j)) := by
  have can := RunContext.canPermit_of_limit bounded
  refine ⟨keeps_run bounded metrics, fun le j => ?_, fun excess j => ?_⟩
  · have positive : s.context.concurrency ≠ some 0 := by
      rw [bounded]
      exact fun none_left => absurd (Option.some.inj none_left) (by omega)
    obtain ⟨trace, f, completes, result⟩ := evaluateCardinality_eq b (.ofList metrics) s j positive
      (can.trans (decide_eq_true le))
    refine ⟨trace, f, completes, result, ?_⟩
    obtain ⟨rfl, ended⟩ := completes
    exact (keeps_run bounded metrics _ _ trace).returned ended
  · exact evaluateCardinality_of_excess b _ (can.trans (decide_eq_false (Nat.not_le.mpr excess))) j

/-- With one permit for two metrics, the run is cancelled while the first query is in flight. -/
theorem keeps_bound_of_cancelled :
    let b : Backend := ⟨fun _ => .never, fun _ _ => .never, fun _ => .never, fun _ _ _ => .never⟩
    let s : Surroundings := ⟨.start 0 9 1, default, fun _ => 0⟩
    let first := start (.ofList ["b", "a", "b"]) s.context {} []
    let trace : List FanoutStep :=
      List.replicate 3 (.advance "a") ++ [.advance "b", .cancel, .leave "b", .advance "a"]
    s.context.concurrency = some 1 ∧ 1 ≤ 1 ∧ 1 ≤ maxPermits ∧
      (first.run b s.context (trace.take 4)).inFlight = 1 ∧
      Keeps 1 ["b", "a", "b"] first (first.run b s.context trace) ∧
      ∃ f : Fanout, (evaluateCardinality b (.ofList ["b", "a", "b"]) s {}).1 = .ok f.records ∧
        f.permits = some 1 := by
  intro b s first trace
  have bounded : s.context.concurrency = some 1 := by decide
  have permitted : 1 ≤ maxPermits := by decide
  obtain ⟨every, counting, -⟩ := keeps_bound b s ["b", "a", "b"] bounded (Nat.le_refl 1)
  obtain ⟨_, f, -, result, returned⟩ := counting permitted {}
  exact ⟨bounded, Nat.le_refl 1, permitted, by decide +kernel, every {} [] trace, f,
    congrArg Prod.fst result, returned⟩

end ProfileAudit
