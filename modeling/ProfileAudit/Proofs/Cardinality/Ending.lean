import ProfileAudit.Proofs.Cardinality.Step

/-!
# Counting comes to an end

No interleaving gets stuck: as long as a task has not ended, some task can go on, at the latest
when the next query ends. For where nobody asks nobody holds a permit, and then there is one for
a task that waits. Every stage that a task goes on brings the end nearer, so the rounds of a run
are enough for all tasks to end (`isDone_settle`).
-/

namespace ProfileAudit

open Fanout

namespace Fanout

variable {b : Backend} {ctx : RunContext} {f : Fanout} {metric : String} {names : List String}

/-- How many stages are ahead of all tasks. -/
def rank (f : Fanout) : Nat := f.total CountStage.rank

theorem total_eq_zero_iff {weight : CountStage → Nat} :
    f.total weight = 0 ↔ ∀ t ∈ f.tasks, weight t.2 = 0 := by
  rw [total, List.sum_eq_zero_iff_forall_eq_nat, List.forall_mem_map]

theorem isDone_iff : f.isDone = true ↔ f.rank = 0 := by
  rw [isDone, rank, total_eq_zero_iff, List.all_eq_true]
  refine forall_congr' fun t => forall_congr' fun _ => ?_
  obtain ⟨metric, stage⟩ := t
  cases stage <;> simp [CountStage.rank, stages]

/-- A task can go on. -/
def Free (ctx : RunContext) (f : Fanout) (metric : String) : Prop :=
  ¬ Blocked ctx f metric (f.stage? metric)

theorem Free.mem_names (free : Free ctx f metric) : metric ∈ f.names := by
  cases at_ : f.stage? metric with
  | none => exact absurd (at_ ▸ .absent) free
  | some stage => exact List.mem_map_of_mem (mem_of_stage? at_)

/-! ## Progress -/

/-- A task that moves on brings the end nearer. -/
theorem Moved.rank_lt {g : Fanout} {stage stage' : CountStage}
    (moved : Moved f g metric stage stage') (once : f.names.Nodup)
    (at_ : f.stage? metric = some stage) (turns : Turns b ctx f metric stage stage') :
    g.rank < f.rank := by
  have sums := moved.total once at_ CountStage.rank
  have := turns.rank_lt
  unfold rank
  omega

theorem Sound.rank_step_le (sound : Sound ctx names f) (s : FanoutStep) :
    (f.step b ctx s).rank ≤ f.rank := by
  have steps := f.step_cases b ctx s
  generalize f.step b ctx s = g at steps
  cases steps with
  | still => exact Nat.le_refl _
  | clock => exact Nat.le_refl _
  | task at_ turns moved => exact Nat.le_of_lt (moved.rank_lt sound.once at_ turns)

theorem Sound.rank_run_le (sound : Sound ctx names f) (trace : List FanoutStep) :
    (f.run b ctx trace).rank ≤ f.rank := by
  induction trace generalizing f with
  | nil => exact Nat.le_refl _
  | cons s trace ih => exact Nat.le_trans (ih (sound.step s)) (sound.rank_step_le s)

/-- Where a task can go on, letting all tasks go on brings the end nearer: up to the first one
that does, nothing changes. -/
theorem Sound.rank_run_lt (sound : Sound ctx names f) (free : Free ctx f metric)
    {trace : List FanoutStep} (only : ∀ s ∈ trace, ∃ m, s = .advance m)
    (listed : .advance metric ∈ trace) : (f.run b ctx trace).rank < f.rank := by
  induction trace with
  | nil => cases listed
  | cons s trace ih =>
      obtain ⟨m, rfl⟩ := only s List.mem_cons_self
      change ((f.advance b ctx m).run b ctx trace).rank < f.rank
      rcases f.advance_cases b ctx m with ⟨still, blocked⟩ | ⟨stage, stage', at_, turns, moved⟩
      · rw [still]
        refine ih (fun s member => only s (List.mem_cons_of_mem _ member)) ?_
        rcases List.mem_cons.mp listed with same | later
        · cases same
          exact absurd blocked free
        · exact later
      · have sound' : Sound ctx names (f.advance b ctx m) := sound.step (.advance m)
        exact Nat.lt_of_le_of_lt (sound'.rank_run_le trace) (moved.rank_lt sound.once at_ turns)

theorem Sound.rank_round_lt (sound : Sound ctx names f) (free : Free ctx f metric) :
    (f.run b ctx f.round).rank < f.rank := by
  refine sound.rank_run_lt free (fun s member => ?_) ?_
  · obtain ⟨t, -, member⟩ := List.mem_flatMap.mp member
    exact ⟨t.1, List.eq_of_mem_replicate member⟩
  · obtain ⟨t, task, same⟩ := List.mem_map.mp free.mem_names
    refine List.mem_flatMap.mpr ⟨t, task, ?_⟩
    rw [same]
    exact List.mem_replicate.mpr ⟨by decide, rfl⟩

/-! ## No deadlock -/

/-- The state when the next query ends. -/
def afterNext (ctx : RunContext) (f : Fanout) : Fanout :=
  { f with clock := f.clock.pass ((f.nextEnd? ctx).getD 0) }

/-- When the first query ends, its task can go on. -/
theorem Sound.free_of_asking (sound : Sound ctx names f) {began : Nat}
    {call : Behaviour (List Sample)} (task : (metric, .asking began call) ∈ f.tasks) :
    ∃ m, Free ctx (f.afterNext ctx) m := by
  cases next : f.nextEnd? ctx with
  | none =>
      rw [nextEnd?, List.min?_eq_none_iff, List.filterMap_eq_nil_iff] at next
      cases next _ task
  | some wait =>
      have first := List.min?_mem next
      obtain ⟨⟨m, stage⟩, task, ends⟩ := List.mem_filterMap.mp first
      cases stage with
      | asking began call =>
          have ends : (ctx.guard (countQuery m) call { f.clock with now := began }).2.now -
              f.clock.now = wait := Option.some.inj ends
          refine ⟨m, fun blocked => ?_⟩
          have at_ : (f.afterNext ctx).stage? m = some (.asking began call) :=
            (mem_tasks_iff sound.once).mp task
          have past : (ctx.guard (countQuery m) call { f.clock with now := began }).2.now ≤
              f.clock.now + wait := by omega
          have polled :
              (ctx.poll? (countQuery m) began call (f.afterNext ctx).clock).isSome = true := by
            rw [afterNext, next]
            exact RunContext.poll?_isSome past
          rw [at_] at blocked
          cases blocked with
          | asking waits =>
              rw [waits] at polled
              cases polled
      | _ => cases ends

/-- A task that has a permit and does not ask can go on. -/
theorem Sound.free_of_holding (sound : Sound ctx names f) {stage : CountStage}
    (task : (metric, stage) ∈ f.tasks) (holding : stage.isHolding = true)
    (quiet : ∀ began call, stage ≠ .asking began call) : Free ctx f metric := by
  intro blocked
  rw [(mem_tasks_iff sound.once).mp task] at blocked
  cases blocked with
  | done => cases holding
  | waiting => cases holding
  | asking => exact quiet _ _ rfl

/-- Where no task has a permit, one that waits can go on. -/
theorem Sound.free_of_waiting (sound : Sound ctx names f) (bounded : ctx.concurrency ≠ some 0)
    (task : (metric, .waiting) ∈ f.tasks) (unheld : ∀ t ∈ f.tasks, t.2.isHolding = false) :
    Free ctx f metric := by
  have none_held : f.total CountStage.held = 0 :=
    total_eq_zero_iff.mpr fun t member => by rw [CountStage.held, unheld t member]; rfl
  intro blocked
  rw [(mem_tasks_iff sound.once).mp task] at blocked
  cases blocked with
  | waiting taken =>
      have permits := sound.permits
      rw [taken, none_held] at permits
      exact bounded permits.symm

/-- **Some task can go on** when the next query ends, unless all have ended. -/
theorem Sound.exists_free (sound : Sound ctx names f) (bounded : ctx.concurrency ≠ some 0)
    (unfinished : f.isDone = false) : ∃ m, Free ctx (f.afterNext ctx) m := by
  have later : Sound ctx names (f.afterNext ctx) := ⟨sound.names_eq, sound.once, sound.permits⟩
  by_cases asking : ∃ metric began call, (metric, .asking began call) ∈ f.tasks
  · obtain ⟨metric, began, call, task⟩ := asking
    exact sound.free_of_asking task
  · by_cases holding : ∃ t ∈ f.tasks, t.2.isHolding = true
    · obtain ⟨⟨metric, stage⟩, task, holding⟩ := holding
      exact ⟨metric, later.free_of_holding task holding
        fun began call same => asking ⟨metric, began, call, same ▸ task⟩⟩
    · have unheld : ∀ t ∈ f.tasks, t.2.isHolding = false := by simpa using holding
      rw [isDone, List.all_eq_false] at unfinished
      obtain ⟨⟨metric, stage⟩, task, going⟩ := unfinished
      have idle := unheld _ task
      cases stage with
      | waiting => exact ⟨metric, later.free_of_waiting bounded task unheld⟩
      | done => exact absurd rfl going
      | _ => cases idle

/-! ## Rounds -/

theorem run_append (b : Backend) (ctx : RunContext) (f : Fanout) (first rest : List FanoutStep) :
    f.run b ctx (first ++ rest) = (f.run b ctx first).run b ctx rest := List.foldl_append

/-- The rounds of a run are an interleaving. -/
theorem exists_settle_eq_run (b : Backend) (ctx : RunContext) (fuel : Nat) (f : Fanout) :
    ∃ trace, f.settle b ctx fuel = f.run b ctx trace := by
  induction fuel generalizing f with
  | zero => exact ⟨[], rfl⟩
  | succ fuel ih =>
      unfold settle
      dsimp only
      split
      · exact ⟨_, rfl⟩
      · next unfinished =>
          obtain ⟨trace, settled⟩ := ih ((f.run b ctx f.round).afterNext ctx)
          let wait := ((f.run b ctx f.round).nextEnd? ctx).getD 0
          refine ⟨f.round ++ .pass wait :: trace, settled.trans ?_⟩
          rw [run_append]
          rfl

/-- **All tasks end** in as many rounds as there are stages ahead of them. -/
theorem Sound.isDone_settle (sound : Sound ctx names f) (bounded : ctx.concurrency ≠ some 0)
    {fuel : Nat} (enough : f.rank ≤ fuel) (free : f.isDone = true ∨ ∃ m, Free ctx f m) :
    (f.settle b ctx fuel).isDone = true := by
  induction fuel generalizing f with
  | zero => exact isDone_iff.mpr (Nat.le_zero.mp enough)
  | succ fuel ih =>
      unfold settle
      dsimp only
      split
      · assumption
      · next unfinished =>
          have sound' : Sound ctx names (f.run b ctx f.round) := sound.run f.round
          have nearer : (f.run b ctx f.round).rank < f.rank := by
            rcases free with ended | ⟨m, free⟩
            · have le : (f.run b ctx f.round).rank ≤ f.rank := sound.rank_run_le f.round
              rw [isDone_iff.mp ended] at le
              exact absurd (isDone_iff.mpr (Nat.le_zero.mp le)) unfinished
            · exact sound.rank_round_lt free
          refine ih (sound'.run _) ?_ (.inr ?_)
          · exact Nat.le_trans (sound'.rank_run_le _) (by omega)
          · exact sound'.exists_free bounded (by simpa using unfinished)

/-- **No interleaving gets stuck**: whatever the tasks have done so far, they can all end. -/
theorem Sound.exists_isDone (sound : Sound ctx names f) (b : Backend)
    (bounded : ctx.concurrency ≠ some 0) : ∃ trace, (f.run b ctx trace).isDone = true := by
  cases ended : f.isDone with
  | true => exact ⟨[], ended⟩
  | false =>
      have later : Sound ctx names (f.afterNext ctx) := ⟨sound.names_eq, sound.once, sound.permits⟩
      have settles : ((f.afterNext ctx).settle b ctx (f.afterNext ctx).rank).isDone = true :=
        later.isDone_settle bounded (Nat.le_refl _) (.inr (sound.exists_free bounded ended))
      obtain ⟨trace, settled⟩ := exists_settle_eq_run b ctx (f.afterNext ctx).rank (f.afterNext ctx)
      exact ⟨.pass ((f.nextEnd? ctx).getD 0) :: trace, settled ▸ settles⟩

theorem rank_start (metrics : NameSet) (ctx : RunContext) (clock : Clock) (calls : List Call) :
    (start metrics ctx clock calls).rank = stages * metrics.toList.length := by
  simp [rank, total, start, CountStage.rank, Function.comp_def, Nat.mul_comm]

/-- At the start every task can go on. -/
theorem free_start {metrics : NameSet} (clock : Clock) (calls : List Call)
    (bounded : ctx.concurrency ≠ some 0) (listed : metric ∈ metrics.toList) :
    Free ctx (start metrics ctx clock calls) metric := by
  refine (sound_start metrics ctx clock calls).free_of_waiting bounded
    (List.mem_map.mpr ⟨metric, listed, rfl⟩) fun t task => ?_
  rw [waiting_of_mem_start t task]
  rfl

end Fanout

/-- An interleaving of the tasks for some metrics, up to a state in which all have ended. -/
structure Fanout.Completes (b : Backend) (ctx : RunContext) (metrics : NameSet) (clock : Clock)
    (calls : List Call) (trace : List FanoutStep) (f : Fanout) : Prop where
  reached : (start metrics ctx clock calls).run b ctx trace = f
  ended : f.isDone = true

/-- Every interleaving can be completed. -/
theorem Fanout.exists_completes (b : Backend) {ctx : RunContext} (metrics : NameSet)
    (clock : Clock) (calls : List Call) (trace : List FanoutStep)
    (bounded : ctx.concurrency ≠ some 0) :
    ∃ more f, Completes b ctx metrics clock calls (trace ++ more) f := by
  have sound := (sound_start metrics ctx clock calls).run (b := b) trace
  obtain ⟨more, ended⟩ := sound.exists_isDone b bounded
  exact ⟨more, _, run_append b ctx _ trace more, ended⟩

theorem RunContext.canPermit_iff {ctx : RunContext} :
    ctx.canPermit = true ↔ ∀ n, ctx.concurrency = some n → n ≤ maxPermits := by
  simp only [canPermit, Option.all_eq_true, decide_eq_true_eq]

theorem RunContext.canPermit_of_limit {ctx : RunContext} {n : Nat}
    (limit : ctx.concurrency = some n) : ctx.canPermit = decide (n ≤ maxPermits) := by
  rw [canPermit, limit, Option.all_some]

/-- With more permits than there can be nothing is counted, and no task begins. -/
theorem evaluateCardinality_of_excess (b : Backend) (metrics : NameSet) {s : Surroundings}
    (excess : s.context.canPermit = false) (j : Journal) :
    evaluateCardinality b metrics s j = (.error .panic, j) := by
  rw [evaluateCardinality, Audit.ofStep, excess]
  rfl

/-- Otherwise the run tells the records of tasks for the metrics. -/
theorem exists_sound_of_permitted (b : Backend) (metrics : NameSet) {s : Surroundings}
    (permitted : s.context.canPermit = true) (j : Journal) : ∃ f, Sound s.context metrics.toList f ∧
      evaluateCardinality b metrics s j =
        (.ok f.records, { j with clock := f.clock, calls := f.calls }) := by
  let first := Fanout.start metrics s.context (j.clock.pass (s.lag j.moment)) j.calls
  obtain ⟨trace, settled⟩ :=
    exists_settle_eq_run b s.context (stages * metrics.toList.length) first
  refine ⟨_, settled ▸ (sound_start ..).run trace, ?_⟩
  rw [evaluateCardinality, Audit.ofStep, permitted]
  rfl

/-- **A run counts by an interleaving after which all tasks have ended.** -/
theorem evaluateCardinality_eq (b : Backend) (metrics : NameSet) (s : Surroundings) (j : Journal)
    (bounded : s.context.concurrency ≠ some 0) (permitted : s.context.canPermit = true) :
    ∃ trace f, Completes b s.context metrics (j.clock.pass (s.lag j.moment)) j.calls trace f ∧
      evaluateCardinality b metrics s j =
        (.ok f.records, { j with clock := f.clock, calls := f.calls }) := by
  let first := Fanout.start metrics s.context (j.clock.pass (s.lag j.moment)) j.calls
  have sound : Sound s.context metrics.toList first := sound_start ..
  have free : first.isDone = true ∨ ∃ m, Free s.context first m := by
    by_cases empty : metrics.toList = []
    · refine .inl (isDone_iff.mpr ?_)
      rw [rank_start, empty, List.length_nil, Nat.mul_zero]
    · obtain ⟨m, listed⟩ := List.exists_mem_of_ne_nil _ empty
      exact .inr ⟨m, free_start _ _ bounded listed⟩
  have ends := sound.isDone_settle (b := b) bounded (Nat.le_of_eq (rank_start ..)) free
  obtain ⟨trace, settled⟩ := exists_settle_eq_run b s.context (stages * metrics.toList.length) first
  refine ⟨trace, _, ⟨rfl, settled ▸ ends⟩, ?_⟩
  rw [evaluateCardinality, Audit.ofStep, if_pos permitted, ← settled]

end ProfileAudit
