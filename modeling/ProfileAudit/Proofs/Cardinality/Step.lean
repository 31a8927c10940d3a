import Mathlib.Algebra.GroupWithZero.Nat
import Mathlib.Data.List.Nodup
import ProfileAudit.Cardinality
import ProfileAudit.Proofs.Context

/-!
# One step of counting

A task goes through its stages on its own; of the others it sees the free permits and the clock.
`Turns` says what each stage can turn into and when, `Blocked` when a task cannot go on, and
`step_cases` that a step does one of these or moves the clock on. From this come what no step
changes: the names of the tasks, and the permits, of which each is free or held by one task.
-/

namespace ProfileAudit

open Fanout

/-! ## Stages -/

/-- How many stages are still ahead. -/
def CountStage.rank : CountStage → Nat
  | waiting => stages
  | admitted => 4
  | cleared => 3
  | asking _ _ => 2
  | answered _ => 1
  | done _ => 0

/-- The permits that a stage holds. -/
def CountStage.held (s : CountStage) : Nat := s.isHolding.toNat

/-- The call that begins with a stage. -/
def CountStage.calls (metric : String) (time : Nat) : CountStage → List Call
  | asking _ _ => [.query (countQuery metric) time]
  | _ => []

namespace Fanout

variable {b : Backend} {ctx : RunContext} {f g : Fanout} {metric : String}
  {stage stage' : CountStage}

/-- What the next stage of a task can be. -/
inductive Turns (b : Backend) (ctx : RunContext) (f : Fanout) (metric : String) :
    CountStage → CountStage → Prop
  | enter : f.permits ≠ some 0 → Turns b ctx f metric .waiting .admitted
  | leave : f.clock.isCancelled = true → Turns b ctx f metric .waiting (.done none)
  | skip : ctx.isOver f.clock = true → Turns b ctx f metric .admitted (.done none)
  | clear : ctx.isOver f.clock = false → Turns b ctx f metric .admitted .cleared
  | drop : f.clock.isCancelled = true →
    Turns b ctx f metric .cleared (.answered (.error (.cancelled (countQuery metric))))
  | ask : f.clock.isCancelled = false → Turns b ctx f metric .cleared
    (.asking f.clock.now (b.query (countQuery metric) f.time ⟨f.clock.now, f.calls⟩))
  | answer {began call result} : ctx.poll? (countQuery metric) began call f.clock = some result →
    Turns b ctx f metric (.asking began call) (.answered result)
  | count {samples} : Turns b ctx f metric (.answered (.ok samples))
    (.done (some (totalCount samples)))
  | assume {failure} : ctx.isOver f.clock = false →
    Turns b ctx f metric (.answered (.error failure)) (.done (some 0))
  | giveUp {failure} : ctx.isOver f.clock = true →
    Turns b ctx f metric (.answered (.error failure)) (.done none)

theorem Turns.rank_lt (turns : Turns b ctx f metric stage stage') :
    stage'.rank < stage.rank := by
  cases turns <;> simp [CountStage.rank, stages]

/-- A task that cannot go on: there is none, it has ended, it waits for a permit, or for its
query. -/
inductive Blocked (ctx : RunContext) (f : Fanout) (metric : String) : Option CountStage → Prop
  | absent : Blocked ctx f metric none
  | done {count} : Blocked ctx f metric (some (.done count))
  | waiting : f.permits = some 0 → Blocked ctx f metric (some .waiting)
  | asking {began call} : ctx.poll? (countQuery metric) began call f.clock = none →
    Blocked ctx f metric (some (.asking began call))

/-- One task has moved on. The permit that it held or holds is no longer or not yet free. -/
structure Moved (f g : Fanout) (metric : String) (stage stage' : CountStage) : Prop where
  tasks : g.tasks = (f.move metric stage').tasks
  permits : g.permits.map (· + stage'.held) = f.permits.map (· + stage.held)
  time : g.time = f.time
  clock : g.clock = f.clock
  calls : g.calls = f.calls ++ stage'.calls metric f.time

theorem moved_move (kept : stage'.held = stage.held) (silent : stage'.calls metric f.time = []) :
    Moved f (f.move metric stage') metric stage stage' :=
  ⟨rfl, by rw [kept]; rfl, rfl, rfl, by rw [silent, List.append_nil]; rfl⟩

theorem moved_finish {count : Option Nat} (held : stage.held = 1) :
    Moved f (f.finish metric count) metric stage (.done count) := by
  refine ⟨rfl, ?_, rfl, rfl, (List.append_nil _).symm⟩
  rw [held]
  exact Option.map_map ..

theorem leave_cases (f : Fanout) (metric : String) : f.leave metric = f ∨
    f.stage? metric = some .waiting ∧ f.clock.isCancelled = true ∧
      Moved f (f.leave metric) metric .waiting (.done none) := by
  unfold leave
  split
  · next permits waiting _ =>
      split
      · next cancelled => exact .inr ⟨waiting, cancelled, moved_move rfl rfl⟩
      · exact .inl rfl
  · exact .inl rfl

/-- A task goes on to a next stage, unless it is blocked. -/
theorem advance_cases (b : Backend) (ctx : RunContext) (f : Fanout) (metric : String) :
    f.advance b ctx metric = f ∧ Blocked ctx f metric (f.stage? metric) ∨
      ∃ stage stage', f.stage? metric = some stage ∧ Turns b ctx f metric stage stage' ∧
        Moved f (f.advance b ctx metric) metric stage stage' := by
  cases at_ : f.stage? metric with
  | none => exact .inl ⟨by rw [advance, at_], .absent⟩
  | some stage =>
      have goes {next : CountStage} (turns : Turns b ctx f metric stage next)
          (moved : Moved f (f.advance b ctx metric) metric stage next) :
          f.advance b ctx metric = f ∧ Blocked ctx f metric (some stage) ∨
            ∃ stage₁ stage', some stage = some stage₁ ∧ Turns b ctx f metric stage₁ stage' ∧
              Moved f (f.advance b ctx metric) metric stage₁ stage' :=
        .inr ⟨stage, next, rfl, turns, moved⟩
      cases stage with
      | waiting =>
          cases free : f.permits with
          | none =>
              refine goes (.enter (by simp [free])) ?_
              simp only [advance, at_, free]
              exact ⟨rfl, by simp [move, free], rfl, rfl, (List.append_nil _).symm⟩
          | some n =>
              cases n with
              | succ n =>
                  refine goes (.enter (by simp [free])) ?_
                  simp only [advance, at_, free]
                  exact ⟨rfl, by rw [free]; rfl, rfl, rfl, (List.append_nil _).symm⟩
              | zero =>
                  have leaves : f.advance b ctx metric = f.leave metric := by
                    simp only [advance, at_, free]
                  rcases f.leave_cases metric with still | ⟨-, cancelled, moved⟩
                  · exact .inl ⟨leaves.trans still, .waiting free⟩
                  · exact goes (.leave cancelled) (leaves ▸ moved)
      | admitted =>
          cases closed : ctx.isOver f.clock with
          | true =>
              refine goes (.skip closed) ?_
              rw [advance, at_, closed]
              exact moved_finish rfl
          | false =>
              refine goes (.clear closed) ?_
              rw [advance, at_, closed]
              exact moved_move rfl rfl
      | cleared =>
          cases cancelled : f.clock.isCancelled with
          | true =>
              refine goes (.drop cancelled) ?_
              rw [advance, at_, cancelled]
              exact moved_move rfl rfl
          | false =>
              refine goes (.ask cancelled) ?_
              rw [advance, at_, cancelled]
              exact ⟨rfl, rfl, rfl, rfl, rfl⟩
      | asking began call =>
          cases polled : ctx.poll? (countQuery metric) began call f.clock with
          | none => exact .inl ⟨by simp only [advance, at_, polled], .asking polled⟩
          | some result =>
              refine goes (.answer polled) ?_
              simp only [advance, at_, polled]
              exact moved_move rfl rfl
      | answered result =>
          cases result with
          | ok samples =>
              refine goes .count ?_
              rw [advance, at_]
              exact moved_finish rfl
          | error failure =>
              cases closed : ctx.isOver f.clock with
              | true =>
                  refine goes (.giveUp closed) ?_
                  rw [advance, at_, closed]
                  exact moved_finish rfl
              | false =>
                  refine goes (.assume closed) ?_
                  rw [advance, at_, closed]
                  exact moved_finish rfl
      | done count => exact .inl ⟨by rw [advance, at_], .done⟩

/-- What a step does: nothing, as far as its task is blocked; or the clock goes on; or a task
does. -/
inductive Steps (b : Backend) (ctx : RunContext) (f : Fanout) : Fanout → Prop
  | still : Steps b ctx f f
  | clock {clock : Clock} : f.clock.GoesTo clock → Steps b ctx f { f with clock }
  | task {g : Fanout} {metric : String} {stage stage' : CountStage} :
    f.stage? metric = some stage → Turns b ctx f metric stage stage' →
    Moved f g metric stage stage' → Steps b ctx f g

theorem step_cases (b : Backend) (ctx : RunContext) (f : Fanout) (s : FanoutStep) :
    Steps b ctx f (f.step b ctx s) := by
  cases s with
  | advance metric =>
      rcases f.advance_cases b ctx metric with ⟨still, -⟩ | ⟨stage, stage', at_, turns, moved⟩
      · rw [step, still]
        exact .still
      · exact .task at_ turns moved
  | leave metric =>
      rcases f.leave_cases metric with still | ⟨at_, cancelled, moved⟩
      · rw [step, still]
        exact .still
      · exact .task at_ (.leave cancelled) moved
  | pass duration => exact .clock (f.clock.goesTo_pass duration)
  | cancel => exact .clock f.clock.goesTo_cancel

/-! ## Tasks and their names -/

/-- The metrics that are counted. -/
def names (f : Fanout) : List String := f.tasks.map (·.1)

theorem names_move (f : Fanout) (metric : String) (stage : CountStage) :
    (f.move metric stage).names = f.names := by
  rw [names, move, List.map_map]
  refine List.map_congr_left fun t _ => ?_
  rw [Function.comp_apply]
  split
  · next same => exact same.symm
  · rfl

/-- The one task that a move replaces. -/
theorem exists_task (once : f.names.Nodup) (at_ : f.stage? metric = some stage) :
    ∃ before after, f.tasks = before ++ (metric, stage) :: after ∧
      ∀ stage', (f.move metric stage').tasks = before ++ (metric, stage') :: after := by
  obtain ⟨before, after, split, -⟩ := List.lookup_eq_some_iff.mp at_
  rw [names, split, List.map_append, List.map_cons, List.nodup_middle, List.nodup_cons,
    ← List.map_append] at once
  have kept (stage' : CountStage) (ts : List (String × CountStage)) (part : ts ⊆ before ++ after) :
      ts.map (fun t => if t.1 = metric then (metric, stage') else t) = ts := by
    refine (List.map_congr_left fun t member => if_neg fun same => once.1 ?_).trans (List.map_id ts)
    exact List.mem_map.mpr ⟨t, part member, same⟩
  refine ⟨before, after, split, fun stage' => ?_⟩
  rw [move, split, List.map_append, List.map_cons, if_pos rfl,
    kept stage' before (List.subset_append_left _ _),
    kept stage' after (List.subset_append_right _ _)]

theorem mem_of_stage? (at_ : f.stage? metric = some stage) : (metric, stage) ∈ f.tasks := by
  obtain ⟨before, after, split, -⟩ := List.lookup_eq_some_iff.mp at_
  exact split ▸ List.mem_append_right _ List.mem_cons_self

/-- Every task is at its stage. -/
theorem mem_tasks_iff (once : f.names.Nodup) :
    (metric, stage) ∈ f.tasks ↔ f.stage? metric = some stage := by
  refine ⟨fun member => ?_, mem_of_stage?⟩
  obtain ⟨before, after, split⟩ := List.append_of_mem member
  refine List.lookup_eq_some_iff.mpr ⟨before, after, split, fun t early => ?_⟩
  rw [names, split, List.map_append, List.map_cons, List.nodup_middle, List.nodup_cons,
    ← List.map_append] at once
  have other : t.1 ≠ metric := fun same =>
    once.1 (List.mem_map.mpr ⟨t, List.mem_append_left _ early, same⟩)
  simpa using Ne.symm other

/-- The tasks after one of them has moved on. -/
theorem Moved.mem_tasks_cases (moved : Moved f g metric stage stage') {t : String × CountStage}
    (member : t ∈ g.tasks) : t = (metric, stage') ∨ t ∈ f.tasks ∧ t.1 ≠ metric := by
  rw [moved.tasks, move, List.mem_map] at member
  obtain ⟨old, member, rfl⟩ := member
  split
  · exact .inl rfl
  · next other => exact .inr ⟨member, other⟩

theorem Moved.mem_tasks (moved : Moved f g metric stage stage') {t : String × CountStage}
    (member : t ∈ g.tasks) : t = (metric, stage') ∨ t ∈ f.tasks :=
  (moved.mem_tasks_cases member).imp_right And.left

/-! ## Sums over the tasks -/

/-- The sum of a weight over all tasks. -/
def total (weight : CountStage → Nat) (f : Fanout) : Nat := (f.tasks.map fun t => weight t.2).sum

/-- When a task moves on, its old weight is taken away and its new one added. -/
theorem Moved.total (moved : Moved f g metric stage stage') (once : f.names.Nodup)
    (at_ : f.stage? metric = some stage) (weight : CountStage → Nat) :
    g.total weight + weight stage = f.total weight + weight stage' := by
  obtain ⟨before, after, split, replaced⟩ := exists_task once at_
  rw [Fanout.total, Fanout.total, moved.tasks, replaced, split]
  simp only [List.map_append, List.map_cons, List.sum_append, List.sum_cons]
  omega

/-! ## What every step keeps -/

/-- The names stay, each once, and the permits are free or held. -/
structure Sound (ctx : RunContext) (names : List String) (f : Fanout) : Prop where
  names_eq : f.names = names
  once : f.names.Nodup
  permits : f.permits.map (· + f.total CountStage.held) = ctx.concurrency

theorem Sound.step {names : List String} (sound : Sound ctx names f) (s : FanoutStep) :
    Sound ctx names (f.step b ctx s) := by
  obtain ⟨names_eq, once, permits⟩ := sound
  have steps := f.step_cases b ctx s
  generalize f.step b ctx s = g at steps
  cases steps with
  | still => exact ⟨names_eq, once, permits⟩
  | clock => exact ⟨names_eq, once, permits⟩
  | @task _ metric stage stage' at_ turns moved =>
      have same : g.names = f.names := by
        rw [Fanout.names, moved.tasks]
        exact f.names_move metric stage'
      refine ⟨same.trans names_eq, same ▸ once, ?_⟩
      have sums := moved.total once at_ CountStage.held
      have kept := moved.permits
      rw [← permits]
      cases before : f.permits <;> cases after : g.permits <;> rw [before, after] at kept
      · rfl
      · cases kept
      · cases kept
      · simp only [Option.map_some, Option.some.injEq] at kept ⊢
        omega

/-- **Every interleaving keeps the permits together.** -/
theorem Sound.run {names : List String} (sound : Sound ctx names f) (trace : List FanoutStep) :
    Sound ctx names (f.run b ctx trace) := by
  induction trace generalizing f with
  | nil => exact sound
  | cons s trace ih => exact ih (sound.step s)

/-- Before the first step every task waits. -/
theorem waiting_of_mem_start {metrics : NameSet} {clock : Clock} {calls : List Call} :
    ∀ t ∈ (start metrics ctx clock calls).tasks, t.2 = .waiting := by
  intro t task
  obtain ⟨name, -, rfl⟩ := List.mem_map.mp task
  rfl

theorem sound_start (metrics : NameSet) (ctx : RunContext) (clock : Clock) (calls : List Call) :
    Sound ctx metrics.toList (start metrics ctx clock calls) := by
  have same : (start metrics ctx clock calls).names = metrics.toList := by
    simp [start, names, Function.comp_def]
  refine ⟨same, same ▸ metrics.ordered.imp Std.ne_of_lt, ?_⟩
  have unheld : (start metrics ctx clock calls).total CountStage.held = 0 := by
    simp [start, total, CountStage.held, CountStage.isHolding, Function.comp_def]
  rw [unheld]
  exact Option.map_id'

/-- The clock goes on. -/
theorem goesTo_step (b : Backend) (ctx : RunContext) (f : Fanout) (s : FanoutStep) :
    f.clock.GoesTo (f.step b ctx s).clock := by
  have steps := f.step_cases b ctx s
  generalize f.step b ctx s = g at steps
  cases steps with
  | still => exact .refl _
  | clock goes => exact goes
  | task at_ turns moved => exact moved.clock ▸ .refl _

theorem goesTo_run (b : Backend) (ctx : RunContext) (f : Fanout) (trace : List FanoutStep) :
    f.clock.GoesTo (f.run b ctx trace).clock := by
  induction trace generalizing f with
  | nil => exact .refl _
  | cons s trace ih => exact (goesTo_step b ctx f s).trans (ih _)

end Fanout

end ProfileAudit
