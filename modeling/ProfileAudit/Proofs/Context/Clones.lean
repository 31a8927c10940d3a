import Mathlib.Data.List.Basic
import Mathlib.Data.List.Induction
import ProfileAudit.Proofs.Context

/-!
# A context and its clones

Clones of a context have its limits and share its clock, so it makes no difference through which of
them the run is cancelled, asked for its state or made to guard a call. A guard does nothing before
somebody looks after it, and each look settles which of three things counts: the cancellation before
the end of the call, and that before the deadline (`Guard.look_pending`, `Guard.look_ended`). What
a step of the clones can do to a guard is told by `Clones.guards_step_cases`; all that lasts over
whole runs is carried from step to step by `Clones.Sound`, `Clones.Bars` and `Guard.Attended`.

A guard whose call never ends is decided by the first look that finds the run over, and so by what
has happened until then and not by the deadline alone (`Clones.EndsAsFound`). Awaiting a guard is to
look after it at every instant until one look ends it (`RunContext.awaits_guard`).
-/

namespace ProfileAudit

variable {α : Type}

/-! ## Awaiting -/

/-- The wait ends at the first instant at which a look ends it, and as that look says. -/
structure RunContext.Awaits (ctx : RunContext) (what : String) (call : Behaviour α) (clock : Clock)
    (result : Except Failure α) (after : Clock) : Prop where
  cancelledAt : after.cancelledAt = clock.cancelledAt
  now_le : clock.now ≤ after.now
  ends : ctx.poll? what clock.now call after = some result
  waits : ∀ m, clock.now ≤ m → m < after.now →
    ctx.poll? what clock.now call { clock with now := m } = none

namespace RunContext

variable {ctx : RunContext} {what : String} {call : Behaviour α} {clock : Clock} {began : Nat}

theorem poll?_eq_none_iff : ctx.poll? what began call clock = none ↔ clock.isCancelled = false ∧
    call.result? (clock.now - began) = none ∧ clock.now < ctx.deadline := by
  unfold poll?
  split
  · next cancelled => simp [cancelled]
  · next running => simp [running, Option.or_eq_none_iff]

theorem poll?_of_running (running : clock.isCancelled = false) :
    ctx.poll? what began call clock = (call.result? (clock.now - began)).or
      (if ctx.deadline ≤ clock.now then some (.error (.late what)) else none) := by
  rw [poll?, if_neg (by simp [running])]

theorem poll?_eq_of_cancelled (cancelled : clock.isCancelled = true) :
    ctx.poll? what began call clock = some (.error (.cancelled what)) := if_pos cancelled

/-- What ends a call that is not cancelled is there at that instant, and not before. -/
theorem ending_is_first (ctx : RunContext) (what : String) (now : Nat) (call : Behaviour α) :
    let finish := (ctx.ending what now call).1
    (call.result? (finish - now)).or (if ctx.deadline ≤ finish then
      some (.error (.late what)) else none) = some (ctx.ending what now call).2 ∧
    ∀ m, now ≤ m → m < finish → call.result? (m - now) = none ∧ m < ctx.deadline := by
  unfold ending
  split
  · next result => exact ⟨by simp [Behaviour.result?], fun m _ _ => by omega⟩
  · next delay result started =>
      have later : delay ≠ 0 := fun none => started (by rw [none])
      split
      · next inTime =>
          have ended : now + delay - now = delay := by omega
          refine ⟨by simp [Behaviour.result?, ended], fun m _ early => ⟨?_, by omega⟩⟩
          exact if_neg (by omega)
      · next late =>
          have past : ctx.deadline ≤ max now ctx.deadline := Nat.le_max_right _ _
          have open_ : ¬ delay ≤ max now ctx.deadline - now := by omega
          refine ⟨by simp [Behaviour.result?, open_, past], fun m _ early => ⟨?_, by omega⟩⟩
          exact if_neg (by omega)
  · have past : ctx.deadline ≤ max now ctx.deadline := Nat.le_max_right _ _
    exact ⟨by simp [Behaviour.result?, past], fun m _ early => ⟨rfl, by omega⟩⟩

theorem isCancelled_of_lt {t m : Nat} (early : m < t) :
    Clock.isCancelled { now := m, cancelledAt := some t } = false := by
  simpa [Clock.isCancelled] using early

/-- **Awaiting a guard is to look after it at every instant.** -/
theorem awaits_guard (ctx : RunContext) (what : String) (call : Behaviour α) (clock : Clock) :
    ctx.Awaits what call clock (ctx.guard what call clock).1 (ctx.guard what call clock).2 := by
  have ge := ctx.ending_ge what clock.now call
  obtain ⟨ended, first⟩ := ctx.ending_is_first what clock.now call
  rw [guard_eq]
  split
  · next cancelled =>
      exact ⟨rfl, Nat.le_refl _, poll?_eq_of_cancelled cancelled, fun m from_ early =>
        absurd early (Nat.not_lt.mpr from_)⟩
  · next running =>
      -- a cancellation that is set is still to come
      have ahead : ∀ t, clock.cancelledAt = some t → clock.now < t := fun t set =>
        Nat.lt_of_not_le fun past => running (Clock.isCancelled_iff.mpr ⟨t, set, past⟩)
      split
      · next t set =>
          split
          · next inTime =>
              refine ⟨rfl, Nat.le_of_lt (ahead t set), ?_, fun m from_ early => ?_⟩
              · exact poll?_eq_of_cancelled (Clock.isCancelled_iff.mpr ⟨t, set, Nat.le_refl t⟩)
              · obtain ⟨still, due⟩ := first m from_ (Nat.lt_of_lt_of_le early inTime)
                exact poll?_eq_none_iff.mpr ⟨by rw [set]; exact isCancelled_of_lt early, still, due⟩
          · next late =>
              refine ⟨rfl, ge, ?_, fun m from_ early => ?_⟩
              · rw [poll?_of_running (by rw [set]; exact isCancelled_of_lt (Nat.lt_of_not_le late))]
                exact ended
              · obtain ⟨still, due⟩ := first m from_ early
                have before : m < t := Nat.lt_trans early (Nat.lt_of_not_le late)
                have goesOn : Clock.isCancelled { clock with now := m } = false := by
                  rw [set]
                  exact isCancelled_of_lt before
                exact poll?_eq_none_iff.mpr ⟨goesOn, still, due⟩
      · next never =>
          have running (now : Nat) : Clock.isCancelled { clock with now } = false := by
            simp [Clock.isCancelled, never]
          refine ⟨rfl, ge, ?_, fun m from_ early => ?_⟩
          · rw [poll?_of_running (running _)]
            exact ended
          · obtain ⟨still, due⟩ := first m from_ early
            exact poll?_eq_none_iff.mpr ⟨running m, still, due⟩

/-- Awaiting what never ends: a cancellation at the deadline still counts. -/
theorem guard_never (ctx : RunContext) (what : String) (clock : Clock) :
    (ctx.guard what (.never : Behaviour α) clock).1 = .error
      (if clock.cancelledAt.any (decide <| · ≤ max clock.now ctx.deadline) then .cancelled what
        else .late what) := by
  rw [guard_eq, ending]
  split
  · next cancelled =>
      obtain ⟨t, set, past⟩ := Clock.isCancelled_iff.mp cancelled
      have counts : clock.cancelledAt.any (decide <| · ≤ max clock.now ctx.deadline) = true := by
        rw [Option.mem_def.mp set, Option.any_some]
        exact decide_eq_true (Nat.le_trans past (Nat.le_max_left _ _))
      rw [if_pos counts]
  · split
    · next t set =>
        rw [set, Option.any_some]
        split
        · next counts => rw [if_pos (decide_eq_true counts)]
        · next late => rw [if_neg (by simpa using late)]
    · next never =>
        rw [never]
        rfl

end RunContext

/-! ## Guards -/

/-- How far a guard has come. In both stages, no instant means that its call has not begun. -/
inductive GuardStage (α : Type) where
  | pending (began : Option Nat)
  | ended (began : Option Nat) (result : Except Failure α)

/-- A guard around a call. -/
structure Guard (α : Type) where
  limits : RunContext
  what : String
  call : Behaviour α
  stage : GuardStage α := .pending none

namespace Guard

/-- Another stage of the same guard. -/
def at_ (g : Guard α) (stage : GuardStage α) : Guard α := { g with stage }

/-- Looks after a guard. The first look begins the call, unless the run is cancelled. -/
def look (clock : Clock) (g : Guard α) : Guard α :=
  match g.stage with
  | .pending began =>
    let start := began.getD clock.now
    match g.limits.poll? g.what start g.call clock with
    | some result => g.at_ (.ended (if clock.isCancelled then began else some start) result)
    | none => g.at_ (.pending (some start))
  | .ended .. => g

/-- What a look at a pending guard comes to. -/
structure Looked (g : Guard α) (began : Option Nat) (clock : Clock) (g' : Guard α) : Prop where
  /-- Once the run is cancelled no call begins, and none that has begun counts. -/
  cancelled : clock.isCancelled = true → g' = g.at_ (.ended began (.error (.cancelled g.what)))
  /-- Otherwise a call that has ended counts, even behind the deadline. -/
  own : clock.isCancelled = false → ∀ delay result, g.call = .after delay result →
    delay ≤ clock.now - began.getD clock.now →
    g' = g.at_ (.ended (some (began.getD clock.now)) result)
  late : clock.isCancelled = false → g.call.result? (clock.now - began.getD clock.now) = none →
    g.limits.deadline ≤ clock.now →
    g' = g.at_ (.ended (some (began.getD clock.now)) (.error (.late g.what)))
  waits : clock.isCancelled = false → g.call.result? (clock.now - began.getD clock.now) = none →
    clock.now < g.limits.deadline → g' = g.at_ (.pending (some (began.getD clock.now)))

variable {g : Guard α} {clock : Clock} {began : Option Nat}

theorem look_pending (pending : g.stage = .pending began) :
    g.Looked began clock (g.look clock) := by
  refine ⟨fun cancelled => ?_, fun running delay result is ended => ?_,
    fun running still past => ?_, fun running still due => ?_⟩
  · simp only [look, pending, RunContext.poll?_eq_of_cancelled cancelled, if_pos cancelled]
  · have counts := Behaviour.result?_eq_some_iff.mpr ⟨delay, ended, is⟩
    simp [look, pending, RunContext.poll?_of_running running, running, counts]
  · simp [look, pending, RunContext.poll?_of_running running, running, still, past]
  · have open_ : g.limits.poll? g.what (began.getD clock.now) g.call clock = none :=
      RunContext.poll?_eq_none_iff.mpr ⟨running, still, due⟩
    simp only [look, pending, open_]

theorem look_ended {result : Except Failure α} (ended : g.stage = .ended began result) :
    g.look clock = g := by
  unfold look
  rw [ended]

theorem eq_at {stage : GuardStage α} (is : g.stage = stage) : g = g.at_ stage := by
  rw [← is]
  rfl

theorem call_look (clock : Clock) (g : Guard α) : (g.look clock).call = g.call := by
  unfold look
  split
  · dsimp only
    split <;> rfl
  · rfl

/-- A look at a pending guard whose call never ends: it ends if the run is over. -/
theorem look_never (never : g.call = .never) (pending : g.stage = .pending began) :
    (g.limits.isOver clock = true ∧ ∃ b, g.look clock = g.at_ (.ended b (.error
      (if clock.isCancelled then .cancelled g.what else .late g.what)))) ∨
    (g.limits.isOver clock = false ∧ ∃ b, g.look clock = g.at_ (.pending b)) := by
  have looked : g.Looked began clock (g.look clock) := look_pending pending
  have still : g.call.result? (clock.now - began.getD clock.now) = none := by
    rw [never]
    rfl
  cases cancelled : clock.isCancelled with
  | true =>
      exact .inl ⟨RunContext.isOver_iff.mpr (.inl cancelled), began, looked.cancelled cancelled⟩
  | false =>
      rcases Nat.lt_or_ge clock.now g.limits.deadline with due | late
      · exact .inr ⟨RunContext.isOver_eq_false_iff.mpr ⟨cancelled, due⟩, _,
          looked.waits cancelled still due⟩
      · exact .inl ⟨RunContext.isOver_iff.mpr (.inr late), _, looked.late cancelled still late⟩

theorem limits_look (clock : Clock) (g : Guard α) : (g.look clock).limits = g.limits := by
  unfold look
  split
  · dsimp only
    split <;> rfl
  · rfl

end Guard

/-! ## Clones -/

/-- A context with its clones, their clock, the guards they have made, and what they have reported
of being over. -/
structure Clones (α : Type) where
  clock : Clock
  holders : List RunContext
  guards : List (Guard α) := []
  reports : List Bool := []

/-- A step of a run. Everything but looking after a guard and the passing of time is done through
one of the clones. -/
inductive ContextStep (α : Type) where
  | clone (holder : Nat)
  | cancel (holder : Nat)
  /-- A clone is asked whether the run is over. -/
  | state (holder : Nat)
  | guard (holder : Nat) (what : String) (call : Behaviour α)
  | look (guard : Nat)
  | pass (duration : Nat)

namespace Clones

/-- A context on its own. -/
def start (ctx : RunContext) (now : Nat) : Clones α where
  clock := { now }
  holders := [ctx]

/-- Does something through a clone, if there is one of this number. -/
def through (s : Clones α) (holder : Nat) (f : RunContext → Clones α) : Clones α :=
  match s.holders[holder]? with
  | some ctx => f ctx
  | none => s

def step (s : Clones α) : ContextStep α → Clones α
  | .clone holder => s.through holder fun ctx => { s with holders := s.holders ++ [ctx] }
  | .cancel holder => s.through holder fun _ => { s with clock := s.clock.cancel }
  | .state holder =>
    s.through holder fun ctx => { s with reports := s.reports ++ [ctx.isOver s.clock] }
  | .guard holder what call =>
    s.through holder fun ctx => { s with guards := s.guards ++ [⟨ctx, what, call, .pending none⟩] }
  | .look guard => { s with guards := s.guards.modify guard (Guard.look s.clock) }
  | .pass duration => { s with clock := s.clock.pass duration }

def run (s : Clones α) (steps : List (ContextStep α)) : Clones α := steps.foldl step s

/-- Time passes only as long as no look would end a guard that is waited for. -/
def Attends (s : Clones α) : ContextStep α → Prop
  | .pass duration => ∀ g ∈ s.guards, ∀ began, g.stage = .pending (some began) →
    ∀ m < duration, g.limits.poll? g.what began g.call (s.clock.pass m) = none
  | _ => True

/-- Nobody keeps a guard waiting that would end. -/
def Prompt : Clones α → List (ContextStep α) → Prop
  | _, [] => True
  | s, x :: steps => s.Attends x ∧ (s.step x).Prompt steps

variable {ctx : RunContext} {s t : Clones α} {x : ContextStep α} {steps : List (ContextStep α)}
  {g : Guard α} {k : Nat}

/-! ### Steps -/

/-- The clock stands still, goes on, or is cancelled. -/
theorem clock_step_cases (s : Clones α) (x : ContextStep α) :
    (s.step x).clock = s.clock ∨ (s.step x).clock = s.clock.cancel ∨
      ∃ duration, x = .pass duration ∧ (s.step x).clock = s.clock.pass duration := by
  cases x with
  | look guard => exact .inl rfl
  | pass duration => exact .inr (.inr ⟨duration, rfl, rfl⟩)
  | cancel holder =>
      simp only [step, through]
      split
      · exact .inr (.inl rfl)
      · exact .inl rfl
  | clone holder | state holder | guard holder what call =>
      simp only [step, through]
      split <;> exact .inl rfl

theorem goesTo_step (s : Clones α) (x : ContextStep α) : s.clock.GoesTo (s.step x).clock := by
  rcases s.clock_step_cases x with same | cancel | ⟨duration, -, pass⟩
  · exact same ▸ .refl s.clock
  · exact cancel ▸ s.clock.goesTo_cancel
  · exact pass ▸ s.clock.goesTo_pass duration

/-- A new holder is the clone of one that there was. -/
theorem mem_holders_step {h : RunContext} (member : h ∈ (s.step x).holders) : h ∈ s.holders := by
  cases x with
  | look guard => exact member
  | pass duration => exact member
  | clone holder =>
      simp only [step, through] at member
      split at member
      · next source found =>
          rcases List.mem_append.mp member with old | new
          · exact old
          · exact List.mem_singleton.mp new ▸ List.mem_of_getElem? found
      · exact member
  | cancel holder | state holder | guard holder what call =>
      simp only [step, through] at member
      split at member <;> exact member

/-- A guard is as it was, new, or was looked after. -/
theorem guards_step_cases {g' : Guard α} (found : (s.step x).guards[k]? = some g') :
    s.guards[k]? = some g' ∨
      (s.guards[k]? = none ∧ g'.limits ∈ s.holders ∧ g'.stage = .pending none) ∨
      x = .look k ∧ ∃ g, s.guards[k]? = some g ∧ g' = g.look s.clock := by
  cases x with
  | pass duration => exact .inl found
  | look guard =>
      rw [step, List.getElem?_modify] at found
      obtain ⟨g, old, is⟩ := Option.map_eq_some_iff.mp found
      split at is
      · next here => exact .inr (.inr ⟨here ▸ rfl, g, old, is.symm⟩)
      · exact .inl (is ▸ old)
  | guard holder what call =>
      simp only [step, through] at found
      split at found
      · next source held =>
          rw [List.getElem?_append] at found
          split at found
          · exact .inl found
          · next beyond =>
              refine .inr (.inl ⟨List.getElem?_eq_none (Nat.le_of_not_lt beyond), ?_⟩)
              rw [List.mem_singleton.mp (List.mem_of_getElem? found)]
              exact ⟨List.mem_of_getElem? held, rfl⟩
      · exact .inl found
  | clone holder | cancel holder | state holder =>
      simp only [step, through] at found
      split at found <;> exact .inl found

theorem getElem?_guards_look (s : Clones α) (k : Nat) :
    (s.step (.look k)).guards[k]? = s.guards[k]?.map (Guard.look s.clock) := by
  rw [step, List.getElem?_modify]
  simp only [if_true]
  rfl

/-- No guard is lost. -/
theorem length_guards_le_step (s : Clones α) (x : ContextStep α) :
    s.guards.length ≤ (s.step x).guards.length := by
  cases x with
  | look guard => exact Nat.le_of_eq (List.length_modify ..).symm
  | pass duration => exact Nat.le_refl _
  | guard holder what call =>
      simp only [step, through]
      split
      · exact List.length_append ▸ Nat.le_add_right _ _
      · exact Nat.le_refl _
  | clone holder | cancel holder | state holder =>
      simp only [step, through]
      split <;> exact Nat.le_refl _

/-- What is reported is reported last, and by a clone. -/
theorem reports_step_cases (s : Clones α) (x : ContextStep α) :
    (s.step x).reports = s.reports ∨
      ∃ h ∈ s.holders, (s.step x).reports = s.reports ++ [h.isOver s.clock] ∧
        (s.step x).clock = s.clock := by
  cases x with
  | look guard => exact .inl rfl
  | pass duration => exact .inl rfl
  | state holder =>
      simp only [step, through]
      split
      · next h found => exact .inr ⟨h, List.mem_of_getElem? found, rfl, rfl⟩
      · exact .inl rfl
  | clone holder | cancel holder | guard holder what call =>
      simp only [step, through]
      split <;> exact .inl rfl

/-- Once it is set, the instant of the cancellation stays; and it is not set in the past. -/
theorem cancelledAt_step (s : Clones α) (x : ContextStep α) :
    ∀ t ∈ (s.step x).clock.cancelledAt, t ∈ s.clock.cancelledAt ∨ s.clock.now ≤ t := by
  intro t set
  rcases s.clock_step_cases x with same | cancel | ⟨duration, -, pass⟩
  · exact .inl (same ▸ set)
  · rw [cancel, Clock.cancel] at set
    split at set
    · exact .inl set
    · cases set
      exact .inr (Nat.le_refl _)
  · exact .inl (by rwa [pass] at set)

/-! ### Whole runs -/

theorem run_concat (s : Clones α) (steps : List (ContextStep α)) (x : ContextStep α) :
    s.run (steps ++ [x]) = (s.run steps).step x := by
  rw [run, List.foldl_append]
  rfl

theorem run_append (s : Clones α) (first rest : List (ContextStep α)) :
    s.run (first ++ rest) = (s.run first).run rest := List.foldl_append

theorem length_guards_le_run (s : Clones α) (steps : List (ContextStep α)) :
    s.guards.length ≤ (s.run steps).guards.length := by
  induction steps generalizing s with
  | nil => exact Nat.le_refl _
  | cons x steps ih => exact Nat.le_trans (s.length_guards_le_step x) (ih (s.step x))

theorem cancelledAt_run (s : Clones α) (steps : List (ContextStep α)) :
    ∀ t ∈ (s.run steps).clock.cancelledAt, t ∈ s.clock.cancelledAt ∨ s.clock.now ≤ t := by
  induction steps generalizing s with
  | nil => exact fun _ set => .inl set
  | cons x steps ih =>
      intro t set
      rcases ih (s.step x) t set with before | after
      · exact s.cancelledAt_step x t before
      · exact .inr (Nat.le_trans (s.goesTo_step x).now_le after)

/-- What holds in any run of a context and its clones: they have the same limits, and what one of
them has reported no other one takes back. -/
structure Sound (ctx : RunContext) (s : Clones α) : Prop where
  holders : ∀ h ∈ s.holders, h = ctx
  limits : ∀ g ∈ s.guards, g.limits = ctx
  past : ∀ t ∈ s.clock.cancelledAt, t ≤ s.clock.now
  reports : s.reports.Pairwise fun before later => before = true → later = true
  ended : true ∈ s.reports → ctx.isOver s.clock = true

theorem sound_start (ctx : RunContext) (now : Nat) : (start ctx now : Clones α).Sound ctx where
  holders _ member := List.mem_singleton.mp member
  limits _ member := absurd member List.not_mem_nil
  past := nofun
  reports := .nil
  ended reported := absurd reported List.not_mem_nil

theorem past_cancel {c : Clock} (past : ∀ t ∈ c.cancelledAt, t ≤ c.now) :
    ∀ t ∈ c.cancel.cancelledAt, t ≤ c.cancel.now := by
  unfold Clock.cancel
  split
  · exact past
  · rintro t ⟨⟩
    exact Nat.le_refl _

theorem Sound.step (sound : s.Sound ctx) (x : ContextStep α) : (s.step x).Sound ctx := by
  have goes := s.goesTo_step x
  have reported : ((s.step x).reports.Pairwise fun before later => before = true → later = true) ∧
      (true ∈ (s.step x).reports → ctx.isOver (s.step x).clock = true) := by
    rcases s.reports_step_cases x with same | ⟨h, held, more, still⟩
    · rw [same]
      exact ⟨sound.reports, fun reported => RunContext.isOver_of_goesTo goes (sound.ended reported)⟩
    · rw [more, still, sound.holders h held]
      refine ⟨List.pairwise_append.mpr ⟨sound.reports, List.pairwise_singleton .., ?_⟩, ?_⟩
      · rintro before reported later new rfl
        exact List.mem_singleton.mp new ▸ sound.ended reported
      · intro reported
        rcases List.mem_append.mp reported with old | new
        · exact sound.ended old
        · exact (List.mem_singleton.mp new).symm
  refine ⟨fun h member => sound.holders h (mem_holders_step member), fun g member => ?_, ?_,
    reported.1, reported.2⟩
  · obtain ⟨k, found⟩ := List.getElem?_of_mem member
    rcases guards_step_cases found with old | ⟨-, held, -⟩ | ⟨-, g, old, rfl⟩
    · exact sound.limits g (List.mem_of_getElem? old)
    · exact sound.holders _ held
    · rw [Guard.limits_look]
      exact sound.limits g (List.mem_of_getElem? old)
  · rcases s.clock_step_cases x with same | cancel | ⟨duration, -, pass⟩
    · exact same ▸ sound.past
    · exact cancel ▸ past_cancel sound.past
    · rw [pass]
      exact fun t set => Nat.le_trans (sound.past t set) (Nat.le_add_right _ _)

theorem Sound.run (sound : s.Sound ctx) (steps : List (ContextStep α)) :
    (s.run steps).Sound ctx := by
  induction steps generalizing s with
  | nil => exact sound
  | cons x steps ih => exact ih (sound.step x)

/-- There is such a guard, and somebody has looked after it. -/
def LookedAfterIn (s : Clones α) (k : Nat) : Prop :=
  ∃ g, s.guards[k]? = some g ∧ g.stage ≠ .pending none

/-- The run of `s`, in which it was cancelled, has come to `t`. All clones report that it is over,
and no call begins for which nobody had looked before. -/
structure Bars (s t : Clones α) : Prop where
  cancelled : t.clock.isCancelled = true
  ended : ∀ h ∈ t.holders, h.isOver t.clock = true
  reports : ∃ later, t.reports = s.reports ++ later ∧ ∀ report ∈ later, report = true
  guards : ∀ k g, t.guards[k]? = some g → ¬ s.LookedAfterIn k →
    g.stage = .pending none ∨ g.stage = .ended none (.error (.cancelled g.what))

theorem over_of_cancelled (cancelled : s.clock.isCancelled = true) :
    ∀ h ∈ s.holders, h.isOver s.clock = true :=
  fun _ _ => RunContext.isOver_iff.mpr (.inl cancelled)

theorem bars_of_cancelled (cancelled : s.clock.isCancelled = true) : s.Bars s := by
  refine ⟨cancelled, over_of_cancelled cancelled, ⟨[], (List.append_nil _).symm, nofun⟩, ?_⟩
  exact fun k g found new => .inl (not_not.mp fun looked => new ⟨g, found, looked⟩)

theorem Bars.step (bars : s.Bars t) (x : ContextStep α) : s.Bars (t.step x) := by
  have cancelled := (t.goesTo_step x).cancelled bars.cancelled
  refine ⟨cancelled, over_of_cancelled cancelled, ?_, fun k g found new => ?_⟩
  · obtain ⟨later, all, ended⟩ := bars.reports
    rcases t.reports_step_cases x with same | ⟨h, held, more, -⟩
    · exact ⟨later, same.trans all, ended⟩
    · refine ⟨later ++ [h.isOver t.clock], by rw [more, all, List.append_assoc], ?_⟩
      exact List.forall_mem_append.mpr ⟨ended, List.forall_mem_singleton.mpr (bars.ended h held)⟩
  · rcases guards_step_cases found with old | ⟨-, -, fresh⟩ | ⟨-, g, old, rfl⟩
    · exact bars.guards k g old new
    · exact .inl fresh
    · rcases bars.guards k g old new with fresh | refused
      · rw [(Guard.look_pending fresh).cancelled bars.cancelled]
        exact .inr rfl
      · rw [Guard.look_ended refused]
        exact .inr refused

theorem Bars.run (bars : s.Bars t) (steps : List (ContextStep α)) : s.Bars (t.run steps) := by
  induction steps generalizing t with
  | nil => exact bars
  | cons x steps ih => exact ih (bars.step x)

theorem isCancelled_cancel (c : Clock) : c.cancel.isCancelled = true := by
  unfold Clock.cancel
  split
  · assumption
  · exact Clock.isCancelled_iff.mpr ⟨c.now, rfl, Nat.le_refl _⟩

/-- Any clone cancels the run for all of them. -/
theorem bars_cancel {holder : Nat} (there : holder < s.holders.length)
    (more : List (ContextStep α)) : s.Bars ((s.step (.cancel holder)).run more) := by
  have cancels : s.step (.cancel holder) = { s with clock := s.clock.cancel } := by
    simp only [step, through, List.getElem?_eq_getElem there]
  have bars := bars_of_cancelled (s := s.step (.cancel holder))
    (by rw [cancels]; exact isCancelled_cancel s.clock)
  rw [cancels] at bars ⊢
  have begun : s.Bars { s with clock := s.clock.cancel } :=
    ⟨bars.cancelled, bars.ended, bars.reports, bars.guards⟩
  exact begun.run more

/-! ### Calls that never end -/

/-- What the looks after guard `k` have made of it, if its call never ends. -/
structure EndsAsFound (s : Clones α) (steps : List (ContextStep α)) (k : Nat) (g : Guard α) :
    Prop where
  /-- As long as it is pending, no look after it has found the run over. -/
  pending : ∀ began, g.stage = .pending began → ∀ before after, steps = before ++ .look k :: after →
    k < (s.run before).guards.length → g.limits.isOver (s.run before).clock = false
  /-- A look that finds the run over ends it: as cancelled if the run is cancelled by then, be it
  before the deadline or behind it, and else at the deadline. -/
  ended : ∀ began result, g.stage = .ended began result → ∃ before after,
    steps = before ++ .look k :: after ∧
    (∃ began, (s.run before).guards[k]? = some (g.at_ (.pending began))) ∧
    g.limits.isOver (s.run before).clock = true ∧
    result = .error (if (s.run before).clock.isCancelled then .cancelled g.what else .late g.what)

/-- What has ended stays so. -/
theorem EndsAsFound.of_ended {began : Option Nat} {result : Except Failure α}
    (as : s.EndsAsFound steps k g) (ended : g.stage = .ended began result) (x : ContextStep α) :
    s.EndsAsFound (steps ++ [x]) k g := by
  refine ⟨fun _ pending => (nomatch pending.symm.trans ended), fun b r is => ?_⟩
  obtain ⟨before, after, rfl, found⟩ := as.ended b r is
  exact ⟨before, after ++ [x], List.append_assoc .., found⟩

/-- What is pending is what no look has found over, the last step included. -/
theorem endsAsFound_of_pending {began : Option Nat} (pending : g.stage = .pending began)
    (earlier : ∀ before after, steps = before ++ .look k :: after →
      k < (s.run before).guards.length → g.limits.isOver (s.run before).clock = false)
    (going : x = .look k → g.limits.isOver (s.run steps).clock = false) :
    s.EndsAsFound (steps ++ [x]) k g := by
  refine ⟨fun _ _ before after cut there => ?_, fun _ _ ended => nomatch ended.symm.trans pending⟩
  rcases List.eq_nil_or_concat' after with rfl | ⟨initial, last, rfl⟩
  · obtain ⟨rfl, is⟩ := List.append_inj' cut rfl
    exact going (List.singleton_inj.mp is)
  · rw [← List.cons_append, ← List.append_assoc] at cut
    exact earlier before initial (List.append_inj' cut rfl).1 there

/-- By induction on the steps from their end: only a look after a guard ends it. -/
theorem endsAsFound_run (fresh : s.guards = []) (found : (s.run steps).guards[k]? = some g)
    (never : g.call = .never) : s.EndsAsFound steps k g := by
  induction steps using List.reverseRecOn generalizing g with
  | nil =>
      rw [show s.run [] = s from rfl, fresh] at found
      cases found
  | append_singleton steps x ih =>
      rw [run_concat] at found
      by_cases looked : x = .look k
      · subst looked
        rw [getElem?_guards_look] at found
        obtain ⟨g₀, old, rfl⟩ := Option.map_eq_some_iff.mp found
        rw [Guard.call_look] at never
        have as := ih old never
        cases stage : g₀.stage with
        | ended began result =>
            rw [Guard.look_ended stage]
            exact as.of_ended stage _
        | pending began =>
            rcases Guard.look_never never stage with ⟨found, b, is⟩ | ⟨going, b, is⟩
            · rw [is]
              refine ⟨nofun, ?_⟩
              rintro _ result ⟨⟩
              have held := old.trans (congrArg some (Guard.eq_at stage))
              exact ⟨steps, [], rfl, ⟨began, held⟩, found, rfl⟩
            · rw [is]
              exact endsAsFound_of_pending rfl (as.pending began stage) fun _ => going
      · rcases guards_step_cases found with old | ⟨absent, -, new⟩ | ⟨is, -⟩
        · have as := ih old never
          cases stage : g.stage with
          | ended began result => exact as.of_ended stage x
          | pending began =>
              exact endsAsFound_of_pending stage (as.pending began stage) fun is => absurd is looked
        · -- there was nothing to look after
          refine endsAsFound_of_pending new (fun before after cut there => ?_) fun is =>
            absurd is looked
          rw [cut, run_append] at absent
          have stays := (s.run before).length_guards_le_run (.look k :: after)
          exact absurd (Nat.lt_of_lt_of_le there stays)
            (Nat.not_lt.mpr (List.getElem?_eq_none_iff.mp absent))
        · exact absurd is looked

/-- What is cancelled before the deadline has not ended at it, however late somebody looked. -/
theorem EndsAsFound.of_cancelled {began : Option Nat} {result : Except Failure α}
    (as : s.EndsAsFound steps k g) (sound : s.Sound ctx) (ended : g.stage = .ended began result)
    (cancelled : ∃ t ∈ (s.run steps).clock.cancelledAt, t < g.limits.deadline) :
    result = .error (.cancelled g.what) := by
  obtain ⟨before, after, rfl, -, closed, rfl⟩ := as.ended began result ended
  cases already : (s.run before).clock.isCancelled with
  | true => rfl
  | false =>
      -- it was late then, and the cancellation came even later
      have late : g.limits.deadline ≤ (s.run before).clock.now :=
        (RunContext.isOver_iff.mp closed).resolve_left (by rw [already]; exact nofun)
      obtain ⟨t, set, early⟩ := cancelled
      rw [run_append] at set
      rcases (s.run before).cancelledAt_run (.look k :: after) t set with old | later
      · have past := (sound.run before).past t old
        cases (Clock.isCancelled_iff.mpr ⟨t, old, past⟩).symm.trans already
      · omega

end Clones

/-! ### Guards that are attended to -/

/-- What holds of a guard that was not kept waiting, with its call if that never ends. -/
structure Guard.Attended (clock : Clock) (g : Guard α) : Prop where
  pending : ∀ began, g.stage = .pending (some began) →
    clock.now ≤ g.limits.deadline ∧ ∀ t ∈ clock.cancelledAt, t = clock.now
  ended : ∀ began result, g.stage = .ended (some began) result → g.call = .never →
    result = .error (.late g.what) ∨ ∃ t ∈ clock.cancelledAt, t ≤ g.limits.deadline

namespace Guard

variable {g : Guard α} {clock : Clock}

theorem attended_of_new (new : g.stage = .pending none) : g.Attended clock := by
  refine ⟨fun _ pending => ?_, fun _ _ ended => ?_⟩
  · cases new.symm.trans pending
  · cases new.symm.trans ended

theorem Attended.look (past : ∀ t ∈ clock.cancelledAt, t ≤ clock.now)
    (attended : g.Attended clock) : (g.look clock).Attended clock := by
  cases stage : g.stage with
  | ended began result =>
      rw [look_ended stage]
      exact attended
  | pending began =>
      have looked : g.Looked began clock (g.look clock) := look_pending stage
      cases cancelled : clock.isCancelled with
      | true =>
          rw [looked.cancelled cancelled]
          refine ⟨nofun, ?_⟩
          rintro b result ⟨⟩ -
          obtain ⟨t, set, -⟩ := Clock.isCancelled_iff.mp cancelled
          obtain ⟨due, only⟩ := attended.pending b stage
          exact .inr ⟨t, set, only t set ▸ due⟩
      | false =>
          -- no cancellation is set, as it would be in the past
          have unset : ∀ t ∈ clock.cancelledAt, False := fun t set => by
            have is := Clock.isCancelled_iff.mpr ⟨t, set, past t set⟩
            cases is.symm.trans cancelled
          cases still : g.call.result? (clock.now - began.getD clock.now) with
          | some result =>
              obtain ⟨delay, ended, is⟩ := Behaviour.result?_eq_some_iff.mp still
              rw [looked.own cancelled delay result is ended]
              exact ⟨nofun, fun b r _ never => by cases is.symm.trans never⟩
          | none =>
              rcases Nat.lt_or_ge clock.now g.limits.deadline with due | late
              · rw [looked.waits cancelled still due]
                exact ⟨fun b _ => ⟨Nat.le_of_lt due, fun t set => (unset t set).elim⟩, nofun⟩
              · rw [looked.late cancelled still late]
                refine ⟨nofun, ?_⟩
                rintro b result ⟨⟩ -
                exact .inl rfl

theorem Attended.cancel (past : ∀ t ∈ clock.cancelledAt, t ≤ clock.now)
    (attended : g.Attended clock) : g.Attended clock.cancel := by
  unfold Clock.cancel
  split
  · exact attended
  · next running =>
      refine ⟨fun began pending => ⟨(attended.pending began pending).1, ?_⟩, ?_⟩
      · rintro t ⟨⟩
        rfl
      · intro began result ended never
        refine (attended.ended began result ended never).imp_right ?_
        rintro ⟨t, set, -⟩
        exact absurd (Clock.isCancelled_iff.mpr ⟨t, set, past t set⟩) running

theorem Attended.pass {duration : Nat} (past : ∀ t ∈ clock.cancelledAt, t ≤ clock.now)
    (attended : g.Attended clock) (attends : ∀ began, g.stage = .pending (some began) →
      ∀ m < duration, g.limits.poll? g.what began g.call (clock.pass m) = none) :
    g.Attended (clock.pass duration) := by
  refine ⟨fun began pending => ?_, attended.ended⟩
  cases duration with
  | zero => exact attended.pending began pending
  | succ n =>
      obtain ⟨-, -, due⟩ :=
        RunContext.poll?_eq_none_iff.mp (attends began pending n n.lt_succ_self)
      obtain ⟨running, -⟩ := RunContext.poll?_eq_none_iff.mp (attends began pending 0 n.succ_pos)
      refine ⟨due, fun t set => ?_⟩
      have is : clock.isCancelled = true := Clock.isCancelled_iff.mpr ⟨t, set, past t set⟩
      cases is.symm.trans running

/-- How a guard ends that is attended to and whose call never ends. -/
structure EndsInTime (g : Guard α) (clock : Clock) : Prop where
  /-- It is not waited for beyond the deadline or the cancellation. -/
  pending : ∀ began, g.stage = .pending (some began) →
    clock.now ≤ g.limits.deadline ∧ ∀ t ∈ clock.cancelledAt, clock.now ≤ t
  /-- A cancellation behind the deadline comes too late for it. -/
  late : ∀ began result, g.stage = .ended (some began) result →
    (∀ t ∈ clock.cancelledAt, g.limits.deadline < t) → result = .error (.late g.what)

theorem Attended.endsInTime (attended : g.Attended clock) (never : g.call = .never) :
    g.EndsInTime clock := by
  refine ⟨fun began pending => ?_, fun began result ended after => ?_⟩
  · obtain ⟨due, only⟩ := attended.pending began pending
    exact ⟨due, fun t set => Nat.le_of_eq (only t set).symm⟩
  · rcases attended.ended began result ended never with is | ⟨t, set, inTime⟩
    · exact is
    · exact absurd inTime (Nat.not_le.mpr (after t set))

end Guard

namespace Clones

variable {ctx : RunContext} {s : Clones α} {x : ContextStep α} {steps : List (ContextStep α)}

theorem attended_step (past : ∀ t ∈ s.clock.cancelledAt, t ≤ s.clock.now)
    (attended : ∀ g ∈ s.guards, g.Attended s.clock) (attends : s.Attends x) :
    ∀ g ∈ (s.step x).guards, g.Attended (s.step x).clock := by
  intro g' member
  obtain ⟨k, found⟩ := List.getElem?_of_mem member
  rcases guards_step_cases found with old | ⟨-, -, new⟩ | ⟨rfl, g, old, rfl⟩
  · have held := List.mem_of_getElem? old
    rcases s.clock_step_cases x with same | cancel | ⟨duration, rfl, pass⟩
    · exact same ▸ attended g' held
    · exact cancel ▸ (attended g' held).cancel past
    · exact pass ▸ (attended g' held).pass past (attends g' held)
  · exact Guard.attended_of_new new
  · exact (attended g (List.mem_of_getElem? old)).look past

theorem attended_run (sound : s.Sound ctx) (attended : ∀ g ∈ s.guards, g.Attended s.clock)
    (prompt : s.Prompt steps) : ∀ g ∈ (s.run steps).guards, g.Attended (s.run steps).clock := by
  induction steps generalizing s with
  | nil => exact attended
  | cons x steps ih =>
      exact ih (sound.step x) (attended_step sound.past attended prompt.1) prompt.2

/-! ### What can be relied on -/

/-- What can be relied on with a context and its clones, however they have come there. -/
structure Reliable (ctx : RunContext) (s : Clones α) : Prop where
  alike : ∀ h ∈ s.holders, h = ctx
  /-- Being over is not taken back. -/
  reports : s.reports.Pairwise fun before later => before = true → later = true
  /-- A cancellation by any clone holds for all of them and from then on. -/
  cancel : ∀ holder < s.holders.length, ∀ more, s.Bars ((s.step (.cancel holder)).run more)
  /-- Each look is decided by what has happened by then. -/
  looks : ∀ (k : Nat) (g : Guard α), s.guards[k]? = some g → ∀ began,
    g.stage = .pending began → ∃ g', (s.step (.look k)).guards[k]? = some g' ∧
      g.Looked began s.clock g'

theorem Sound.reliable (sound : s.Sound ctx) : s.Reliable ctx := by
  refine ⟨sound.holders, sound.reports, fun holder there more => bars_cancel there more, ?_⟩
  intro k g found began pending
  refine ⟨g.look s.clock, ?_, Guard.look_pending pending⟩
  rw [getElem?_guards_look, found]
  rfl

/-- **A context and its clones keep to the order of cancellation, call and deadline.** In any run,
what one of them cancels is cancelled for all of them and from then on: all report that the run is
over, and no later guard begins its call, even if that would end at once. A run that was reported to
be over is not reported to go on. As long as it is not cancelled, a guard whose call has ended ends
as its call does, even behind the deadline. A guard whose call never ends is ended by the first look
that finds the run over: as cancelled if it is cancelled by then, as it is if that was done before
the deadline, and else at the deadline. If it is attended to, that look is not behind the deadline
or the cancellation, and awaiting a guard is to attend to it. -/
theorem guards_keep_order (ctx : RunContext) (now : Nat) (steps : List (ContextStep α)) :
    ((start ctx now).run steps).Reliable ctx ∧
    (∀ (k : Nat) (g : Guard α), ((start ctx now).run steps).guards[k]? = some g →
      g.call = .never → (start ctx now).EndsAsFound steps k g ∧
      ∀ began result, g.stage = .ended began result →
        (∃ t ∈ ((start ctx now).run steps).clock.cancelledAt, t < ctx.deadline) →
        result = .error (.cancelled g.what)) ∧
    ((start ctx now).Prompt steps → ∀ g ∈ ((start ctx now).run steps).guards, g.call = .never →
      g.EndsInTime ((start ctx now).run steps).clock) ∧
    (∀ (what : String) (call : Behaviour α) (clock : Clock),
      ctx.Awaits what call clock (ctx.guard what call clock).1 (ctx.guard what call clock).2) ∧
    ∀ (what : String) (clock : Clock), (ctx.guard what (.never : Behaviour α) clock).1 = .error
      (if clock.cancelledAt.any (decide <| · ≤ max clock.now ctx.deadline) then .cancelled what
        else .late what) := by
  have sound := sound_start (α := α) ctx now
  refine ⟨(sound.run steps).reliable, fun k g found never => ?_, fun prompt g member never => ?_,
    ctx.awaits_guard, ctx.guard_never⟩
  · have as : (start ctx now).EndsAsFound steps k g := endsAsFound_run rfl found never
    refine ⟨as, fun began result ended early => as.of_cancelled sound ended ?_⟩
    rwa [(sound.run steps).limits g (List.mem_of_getElem? found)]
  · have none : ∀ g ∈ (start ctx now : Clones α).guards,
        g.Attended (start ctx now : Clones α).clock := fun _ absent => nomatch absent
    exact (attended_run sound none prompt g member).endsInTime never

/-- A call that never ends is looked after at once, and again at the deadline at 5, when the run has
just been cancelled. -/
def overtaken : List (ContextStep Unit) :=
  [.guard 0 "call" .never, .look 0, .pass 5, .cancel 0, .look 0]

/-- Nobody looks after such a call before the run is cancelled, long after the deadline. -/
def overlooked : List (ContextStep Unit) :=
  [.guard 0 "call" .never, .look 0, .pass 7, .cancel 0, .look 0]

/-- Such a call is guarded when the deadline has passed and the run is cancelled. -/
def barred : List (ContextStep Unit) :=
  [.pass 7, .cancel 0, .guard 0 "call" .never, .look 0]

theorem prompt_overtaken : (start ⟨5, none⟩ 0).Prompt overtaken := by
  refine ⟨trivial, trivial, ?_, trivial, trivial, trivial⟩
  intro g member began pending m early
  cases List.mem_singleton.mp member
  cases pending
  have early : 0 + m < 5 := by omega
  exact RunContext.poll?_eq_none_iff.mpr ⟨rfl, rfl, early⟩

/-- All is kept to where the cancellation is not there before the deadline, but before the look. -/
theorem guards_keep_order_overtaken :
    (start ⟨5, none⟩ 0).Prompt overtaken ∧ ∃ g : Guard Unit,
      ((start ⟨5, none⟩ 0).run overtaken).guards[0]? = some g ∧ g.call = .never ∧
      (start ⟨5, none⟩ 0).EndsAsFound overtaken 0 g ∧
      g.EndsInTime ((start ⟨5, none⟩ 0).run overtaken).clock := by
  have ⟨_, found, inTime, _⟩ := guards_keep_order ⟨5, none⟩ 0 overtaken
  exact ⟨prompt_overtaken, _, rfl, rfl, (found 0 _ rfl rfl).1,
    inTime prompt_overtaken _ (.head _) rfl⟩

/-- A guard ends at the deadline unless the run is cancelled before. -/
def EndsByDeadline (s : Clones α) : Prop :=
  ∀ g ∈ s.guards, g.call = .never → ∀ began result, g.stage = .ended began result →
    result = .error (if s.clock.cancelledAt.any (decide <| · < g.limits.deadline) then
      .cancelled g.what else .late g.what)

/-- The deadline alone does not decide how a guard ends: a run that is cancelled at it or behind it
ends those as cancelled that nobody has looked after since. -/
theorem not_endsByDeadline :
    (start ⟨5, none⟩ 0).Prompt overtaken ∧
    ¬ ((start ⟨5, none⟩ 0).run overtaken).EndsByDeadline ∧
    ¬ ((start ⟨5, none⟩ 0).run overlooked).EndsByDeadline ∧
    ¬ ((start ⟨5, none⟩ 0).run barred).EndsByDeadline := by
  have apart : (.error (.cancelled "call") : Except Failure Unit) ≠ .error (.late "call") := by
    have words : "call was cancelled" ≠
        "call did not complete before the run deadline: deadline has elapsed" := by decide
    exact fun same => words (Cause.text.inj (Failure.mk.inj (Except.error.inj same)).1)
  refine ⟨prompt_overtaken, fun ends => ?_, fun ends => ?_, fun ends => ?_⟩
  · exact apart (ends _ (.head _) rfl (some 0) _ rfl)
  · exact apart (ends _ (.head _) rfl (some 0) _ rfl)
  · exact apart (ends _ (.head _) rfl none _ rfl)

end Clones

end ProfileAudit
