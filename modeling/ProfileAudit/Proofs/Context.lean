import ProfileAudit.Context

/-!
# Clocks that go on

Time does not go back and a cancellation is not taken back, so a run that is over stays over. A
call that is looked after from time to time comes to the end that waiting for it would find, at
the latest when that waiting would end (`poll?_isSome`).
-/

namespace ProfileAudit

/-! ## Clocks -/

/-- One clock is what the other can become. -/
structure Clock.GoesTo (c d : Clock) : Prop where
  now_le : c.now ≤ d.now
  cancelled : c.isCancelled = true → d.isCancelled = true

namespace Clock

variable {c d e : Clock}

theorem GoesTo.refl (c : Clock) : c.GoesTo c := ⟨Nat.le_refl _, id⟩

theorem GoesTo.trans (first : c.GoesTo d) (second : d.GoesTo e) : c.GoesTo e :=
  ⟨Nat.le_trans first.now_le second.now_le, fun h => second.cancelled (first.cancelled h)⟩

theorem isCancelled_iff : c.isCancelled = true ↔ ∃ t ∈ c.cancelledAt, t ≤ c.now := by
  unfold isCancelled
  cases c.cancelledAt <;> simp

theorem goesTo_pass (c : Clock) (duration : Nat) : c.GoesTo (c.pass duration) := by
  refine ⟨Nat.le_add_right _ _, fun h => ?_⟩
  obtain ⟨t, set, past⟩ := isCancelled_iff.mp h
  exact isCancelled_iff.mpr ⟨t, set, Nat.le_trans past (Nat.le_add_right _ _)⟩

theorem goesTo_cancel (c : Clock) : c.GoesTo c.cancel := by
  unfold cancel
  split
  · exact .refl c
  · next running => exact ⟨Nat.le_refl _, fun h => absurd h running⟩

end Clock

/-! ## Limits -/

namespace RunContext

variable {ctx : RunContext} {c d : Clock}

theorem isOver_iff : ctx.isOver c = true ↔ c.isCancelled = true ∨ ctx.deadline ≤ c.now := by
  simp [isOver]

theorem isOver_eq_false_iff :
    ctx.isOver c = false ↔ c.isCancelled = false ∧ c.now < ctx.deadline := by
  simp [isOver]

theorem isOver_of_goesTo (goes : c.GoesTo d) (closed : ctx.isOver c = true) :
    ctx.isOver d = true := by
  rcases isOver_iff.mp closed with cancelled | late
  · exact isOver_iff.mpr (.inl (goes.cancelled cancelled))
  · exact isOver_iff.mpr (.inr (Nat.le_trans late goes.now_le))

/-- A bound on the queries at once lets at least one through. -/
theorem concurrency_start_ne_zero (now timeout concurrency : Nat) :
    (start now timeout concurrency).concurrency ≠ some 0 := by
  unfold start
  split <;> simp [*]

/-- What is not over was not over before. -/
theorem running_of_goesTo (goes : c.GoesTo d) (running : ctx.isOver d = false) :
    ctx.isOver c = false := by
  rw [← Bool.not_eq_true] at running ⊢
  exact fun closed => running (isOver_of_goesTo goes closed)

end RunContext

/-! ## Calls that are looked after -/

variable {α : Type} {ctx : RunContext} {what : String} {began : Nat} {call : Behaviour α}
  {clock : Clock} {result : Except Failure α}

theorem Behaviour.result?_eq_some_iff {elapsed : Nat} :
    call.result? elapsed = some result ↔ ∃ delay ≤ elapsed, call = .after delay result := by
  cases call with
  | never => simp [Behaviour.result?]
  | after delay r =>
      simp only [Behaviour.result?, Option.ite_none_right_eq_some, Option.some.injEq,
        Behaviour.after.injEq]
      constructor
      · rintro ⟨le, rfl⟩
        exact ⟨delay, le, rfl, rfl⟩
      · rintro ⟨_, le, rfl, rfl⟩
        exact ⟨le, rfl⟩

/-- The wait for a call ends with the cancellation, with the call itself or at the deadline. -/
theorem RunContext.poll?_cases (polled : ctx.poll? what began call clock = some result) :
    (clock.isCancelled = true ∧ result = .error (.cancelled what)) ∨
      clock.isCancelled = false ∧ ((∃ delay ≤ clock.now - began, call = .after delay result) ∨
        ctx.deadline ≤ clock.now ∧ result = .error (.late what)) := by
  unfold RunContext.poll? at polled
  split at polled
  · next cancelled =>
      cases polled
      exact .inl ⟨cancelled, rfl⟩
  · next running =>
      refine .inr ⟨Bool.not_eq_true _ ▸ running, ?_⟩
      rcases Option.or_eq_some_iff.mp polled with ended | ⟨-, late⟩
      · exact .inl (Behaviour.result?_eq_some_iff.mp ended)
      · split at late
        · next past =>
            cases late
            exact .inr ⟨past, rfl⟩
        · cases late

theorem RunContext.poll?_of_cancelled (cancelled : clock.isCancelled = true) :
    (ctx.poll? what began call clock).isSome = true := by
  rw [poll?, if_pos cancelled]
  rfl

theorem RunContext.poll?_of_deadline (late : ctx.deadline ≤ clock.now) :
    (ctx.poll? what began call clock).isSome = true := by
  by_cases cancelled : clock.isCancelled = true
  · exact poll?_of_cancelled cancelled
  · rw [poll?, if_neg cancelled, if_pos late, Option.isSome_or, Option.isSome_some, Bool.or_true]

theorem RunContext.poll?_of_result {delay : Nat} (is : call = .after delay result)
    (short : began + delay ≤ clock.now) : (ctx.poll? what began call clock).isSome = true := by
  by_cases cancelled : clock.isCancelled = true
  · exact poll?_of_cancelled cancelled
  · have ended : call.result? (clock.now - began) = some result :=
      Behaviour.result?_eq_some_iff.mpr ⟨delay, by omega, is⟩
    rw [poll?, if_neg cancelled, ended]
    rfl

/-- When and how a call ends that is not cancelled. -/
def RunContext.ending (ctx : RunContext) (what : String) (now : Nat) :
    Behaviour α → Nat × Except Failure α
  | .after 0 result => (now, result)
  | .after delay result =>
    if now + delay ≤ ctx.deadline then (now + delay, result)
    else (max now ctx.deadline, .error (.late what))
  | .never => (max now ctx.deadline, .error (.late what))

theorem RunContext.guard_eq (ctx : RunContext) (what : String) (call : Behaviour α)
    (clock : Clock) : ctx.guard what call clock =
      if clock.isCancelled then (.error (.cancelled what), clock)
      else
        match clock.cancelledAt with
        | some t =>
          if t ≤ (ctx.ending what clock.now call).1 then
            (.error (.cancelled what), { clock with now := t })
          else ((ctx.ending what clock.now call).2,
            { clock with now := (ctx.ending what clock.now call).1 })
        | none => ((ctx.ending what clock.now call).2,
            { clock with now := (ctx.ending what clock.now call).1 }) := by
  unfold RunContext.guard RunContext.ending
  rfl

theorem RunContext.ending_cases (ctx : RunContext) (what : String) (now : Nat)
    (call : Behaviour α) :
    ctx.deadline ≤ (ctx.ending what now call).1 ∨
      ∃ delay result, call = .after delay result ∧ now + delay ≤ (ctx.ending what now call).1 := by
  unfold ending
  split
  · next result => exact .inr ⟨0, result, rfl, Nat.le_refl _⟩
  · next delay result _ =>
      split
      · exact .inr ⟨delay, result, rfl, Nat.le_refl _⟩
      · exact .inl (Nat.le_max_right _ _)
  · exact .inl (Nat.le_max_right _ _)

/-- What has happened by the time that waiting for a call ends. -/
theorem RunContext.guard_cases (ctx : RunContext) (what : String) (call : Behaviour α)
    (clock : Clock) : ∃ now, (ctx.guard what call clock).2 = { clock with now } ∧
      ((∃ t ∈ clock.cancelledAt, t ≤ now) ∨ ctx.deadline ≤ now ∨
        ∃ delay result, call = .after delay result ∧ clock.now + delay ≤ now) := by
  have ended := ctx.ending_cases what clock.now call
  rw [guard_eq]
  split
  · next cancelled => exact ⟨clock.now, rfl, .inl (Clock.isCancelled_iff.mp cancelled)⟩
  · split
    · next t set =>
        split
        · exact ⟨t, rfl, .inl ⟨t, set, Nat.le_refl t⟩⟩
        · exact ⟨_, rfl, .inr ended⟩
    · exact ⟨_, rfl, .inr ended⟩

theorem RunContext.ending_ge (ctx : RunContext) (what : String) (now : Nat)
    (call : Behaviour α) : now ≤ (ctx.ending what now call).1 := by
  unfold ending
  split
  · exact Nat.le_refl _
  · split
    · exact Nat.le_add_right _ _
    · exact Nat.le_max_left _ _
  · exact Nat.le_max_left _ _

/-- Time goes on while a call is waited for. -/
theorem RunContext.goesTo_guard (ctx : RunContext) (what : String) (call : Behaviour α)
    (clock : Clock) : clock.GoesTo (ctx.guard what call clock).2 := by
  have le := ctx.ending_ge what clock.now call
  rw [guard_eq]
  split
  · exact .refl clock
  · next running =>
      have kept {now : Nat} (later : clock.now ≤ now) : clock.GoesTo { clock with now } :=
        ⟨later, fun cancelled => absurd cancelled running⟩
      split
      · next t set =>
          split
          · have ahead : ¬ t ≤ clock.now := fun past =>
              running (Clock.isCancelled_iff.mpr ⟨t, set, past⟩)
            exact kept (by omega)
          · exact kept le
      · exact kept le

/-- When waiting for a call would have ended, the call has ended for whoever looks after it. -/
theorem RunContext.poll?_isSome
    (past : (ctx.guard what call { clock with now := began }).2.now ≤ clock.now) :
    (ctx.poll? what began call clock).isSome = true := by
  obtain ⟨now, ends, ended⟩ := ctx.guard_cases what call { clock with now := began }
  rw [ends] at past
  rcases ended with ⟨t, set, by_then⟩ | late | ⟨delay, result, is, ended⟩
  · exact poll?_of_cancelled (Clock.isCancelled_iff.mpr ⟨t, set, Nat.le_trans by_then past⟩)
  · exact poll?_of_deadline (Nat.le_trans late past)
  · exact poll?_of_result is (Nat.le_trans ended past)

/-! ## Calls that are waited for -/

/-- Waiting does not look at what is answered. -/
theorem RunContext.guard_map {β : Type} (ctx : RunContext) (what : String)
    (call : Behaviour α) (clock : Clock) (f : α → β) : ctx.guard what (call.map (·.map f)) clock =
      ((ctx.guard what call clock).1.map f, (ctx.guard what call clock).2) := by
  have ending : ctx.ending what clock.now (call.map (·.map f)) =
      ((ctx.ending what clock.now call).1, (ctx.ending what clock.now call).2.map f) := by
    rcases call with ⟨_ | delay, result⟩ | _
    · rfl
    · simp only [Behaviour.map, ending]
      split <;> rfl
    · rfl
  rw [guard_eq, guard_eq, ending]
  split
  · rfl
  · split
    · split <;> rfl
    · rfl

theorem RunContext.ending_result_cases (ctx : RunContext) (what : String) (now : Nat)
    (call : Behaviour α) :
    ((ctx.ending what now call).2 = .error (.late what) ∧
        ctx.deadline ≤ (ctx.ending what now call).1) ∨
      ∃ delay, call = .after delay (ctx.ending what now call).2 := by
  unfold ending
  split
  · exact .inr ⟨0, rfl⟩
  · next delay _ _ =>
      split
      · exact .inr ⟨delay, rfl⟩
      · exact .inl ⟨rfl, Nat.le_max_right _ _⟩
  · exact .inl ⟨rfl, Nat.le_max_right _ _⟩

/-- Waiting for a call fails because the run is over, or ends as the call itself does. -/
theorem RunContext.guard_result_cases (ctx : RunContext) (what : String) (call : Behaviour α)
    (clock : Clock) :
    (ctx.isOver (ctx.guard what call clock).2 = true ∧
        ∃ failure, (ctx.guard what call clock).1 = .error failure) ∨
      ∃ delay, call = .after delay (ctx.guard what call clock).1 := by
  have ended : ∀ {c : Clock}, c.now = (ctx.ending what clock.now call).1 →
      (ctx.isOver c = true ∧ ∃ failure, (ctx.ending what clock.now call).2 = .error failure) ∨
        ∃ delay, call = .after delay (ctx.ending what clock.now call).2 := by
    intro c now
    rcases ctx.ending_result_cases what clock.now call with ⟨late, past⟩ | own
    · exact .inl ⟨isOver_iff.mpr (.inr (now ▸ past)), _, late⟩
    · exact .inr own
  rw [guard_eq]
  split
  · next cancelled => exact .inl ⟨isOver_iff.mpr (.inl cancelled), _, rfl⟩
  · split
    · next t set =>
        split
        · have cancelled : Clock.isCancelled { clock with now := t } = true :=
            Clock.isCancelled_iff.mpr ⟨t, set, Nat.le_refl t⟩
          exact .inl ⟨isOver_iff.mpr (.inl cancelled), _, rfl⟩
        · exact ended rfl
    · exact ended rfl

/-- Who is answered is answered by the call. -/
theorem RunContext.answers_of_guard {a : α} (ok : (ctx.guard what call clock).1 = .ok a) :
    ∃ delay, call = .after delay (.ok a) := by
  rcases ctx.guard_result_cases what call clock with ⟨-, failure, failed⟩ | own
  · cases ok.symm.trans failed
  · exact ok ▸ own

/-- As long as the run is not over, a call ends by itself. -/
theorem RunContext.guard_of_running (ends : ∀ delay own, call = .after delay own → own = result)
    (running : ctx.isOver (ctx.guard what call clock).2 = false) :
    (ctx.guard what call clock).1 = result := by
  rcases ctx.guard_result_cases what call clock with ⟨closed, -⟩ | ⟨delay, own⟩
  · cases running.symm.trans closed
  · exact ends delay _ own

end ProfileAudit
