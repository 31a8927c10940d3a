import ProfileAudit.Proofs.Config.Loading
import ProfileAudit.Proofs.Context

/-!
# Deadlines

The deadline of a run is the instant at which it begins and its timeout, cut to thirty years. It is
told in whole nanoseconds; a clock has words of limited length for seconds and for nanoseconds, in
which the same sum comes out, with every carry, as long as the clock has the instant (`total_add?`).
So no timeout that words can hold lets the sum overflow while thirty years are left on the clock,
and a timeout that a configuration can have is neither cut nor lost (`deadline_exact`).
-/

namespace ProfileAudit

theorem second_eq : second = 1000000000 := rfl

/-! ## Durations and instants in words -/

/-- A duration: seconds in 64 bits, and nanoseconds that make no second. -/
structure Span where
  seconds : Nat
  nanos : Nat
  seconds_lt : seconds < Nat.pow 2 64
  nanos_lt : nanos < second

/-- An instant: seconds in the 63 bits of a number with a sign, and nanoseconds that make no
second. -/
structure TimePoint where
  seconds : Nat
  nanos : Nat
  seconds_lt : seconds < Nat.pow 2 63
  nanos_lt : nanos < second

/-- All nanoseconds of a duration. -/
def Span.total (d : Span) : Nat := d.seconds * second + d.nanos

/-- All nanoseconds up to an instant. -/
def TimePoint.total (t : TimePoint) : Nat := t.seconds * second + t.nanos

namespace Span

/-- The longest duration. -/
def longest : Span := ⟨Nat.pow 2 64 - 1, second - 1, by decide, by decide⟩

/-- Thirty years. -/
def farFuture : Span := ⟨86400 * 365 * 30, 0, by decide, by decide⟩

/-- Seconds count before nanoseconds. -/
def shorter (d e : Span) : Span :=
  if d.seconds < e.seconds ∨ d.seconds = e.seconds ∧ d.nanos ≤ e.nanos then d else e

theorem exists_total {n : Nat} (fits : n < Nat.pow 2 64 * second) : ∃ d : Span, d.total = n := by
  have seconds : n / second < Nat.pow 2 64 := Nat.div_lt_of_lt_mul (Nat.mul_comm _ _ ▸ fits)
  refine ⟨⟨n / second, n % second, seconds, Nat.mod_lt n (by decide)⟩, ?_⟩
  exact Nat.div_add_mod' n second

theorem total_farFuture : farFuture.total = ProfileAudit.farFuture := rfl

theorem total_shorter (d e : Span) : (d.shorter e).total = min d.total e.total := by
  have nanos := d.nanos_lt
  have nanos' := e.nanos_lt
  unfold shorter total
  rw [second_eq] at nanos nanos' ⊢
  split <;> omega

end Span

namespace TimePoint

/-- The instant some time later, as a clock adds: seconds, nanoseconds, and one more second if
the nanoseconds make one. Seconds are checked for their word; nanoseconds need no check. -/
def add? (t : TimePoint) (d : Span) : Option TimePoint :=
  if seconds : t.seconds + d.seconds < Nat.pow 2 63 then
    if nanos : t.nanos + d.nanos < second then
      some ⟨t.seconds + d.seconds, t.nanos + d.nanos, seconds, nanos⟩
    else if carried : t.seconds + d.seconds + 1 < Nat.pow 2 63 then
      some ⟨t.seconds + d.seconds + 1, t.nanos + d.nanos - second, carried, by
        have := t.nanos_lt
        have := d.nanos_lt
        omega⟩
    else none
  else none

/-- Nanoseconds that make no second fit into 32 bits when they are added. -/
theorem nanos_add_lt (t : TimePoint) (d : Span) : t.nanos + d.nanos < Nat.pow 2 32 := by
  have nanos := t.nanos_lt
  have nanos' := d.nanos_lt
  have word : Nat.pow 2 32 = 4294967296 := rfl
  rw [second_eq] at nanos nanos'
  omega

theorem total_add_total (t : TimePoint) (d : Span) :
    t.total + d.total = (t.seconds + d.seconds) * second + (t.nanos + d.nanos) := by
  unfold total Span.total
  rw [Nat.add_mul]
  omega

/-- Words add up to what whole nanoseconds add up to, and fail if there is no such instant. -/
theorem total_add? (t : TimePoint) (d : Span) : (t.add? d).map total = later? t.total d.total := by
  have nanos := t.nanos_lt
  have nanos' := d.nanos_lt
  rw [later?, total_add_total, endOfTime]
  unfold add?
  split
  · next seconds =>
    split
    · next small =>
        rw [if_pos, Option.map_some, total]
        rw [second_eq] at small ⊢
        omega
    · next large =>
        split
        · next carried =>
            have sum : (t.seconds + d.seconds + 1) * second + (t.nanos + d.nanos - second) =
                (t.seconds + d.seconds) * second + (t.nanos + d.nanos) := by
              rw [Nat.succ_mul]
              omega
            rw [if_pos, Option.map_some, total, sum]
            rw [second_eq] at nanos nanos' ⊢
            omega
        · next full =>
            rw [if_neg, Option.map_none]
            rw [second_eq] at large ⊢
            omega
  · next full =>
      rw [if_neg, Option.map_none]
      rw [second_eq]
      omega

/-- The deadline of a run that begins now, in words. -/
def deadline (now : TimePoint) (timeout : Span) : TimePoint :=
  (now.add? (timeout.shorter .farFuture)).getD now

/-- In words there is the same deadline. -/
theorem total_deadline (now : TimePoint) (timeout : Span) (concurrency : Nat) :
    (now.deadline timeout).total =
      (RunContext.start now.total timeout.total concurrency).deadline := by
  have sum := now.total_add? (timeout.shorter .farFuture)
  rw [Span.total_shorter, Span.total_farFuture] at sum
  rw [RunContext.start, ← sum, deadline]
  cases now.add? (timeout.shorter .farFuture) <;> rfl

end TimePoint

/-! ## Deadlines -/

namespace RunContext

variable {now timeout : Nat}

theorem later?_eq_some {duration : Nat} (range : now + duration < endOfTime) :
    later? now duration = some (now + duration) := if_pos range

/-- While the clock has the instant, the deadline is the instant after the timeout or after thirty
years. -/
theorem deadline_start (range : now + min timeout farFuture < endOfTime) (concurrency : Nat) :
    (start now timeout concurrency).deadline = now + min timeout farFuture := by
  rw [start, later?_eq_some range]
  rfl

/-- A run is over when its deadline has come, unless it is cancelled. -/
theorem isOver_start_iff (range : now + min timeout farFuture < endOfTime) (concurrency : Nat)
    {clock : Clock} (running : clock.isCancelled = false) :
    (start now timeout concurrency).isOver clock = true ↔
      now + min timeout farFuture ≤ clock.now := by
  rw [isOver_iff, running, deadline_start range]
  exact or_iff_right nofun

end RunContext

/-! ## Timeouts that can be configured -/

/-- A run lasts exactly so long from the instant at which it begins. -/
structure Lasts (now : TimePoint) (duration : Nat) (context : RunContext) : Prop where
  deadline : context.deadline = now.total + duration
  later : now.total < context.deadline
  /-- Nothing is cut off. -/
  whole : duration < farFuture
  /-- The clock has the instant at which the run ends. -/
  timed : ∃ timeout : Span, timeout.total = duration ∧
    (now.add? timeout).map TimePoint.total = some (now.total + duration)
  ends : ∀ clock : Clock, clock.isCancelled = false →
    (context.isOver clock = true ↔ now.total + duration ≤ clock.now)

/-- The deadline of a run with this timeout is found in words, none of which is too short. -/
structure Timed (now : TimePoint) (timeout : Span) : Prop where
  nanos : now.nanos + (timeout.shorter .farFuture).nanos < Nat.pow 2 32
  sum : now.add? (timeout.shorter .farFuture) = some (now.deadline timeout)
  total : (now.deadline timeout).total = now.total + min timeout.total farFuture
  deadline : ∀ concurrency, (RunContext.start now.total timeout.total concurrency).deadline =
    now.total + min timeout.total farFuture

variable {now : TimePoint}

/-- Seven days are within thirty years. -/
theorem Config.Sound.runTimeout_lt {config : Config} (sound : config.Sound) :
    config.runTimeout < farFuture :=
  Nat.lt_of_le_of_lt sound.runEnds (by decide)

theorem lasts_start {timeout : Nat} (some : 0 < timeout) (short : timeout < farFuture)
    (range : now.total + farFuture < endOfTime) (concurrency : Nat) :
    Lasts now timeout (RunContext.start now.total timeout concurrency) := by
  have least : min timeout farFuture = timeout := Nat.min_eq_left (Nat.le_of_lt short)
  have within : now.total + min timeout farFuture < endOfTime := by omega
  have deadline := RunContext.deadline_start within concurrency
  have words : timeout < Nat.pow 2 64 * second := Nat.lt_trans short (by decide)
  obtain ⟨span, total⟩ := Span.exists_total words
  refine ⟨?_, ?_, short, ⟨span, total, ?_⟩, fun clock running => ?_⟩
  · rw [deadline, least]
  · rw [deadline, least]
    omega
  · rw [TimePoint.total_add?, total, RunContext.later?_eq_some (least ▸ within)]
  · rw [RunContext.isOver_start_iff within concurrency running, least]

theorem timed_of_range (range : now.total + farFuture < endOfTime) (timeout : Span) :
    Timed now timeout := by
  have within : now.total + min timeout.total farFuture < endOfTime := by omega
  have deadline := RunContext.deadline_start within
  have sum := now.total_add? (timeout.shorter .farFuture)
  rw [Span.total_shorter, Span.total_farFuture, RunContext.later?_eq_some within] at sum
  obtain ⟨t, added, -⟩ := Option.map_eq_some_iff.mp sum
  have is : now.deadline timeout = t := by
    rw [TimePoint.deadline, added]
    rfl
  have total : (now.deadline timeout).total = now.total + min timeout.total farFuture :=
    (now.total_deadline timeout 0).trans (deadline 0)
  exact ⟨now.nanos_add_lt _, is ▸ added, total, deadline⟩

/-- **A run ends exactly when its time is over.** While thirty years are left on the clock, a run
with a loaded configuration lasts exactly as long as its timeout: this is not zero and not cut, and
the clock has the instant at which it is over. No other timeout makes the sum overflow either: the
run ends after the timeout or after thirty years, whichever is less. -/
theorem deadline_exact {files : FileTree} {base : String} {explicit : Option String}
    {config : Config} (loaded : Config.load files base explicit = .ok config)
    (range : now.total + farFuture < endOfTime) (concurrency : Nat) :
    Lasts now config.runTimeout
        (RunContext.start now.total config.runTimeout concurrency) ∧
      ∀ timeout : Span, Timed now timeout := by
  obtain ⟨sound, -⟩ := (Config.loads_load files base explicit).sound loaded
  exact ⟨lasts_start sound.runs sound.runTimeout_lt range concurrency, timed_of_range range⟩

/-- The last instant with thirty years to go. -/
def TimePoint.latest : TimePoint :=
  ⟨Nat.pow 2 63 - 1 - 86400 * 365 * 30, second - 1, by decide, by decide⟩

/-- The longest timeout that can be configured, and the longest of all. -/
theorem deadline_exact_at_latest :
    Config.load ⟨[(["cpv.toml"], .file (.text "run_timeout = \"7d\"\n"))], []⟩ "" none =
        .ok { runTimeout := 7 * 24 * 60 * 60 * second } ∧
      TimePoint.latest.total + farFuture < endOfTime ∧
      Lasts .latest (7 * 24 * 60 * 60 * second)
        (RunContext.start TimePoint.latest.total (7 * 24 * 60 * 60 * second) 0) ∧
      Timed .latest .longest := by
  have read : FileTree.read ⟨[(["cpv.toml"], .file (.text "run_timeout = \"7d\"\n"))], []⟩
      (Config.place "" none) = .ok "run_timeout = \"7d\"\n" := by rfl
  have given : Config.ofText? "run_timeout = \"7d\"\n" =
      some { runTimeout := 7 * 24 * 60 * 60 * second } := by decide +kernel
  have sound : Config.defect? { runTimeout := 7 * 24 * 60 * 60 * second } = none := by
    decide +kernel
  have valid : Config.validate { runTimeout := 7 * 24 * 60 * 60 * second } =
      .ok { runTimeout := 7 * 24 * 60 * 60 * second } := by
    rw [Config.validate, sound]
  have loaded : Config.load ⟨[(["cpv.toml"], .file (.text "run_timeout = \"7d\"\n"))], []⟩ "" none =
      .ok { runTimeout := 7 * 24 * 60 * 60 * second } := by
    rw [Config.load_of_read read, Config.parse, given]
    exact valid
  have range : TimePoint.latest.total + farFuture < endOfTime := by decide
  obtain ⟨lasts, timed⟩ := deadline_exact loaded range 0
  exact ⟨loaded, range, lasts, timed .longest⟩

end ProfileAudit
