import ProfileAudit.Failure

/-!
The limits of a run: a deadline, and a signal by which everything is cancelled. Waiting
for a call ends with the call, with the cancellation or at the deadline, whichever comes
first. Instants and durations are whole nanoseconds.
-/

namespace ProfileAudit

/-- The number of nanoseconds in a second. -/
def second : Nat := Nat.pow 10 9

/-- The longest time that a run is given: thirty years. -/
def farFuture : Nat := 86400 * 365 * 30 * second

/-- The clock has no instant from this one on. -/
def endOfTime : Nat := Nat.pow 2 63 * second

/-- An instant some time later, if the clock has it. -/
def later? (now duration : Nat) : Option Nat :=
  if now + duration < endOfTime then some (now + duration) else none

/-! ## Clocks -/

/-- The present instant, and the instant at which the run is cancelled, be it past or
still to come. -/
structure Clock where
  now : Nat := 0
  cancelledAt : Option Nat := none
  deriving DecidableEq, Inhabited

namespace Clock

/-- The run has been cancelled. -/
def isCancelled (c : Clock) : Bool := c.cancelledAt.any (decide <| · ≤ c.now)

/-- Cancels the run now, unless that was done before. -/
def cancel (c : Clock) : Clock := if c.isCancelled then c else { c with cancelledAt := some c.now }

def pass (c : Clock) (duration : Nat) : Clock := { c with now := c.now + duration }

end Clock

/-! ## Limits -/

/-- The limits of a run. -/
structure RunContext where
  deadline : Nat
  /-- How many series may be counted at once; no number means no bound. -/
  concurrency : Option Nat
  deriving DecidableEq, Inhabited

namespace RunContext

/-- The limits of a run that begins now. A concurrency of zero is no bound. -/
def start (now timeout concurrency : Nat) : RunContext where
  deadline := (later? now (min timeout farFuture)).getD now
  concurrency := if concurrency = 0 then none else some concurrency

/-- The run is over: cancelled, or past its deadline. -/
def isOver (ctx : RunContext) (c : Clock) : Bool := c.isCancelled || decide (ctx.deadline ≤ c.now)

end RunContext

/-! ## Waiting -/

/-- What a call to the outside does: it ends after some time, or never. -/
inductive Behaviour (α : Type) where
  | after (delay : Nat) (result : Except Failure α)
  | never

namespace Behaviour

variable {α β : Type}

/-- Ends at once. -/
def ready (result : Except Failure α) : Behaviour α := after 0 result

def map (f : Except Failure α → Except Failure β) : Behaviour α → Behaviour β
  | after delay result => after delay (f result)
  | never => never

/-- The result of a call that began some time ago, if it has ended. -/
def result? (elapsed : Nat) : Behaviour α → Option (Except Failure α)
  | after delay result => if delay ≤ elapsed then some result else none
  | never => none

end Behaviour

/-- A call was cancelled. -/
def Failure.cancelled (what : String) : Failure := .ofText s!"{what} was cancelled"

/-- A call did not end before the deadline. -/
def Failure.late (what : String) : Failure :=
  .ofText s!"{what} did not complete before the run deadline: deadline has elapsed"

/-- Looks after a call that began at some instant: how the wait for it ends, if it ends now. A
cancellation counts before the result of the call, and that before the deadline, whichever of
them was there first. -/
def RunContext.poll? {α : Type} (ctx : RunContext) (what : String) (began : Nat)
    (call : Behaviour α) (clock : Clock) : Option (Except Failure α) :=
  if clock.isCancelled then some (.error (.cancelled what))
  else
    (call.result? (clock.now - began)).or
      (if ctx.deadline ≤ clock.now then some (.error (.late what)) else none)

/-- Waits for a call, and tells when that ends. A run that is cancelled does not begin the
call; a call that ends at once succeeds after the deadline too; of two things that happen
at one instant a cancellation comes first, then the end of the call, then the deadline. -/
def RunContext.guard {α : Type} (ctx : RunContext) (what : String) (call : Behaviour α)
    (clock : Clock) : Except Failure α × Clock :=
  if clock.isCancelled then (.error (.cancelled what), clock)
  else
    let (finish, result) := match call with
      | .after 0 result => (clock.now, result)
      | .after delay result =>
        if clock.now + delay ≤ ctx.deadline then (clock.now + delay, result)
        else (max clock.now ctx.deadline, .error (.late what))
      | .never => (max clock.now ctx.deadline, .error (.late what))
    match clock.cancelledAt with
    | some t =>
      if t ≤ finish then (.error (.cancelled what), { clock with now := t })
      else (result, { clock with now := finish })
    | none => (result, { clock with now := finish })

end ProfileAudit
