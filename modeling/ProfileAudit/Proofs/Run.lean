import ProfileAudit.Run

/-!
How the parts of a run compose: a part that fails ends the whole and leaves the journal as
it is, and a call to the outside is noted unless the run is cancelled before it begins.
-/

namespace ProfileAudit

/-- The run has done its own work before a call. -/
def Journal.ready (j : Journal) (s : Surroundings) : Journal :=
  { j with clock := j.clock.pass (s.lag j.moment) }

/-- A call has begun. -/
def Journal.asking (j : Journal) (c : Call) : Journal := { j with calls := j.calls ++ [c] }

namespace Audit

variable {α β : Type} {s : Surroundings} {j : Journal}

theorem bind_apply {x : Audit α} {f : α → Audit β} :
    (x >>= f) s j = match x s j with
      | (.ok a, j') => f a s j'
      | (.error e, j') => (.error e, j') := by
  change ExceptT.bindCont (fun a => f a s) (x s j).1 (x s j).2 = _
  rcases x s j with ⟨_ | _, _⟩ <;> rfl

/-- What succeeds in two steps succeeds in each of them. -/
theorem exists_of_bind_ok {x : Audit α} {f : α → Audit β} {b : β}
    (ok : ((x >>= f) s j).1 = .ok b) : ∃ a k, x s j = (.ok a, k) ∧ (f a s k).1 = .ok b := by
  rw [bind_apply] at ok
  split at ok
  · next a k ends => exact ⟨a, k, ends, ok⟩
  · cases ok

theorem fst_bind_pure {x : Audit α} {f : α → β} :
    ((x >>= fun a => pure (f a)) s j).1 = (x s j).1.map f := by
  rw [bind_apply]
  rcases x s j with ⟨_ | _, _⟩ <;> rfl

/-- Reckoning with a result adds nothing to the journal. -/
theorem snd_bind_pure {x : Audit α} {f : α → β} :
    ((x >>= fun a => pure (f a)) s j).2 = (x s j).2 := by
  rw [bind_apply]
  rcases x s j with ⟨_ | _, _⟩ <;> rfl

theorem ofResult_apply {r : Except Failure α} : ofResult r s j = (r, j) := rfl

/-- A call that begins before the run is cancelled is the next one of the journal. -/
theorem calls_call {what : String} {c : Call} {reaction : Reaction α}
    (running : (j.clock.pass (s.lag j.moment)).isCancelled = false) :
    (call what c reaction s j).2.calls = j.calls ++ [c] := by
  simp only [call, ofStep, running, Bool.false_eq_true, if_false]

/-- A call that is due when the run is cancelled does not begin. -/
theorem call_of_cancelled {what : String} {c : Call} {reaction : Reaction α}
    (cancelled : (j.ready s).clock.isCancelled = true) :
    call what c reaction s j = (.error (.cancelled what), j.ready s) := by
  unfold Journal.ready at cancelled
  simp only [call, ofStep, RunContext.guard, Journal.ready, cancelled, if_true]

/-- A call that is due before that begins, and ends as the guard says. -/
theorem call_of_running {what : String} {c : Call} {reaction : Reaction α}
    (running : (j.ready s).clock.isCancelled = false) :
    call what c reaction s j =
      ((s.context.guard what (reaction (j.ready s).moment) (j.ready s).clock).1,
        { (j.ready s).asking c with
          clock := (s.context.guard what (reaction (j.ready s).moment) (j.ready s).clock).2 }) := by
  unfold Journal.ready at running
  simp only [call, ofStep, running, Bool.false_eq_true, if_false]
  rfl

end Audit

/-- What is loaded is what the metadata names. -/
theorem Backend.loadedMetrics_of_metadata {b : Backend} {m : Moment} {delay : Nat}
    {metadata : List TargetMetadata} (answer : b.metadata {} m = .after delay (.ok metadata)) :
    b.loadedMetrics m = .after delay (.ok (.ofList (metadata.map (·.metric)))) := by
  simp only [loadedMetrics, answer]
  rfl

end ProfileAudit
