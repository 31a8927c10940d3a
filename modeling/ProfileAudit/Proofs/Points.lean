import Mathlib.Data.List.Chain
import ProfileAudit.Proofs.Cardinality.Ending
import ProfileAudit.Proofs.Run

/-!
# The points of a run

A run goes from one point to the next: it works on its own, waits until it is about to make a
call, begins the call, and waits for it to end; tasks that count go on one step after the other.
`Passes` lists the points of a part of a run. Between two neighbouring points at most one call
begins, and none if the run is cancelled at the first of them (`Journal.Next`). A cancellation is
not taken back, so from the first point at which a run is cancelled no call begins any more
(`Passes.silent`).
-/

namespace ProfileAudit

open Fanout

/-! ## Journals on the way -/

namespace Journal

/-- The tasks that count have come to a state. -/
def counting (j : Journal) (f : Fanout) : Journal := { j with clock := f.clock, calls := f.calls }

/-- Somebody who shares the context of the run has cancelled it. -/
def cancelled (j : Journal) : Journal := { j with clock := j.clock.cancel }

/-- From one point to the next time goes on, and at most one call begins; none does if the run
is cancelled. -/
structure Next (j k : Journal) : Prop where
  goes : j.clock.GoesTo k.clock
  calls : k.calls = j.calls ∨ j.clock.isCancelled = false ∧ ∃ c, k.calls = j.calls ++ [c]

/-- If the run is cancelled at the first point, it still is at the second one, and no call has
begun in between. -/
def Silent (j k : Journal) : Prop :=
  j.clock.isCancelled = true → k.clock.isCancelled = true ∧ k.calls = j.calls

variable {j k l : Journal}

theorem Next.refl (j : Journal) : j.Next j := ⟨.refl _, .inl rfl⟩

theorem Next.silent (next : j.Next k) : j.Silent k := by
  intro cancelled
  refine ⟨next.goes.cancelled cancelled, ?_⟩
  rcases next.calls with same | ⟨running, -⟩
  · exact same
  · cases cancelled.symm.trans running

theorem Silent.trans (first : j.Silent k) (second : k.Silent l) : j.Silent l := by
  intro cancelled
  obtain ⟨still, same⟩ := first cancelled
  obtain ⟨later, same'⟩ := second still
  exact ⟨later, same'.trans same⟩

instance : Trans Silent Silent Silent := ⟨Silent.trans⟩

theorem next_ready (j : Journal) (s : Surroundings) : j.Next (j.ready s) :=
  ⟨j.clock.goesTo_pass _, .inl rfl⟩

theorem next_asking (running : j.clock.isCancelled = false) (c : Call) : j.Next (j.asking c) :=
  ⟨.refl _, .inr ⟨running, c, rfl⟩⟩

theorem next_cancelled (j : Journal) : j.Next j.cancelled := ⟨j.clock.goesTo_cancel, .inl rfl⟩

/-- A step of the tasks begins at most one query, and none if the run is cancelled. -/
theorem next_counting (j : Journal) (b : Backend) (ctx : RunContext) (f : Fanout)
    (s : FanoutStep) : (j.counting f).Next (j.counting (f.step b ctx s)) := by
  have steps := f.step_cases b ctx s
  generalize f.step b ctx s = g at steps
  cases steps with
  | still => exact .refl _
  | clock goes => exact ⟨goes, .inl rfl⟩
  | task at_ turns moved =>
      have goes : f.clock.GoesTo g.clock := moved.clock ▸ .refl _
      refine ⟨goes, ?_⟩
      have calls := moved.calls
      cases turns with
      | ask running => exact .inr ⟨running, _, calls⟩
      | _ => exact .inl (calls.trans (List.append_nil _))

end Journal

open Journal

/-! ## Points -/

/-- A run of a part passes some points, one after the other, on its way from the first journal to
its result and the last journal. The order in which tasks count is left open, and before each
part the run may be cancelled by somebody else. -/
inductive Passes (s : Surroundings) : {α : Type} → Audit α → Journal → List Journal →
    Except Failure α → Journal → Prop
  /-- Work that asks nothing. It takes no time: that is reckoned to the next call. -/
  | work {α : Type} {part : Audit α} {j k : Journal} {r : Except Failure α} :
    part s j = (r, k) → k.clock = j.clock → k.calls = j.calls → Passes s part j [] r k
  /-- A call that does not begin. -/
  | refused {α : Type} {what : String} {c : Call} {reaction : Reaction α} {j : Journal} :
    (j.ready s).clock.isCancelled = true →
    Passes s (Audit.call what c reaction) j [] (.error (.cancelled what)) (j.ready s)
  /-- A call that begins, and the end of the wait for it. -/
  | called {α : Type} {what : String} {c : Call} {reaction : Reaction α} {j : Journal}
    {r : Except Failure α} {clock : Clock} :
    (j.ready s).clock.isCancelled = false →
    s.context.guard what (reaction (j.ready s).moment) (j.ready s).clock = (r, clock) →
    Passes s (Audit.call what c reaction) j [j.ready s, (j.ready s).asking c] r
      { (j.ready s).asking c with clock }
  /-- Tasks that count, in any order. -/
  | counted {b : Backend} {metrics : NameSet} {j : Journal} {trace : List FanoutStep}
    {f : Fanout} : Completes b s.context metrics (j.ready s).clock j.calls trace f →
    Passes s (evaluateCardinality b metrics) j
      ((trace.scanl (step b s.context)
        (start metrics s.context (j.ready s).clock j.calls)).map j.counting)
      (.ok f.records) (j.counting f)
  | andThen {α β : Type} {part : Audit α} {rest : α → Audit β} {j k l : Journal}
    {points points' : List Journal} {a : α} {r : Except Failure β} :
    Passes s part j points (.ok a) k → Passes s (rest a) k points' r l →
    Passes s (part >>= rest) j (points ++ k :: points') r l
  | fails {α β : Type} {part : Audit α} {rest : α → Audit β} {j k : Journal}
    {points : List Journal} {failure : Failure} :
    Passes s part j points (.error failure) k →
    Passes s (part >>= rest) j points (.error failure) k
  | cancel {α : Type} {part : Audit α} {j k : Journal} {points : List Journal}
    {r : Except Failure α} :
    Passes s part j.cancelled points r k → Passes s part j (j.cancelled :: points) r k

theorem isChain_counting (b : Backend) (ctx : RunContext) (j : Journal) {i : Journal}
    (f : Fanout) (before : i.Next (j.counting f)) (trace : List FanoutStep) :
    (i :: ((trace.scanl (step b ctx) f).map j.counting ++
      [j.counting (f.run b ctx trace)])).IsChain Next := by
  induction trace generalizing f i with
  | nil => exact .cons_cons before (.cons_cons (.refl _) (.singleton _))
  | cons s trace ih =>
      rw [List.scanl_cons, List.map_cons, List.cons_append]
      exact .cons_cons before (ih (f.step b ctx s) (j.next_counting b ctx f s))

variable {s : Surroundings} {α β : Type} {part : Audit α} {j k : Journal} {points : List Journal}
  {r : Except Failure α}

/-- **From each point to the next at most one call begins**, and only while the run is not
cancelled. -/
theorem Passes.isChain (passes : Passes s part j points r k) :
    (j :: (points ++ [k])).IsChain Next := by
  induction passes with
  | work _ clock calls => exact .cons_cons ⟨clock ▸ .refl _, .inl calls⟩ (.singleton _)
  | refused => exact .cons_cons (next_ready _ _) (.singleton _)
  | @called _ what c reaction j _ clock running ended =>
      have goes := s.context.goesTo_guard what (reaction (j.ready s).moment) (j.ready s).clock
      rw [ended] at goes
      exact .cons_cons (next_ready _ _) (.cons_cons (next_asking running c)
        (.cons_cons ⟨goes, .inl rfl⟩ (.singleton _)))
  | counted completes =>
      obtain ⟨rfl, -⟩ := completes
      exact isChain_counting _ _ _ _ (next_ready _ s) _
  | @andThen _ _ _ _ j k l points points' _ _ _ _ first second =>
      have joined : (j :: points ++ [k] ++ (points' ++ [l])).IsChain Next :=
        .append_overlap first second (List.cons_ne_nil _ _)
      simpa using joined
  | fails _ ih => exact ih
  | cancel _ ih => exact .cons_cons (next_cancelled _) ih

/-- **From the first point at which a run is cancelled no call begins any more.** -/
theorem Passes.silent (passes : Passes s part j points r k) :
    (j :: (points ++ [k])).Pairwise Silent :=
  (passes.isChain.imp fun _ _ => Next.silent).pairwise

/-! ## Runs pass points -/

/-- Every run of the part passes points. -/
def Traced (s : Surroundings) (part : Audit α) : Prop :=
  ∀ j, ∃ points, Passes s part j points (part s j).1 (part s j).2

namespace Traced

theorem work (clock : ∀ j, (part s j).2.clock = j.clock)
    (calls : ∀ j, (part s j).2.calls = j.calls) : Traced s part :=
  fun j => ⟨[], .work rfl (clock j) (calls j)⟩

theorem pure (a : α) : Traced s (Pure.pure a : Audit α) := work (fun _ => rfl) fun _ => rfl

theorem ofResult (r : Except Failure α) : Traced s (Audit.ofResult r) :=
  work (fun _ => rfl) fun _ => rfl

theorem onFiles (f : FileTree → FileTree × Except Failure α) : Traced s (Audit.onFiles f) :=
  work (fun _ => rfl) fun _ => rfl

/-- Files are only read. -/
theorem reading (f : FileTree → Except Failure α) :
    Traced s (.ofStep fun _ j => (f j.files, j)) := work (fun _ => rfl) fun _ => rfl

theorem localTime : Traced s Audit.localTime := work (fun _ => rfl) fun _ => rfl

theorem bind {rest : α → Audit β} (first : Traced s part) (second : ∀ a, Traced s (rest a)) :
    Traced s (part >>= rest) := by
  intro j
  obtain ⟨points, passes⟩ := first j
  rw [Audit.bind_apply]
  generalize part s j = ending at passes ⊢
  rcases ending with ⟨failure | a, k⟩
  · exact ⟨points, .fails passes⟩
  · obtain ⟨points', passes'⟩ := second a k
    exact ⟨_, .andThen passes passes'⟩

theorem call (what : String) (c : Call) (reaction : Reaction α) :
    Traced s (Audit.call what c reaction) := by
  intro j
  cases cancelled : (j.ready s).clock.isCancelled with
  | true =>
      refine ⟨[], ?_⟩
      rw [Audit.call_of_cancelled cancelled]
      exact .refused cancelled
  | false =>
      refine ⟨[j.ready s, (j.ready s).asking c], ?_⟩
      rw [Audit.call_of_running cancelled]
      exact .called cancelled rfl

/-- The program's own order of the tasks is one of those that are left open. -/
theorem count (bounded : s.context.concurrency ≠ some 0) (b : Backend) (metrics : NameSet) :
    Traced s (evaluateCardinality b metrics) := by
  intro j
  cases permitted : s.context.canPermit with
  | true =>
      obtain ⟨trace, f, completes, result⟩ := evaluateCardinality_eq b metrics s j bounded permitted
      rw [result]
      exact ⟨_, .counted completes⟩
  | false =>
      -- no task begins, so the run is still where it was
      refine ⟨[], .work rfl ?_ ?_⟩ <;> rw [evaluateCardinality_of_excess b metrics permitted]

end Traced

/-! ## Mute parts -/

/-- Parts that are composed of calls, of counting and of work on files: they print nothing and do
not end the process. -/
inductive Mute : {α : Type} → Audit α → Prop
  | pure {α : Type} (a : α) : Mute (Pure.pure a : Audit α)
  | ofResult {α : Type} (r : Except Failure α) : Mute (Audit.ofResult r)
  | onFiles {α : Type} (f : FileTree → FileTree × Except Failure α) : Mute (Audit.onFiles f)
  /-- Files are only read. -/
  | reading {α : Type} (f : FileTree → Except Failure α) :
    Mute (Audit.ofStep fun _ j => (f j.files, j))
  | localTime : Mute Audit.localTime
  | call {α : Type} (what : String) (c : Call) (reaction : Reaction α) :
    Mute (Audit.call what c reaction)
  | count (b : Backend) (metrics : NameSet) : Mute (evaluateCardinality b metrics)
  | bind {α β : Type} {part : Audit α} {rest : α → Audit β} :
    Mute part → (∀ a, Mute (rest a)) → Mute (part >>= rest)

namespace Mute

theorem map {f : α → β} (mute : Mute part) : Mute (f <$> part) := by
  rw [← bind_pure_comp]
  exact mute.bind fun a => pure (f a)

/-- Every run of a mute part passes points. -/
theorem traced (bounded : s.context.concurrency ≠ some 0) (mute : Mute part) : Traced s part := by
  induction mute with
  | pure a => exact .pure a
  | ofResult r => exact .ofResult r
  | onFiles f => exact .onFiles f
  | reading f => exact .reading f
  | localTime => exact .localTime
  | call what c reaction => exact .call what c reaction
  | count b metrics => exact .count bounded b metrics
  | bind _ _ first second => exact first.bind second

/-- Counting takes time and makes calls, and touches nothing else. -/
theorem exists_count (b : Backend) (metrics : NameSet) (s : Surroundings) (j : Journal) :
    ∃ r clock calls, evaluateCardinality b metrics s j = (r, { j with clock, calls }) ∧
      j.clock.GoesTo clock := by
  cases permitted : s.context.canPermit with
  | true =>
      let first := start metrics s.context (j.clock.pass (s.lag j.moment)) j.calls
      obtain ⟨trace, settled⟩ := exists_settle_eq_run b s.context
        (stages * metrics.toList.length) first
      have goes : first.clock.GoesTo (first.run b s.context trace).clock := goesTo_run ..
      rw [← settled] at goes
      rw [evaluateCardinality, Audit.ofStep, if_pos permitted]
      exact ⟨_, _, _, rfl, (j.clock.goesTo_pass (s.lag j.moment)).trans goes⟩
  | false => exact ⟨_, _, _, evaluateCardinality_of_excess b metrics permitted j, .refl _⟩

/-- Time goes on, and a cancellation is not taken back. -/
theorem goes (mute : Mute part) (s : Surroundings) (j : Journal) :
    j.clock.GoesTo (part s j).2.clock := by
  induction mute generalizing j with
  | call what c reaction =>
      have ready : j.clock.GoesTo (j.ready s).clock := j.clock.goesTo_pass _
      exact ready.trans (s.context.goesTo_guard _ _ _)
  | count b metrics =>
      obtain ⟨_, _, _, ends, goes⟩ := exists_count b metrics s j
      rwa [ends]
  | bind _ _ first second =>
      have goes := first j
      rw [Audit.bind_apply]
      split
      · next a k ends =>
          rw [ends] at goes
          exact goes.trans (second a k)
      · next failure k ends =>
          rw [ends] at goes
          exact goes
  | _ => exact .refl _

/-- Nothing is printed, and the process is not ended. -/
theorem keeps (mute : Mute part) (s : Surroundings) (j : Journal) :
    (part s j).2.output = j.output ∧ (part s j).2.errors = j.errors ∧
      (part s j).2.exit = j.exit := by
  induction mute generalizing j with
  | bind _ _ first second =>
      have kept := first j
      rw [Audit.bind_apply]
      split
      · next a k ends =>
          rw [ends] at kept
          obtain ⟨output, errors, exit⟩ := second a k
          exact ⟨output.trans kept.1, errors.trans kept.2.1, exit.trans kept.2.2⟩
      · next failure k ends =>
          rw [ends] at kept
          exact kept
  | count b metrics =>
      obtain ⟨_, _, _, ends, -⟩ := exists_count b metrics s j
      rw [ends]
      exact ⟨rfl, rfl, rfl⟩
  | _ => exact ⟨rfl, rfl, rfl⟩

end Mute

end ProfileAudit
