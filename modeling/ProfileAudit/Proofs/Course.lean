import ProfileAudit.Proofs.Context
import ProfileAudit.Proofs.Run

/-!
# The course of planned calls

Some parts of a run make a number of calls that are known beforehand, one after the other, and do
nothing else. `Course` says how that goes: each call begins after the one before it was answered,
and the first one that fails is the last one. `Follows` says that a part takes such a course
whatever it starts from, and is composed along the parts of the part.
-/

namespace ProfileAudit

variable {α β : Type}

/-! ## Courses -/

/-- A call that is planned, without regard to what it is answered. -/
structure PlannedCall where
  what : String
  call : Call
  reaction : Reaction Unit

/-- The call, without what it is answered. -/
def PlannedCall.of (what : String) (call : Call) (reaction : Reaction α) : PlannedCall :=
  ⟨what, call, fun m => (reaction m).map (·.map fun _ => ())⟩

theorem PlannedCall.reaction_of {what : String} {call : Call} {reaction : Reaction α} {m : Moment}
    {delay : Nat} {a : α} (answer : reaction m = .after delay (.ok a)) :
    (PlannedCall.of what call reaction).reaction m = .after delay (.ok ()) :=
  congrArg (Behaviour.map (·.map fun _ => ())) answer

/-- The planned calls from one journal to another, up to the first one that fails if one does. -/
inductive Course (s : Surroundings) : List PlannedCall → Journal → Option Failure → Journal → Prop
  | done {j : Journal} : Course s [] j none j
  /-- The run was cancelled before the call: it does not begin. -/
  | refused {c : PlannedCall} {plan : List PlannedCall} {j : Journal} :
    (j.ready s).clock.isCancelled = true →
    Course s (c :: plan) j (some (.cancelled c.what)) (j.ready s)
  /-- The call begins, and fails. -/
  | failed {c : PlannedCall} {plan : List PlannedCall} {j : Journal} {failure : Failure}
    {clock : Clock} : (j.ready s).clock.isCancelled = false →
    s.context.guard c.what (c.reaction (j.ready s).moment) (j.ready s).clock =
      (.error failure, clock) →
    Course s (c :: plan) j (some failure) { (j.ready s).asking c.call with clock }
  /-- The call begins and is answered, and the next one is due. -/
  | answered {c : PlannedCall} {plan : List PlannedCall} {j k : Journal} {r : Option Failure}
    {clock : Clock} : (j.ready s).clock.isCancelled = false →
    s.context.guard c.what (c.reaction (j.ready s).moment) (j.ready s).clock = (.ok (), clock) →
    Course s plan { (j.ready s).asking c.call with clock } r k → Course s (c :: plan) j r k

namespace Course

variable {s : Surroundings} {plan plan' : List PlannedCall} {j k l : Journal}
  {r : Option Failure} {failure : Failure}

/-- Files are left alone. -/
theorem files (course : Course s plan j r k) : k.files = j.files := by
  induction course with
  | done => rfl
  | refused => rfl
  | failed => rfl
  | answered _ _ _ ih => exact ih

/-- The calls that begin are the first ones of the plan, and all of it if none fails. -/
theorem calls (course : Course s plan j r k) : ∃ asked, k.calls = j.calls ++ asked ∧
    asked <+: plan.map (·.call) ∧ (r = none → asked = plan.map (·.call)) := by
  induction course with
  | done => exact ⟨[], (List.append_nil _).symm, List.nil_prefix, fun _ => rfl⟩
  | refused => exact ⟨[], (List.append_nil _).symm, List.nil_prefix, nofun⟩
  | @failed c => exact ⟨[c.call], rfl, List.prefix_append [c.call] _, nofun⟩
  | @answered c _ _ _ _ _ _ _ _ ih =>
      obtain ⟨asked, calls, begins, all⟩ := ih
      refine ⟨c.call :: asked, ?_, ?_, fun none => ?_⟩
      · exact calls.trans (List.append_assoc _ [c.call] _)
      · exact List.cons_prefix_cons.mpr ⟨rfl, begins⟩
      · rw [all none, List.map_cons]

/-- What is planned behind a call that fails is left out. -/
theorem append_failed (course : Course s plan j (some failure) k) :
    Course s (plan ++ plan') j (some failure) k := by
  generalize ended : some failure = r at course
  induction course with
  | done => cases ended
  | refused cancelled => exact .refused cancelled
  | failed running fails => exact .failed running fails
  | answered running ok _ ih => exact .answered running ok (ih ended)

theorem append (course : Course s plan j none k) (rest : Course s plan' k r l) :
    Course s (plan ++ plan') j r l := by
  generalize ended : none = r' at course
  induction course with
  | done => exact rest
  | refused => cases ended
  | failed => cases ended
  | answered running ok _ ih => exact .answered running ok (ih rest ended)

/-- If every call is answered sooner or later and the run is not over at the end, no call fails. -/
theorem eq_none (course : Course s plan j r k)
    (answers : ∀ c ∈ plan, ∀ m, ∃ delay, c.reaction m = .after delay (.ok ()))
    (running : s.context.isOver k.clock = false) : r = none := by
  induction course with
  | done => rfl
  | refused cancelled =>
      cases running.symm.trans (RunContext.isOver_iff.mpr (.inl cancelled))
  | @failed c _ j _ _ _ ended =>
      obtain ⟨delay, is⟩ := answers c List.mem_cons_self (j.ready s).moment
      have still : s.context.isOver (s.context.guard c.what (c.reaction (j.ready s).moment)
          (j.ready s).clock).2 = false := by
        rw [ended]
        exact running
      have ends : ∀ delay' own,
          c.reaction (j.ready s).moment = .after delay' own → own = .ok () := by
        intro delay' own ends
        cases is.symm.trans ends
        rfl
      cases (congrArg Prod.fst ended).symm.trans (RunContext.guard_of_running ends still)
  | answered _ _ _ ih =>
      exact ih (fun c planned => answers c (List.mem_cons_of_mem _ planned)) running

end Course

/-! ## Parts that follow a plan -/

/-- From any journal, the part goes through the calls of the plan and does nothing else. It fails
as the first call that fails; if all are answered, its result is of some kind. -/
def Follows (s : Surroundings) (part : Audit α) (plan : List PlannedCall) (good : α → Prop) :
    Prop :=
  ∀ j, (∃ failure k, Course s plan j (some failure) k ∧ part s j = (.error failure, k)) ∨
    ∃ a k, Course s plan j none k ∧ part s j = (.ok a, k) ∧ good a

namespace Follows

variable {s : Surroundings} {part : Audit α} {rest : α → Audit β} {plan plan' : List PlannedCall}
  {good : α → Prop} {fine : β → Prop}

theorem pure {a : α} (ok : good a) : Follows s (Pure.pure a) [] good :=
  fun j => .inr ⟨a, j, .done, rfl, ok⟩

theorem bind (first : Follows s part plan good)
    (second : ∀ a, good a → Follows s (rest a) plan' fine) :
    Follows s (part >>= rest) (plan ++ plan') fine := by
  intro j
  rcases first j with ⟨failure, k, course, ends⟩ | ⟨a, k, course, ends, ok⟩
  · exact .inl ⟨failure, k, course.append_failed, by rw [Audit.bind_apply, ends]⟩
  · have goes : (part >>= rest) s j = rest a s k := by rw [Audit.bind_apply, ends]
    rcases second a ok k with ⟨failure, l, course', ends'⟩ | ⟨b, l, course', ends', ok'⟩
    · exact .inl ⟨failure, l, course.append course', goes.trans ends'⟩
    · exact .inr ⟨b, l, course.append course', goes.trans ends', ok'⟩

/-- Reckoning with the result adds nothing to the plan. -/
theorem bind_pure {f : α → β} (first : Follows s part plan good)
    (ok : ∀ a, good a → fine (f a)) : Follows s (part >>= fun a => Pure.pure (f a)) plan fine := by
  rw [← List.append_nil plan]
  exact first.bind fun a ok' => .pure (ok a ok')

/-- A call is a plan of its own, and what it is answered is what the other side says. -/
theorem call (what : String) (c : Call) (reaction : Reaction α) :
    Follows s (Audit.call what c reaction) [.of what c reaction]
      fun a => ∃ m delay, reaction m = .after delay (.ok a) := by
  intro j
  cases cancelled : (j.ready s).clock.isCancelled with
  | true => exact .inl ⟨_, _, .refused cancelled, Audit.call_of_cancelled cancelled⟩
  | false =>
      rw [Audit.call_of_running cancelled]
      have blind := s.context.guard_map what (reaction (j.ready s).moment) (j.ready s).clock
        fun _ => ()
      cases ended : s.context.guard what (reaction (j.ready s).moment) (j.ready s).clock with
      | mk result clock =>
          rw [ended] at blind
          cases result with
          | error failure => exact .inl ⟨failure, _, .failed cancelled blind, rfl⟩
          | ok a =>
              exact .inr ⟨a, _, .answered cancelled blind .done, rfl, _,
                RunContext.answers_of_guard (congrArg Prod.fst ended)⟩

end Follows

end ProfileAudit
