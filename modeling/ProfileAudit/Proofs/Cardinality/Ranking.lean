import ProfileAudit.Proofs.Cardinality.Ending
import ProfileAudit.Proofs.Names

/-!
# One ranking for all interleavings

As long as a run is not over no task gives up, so every task ends with the count that the
backend's answer to its query stands for. If the answers depend on the queries alone, the
records are then the same for every interleaving, every bound that there are permits for and all
delays (`exists_ranking`): one for each metric, the highest count first and by name among equal
ones. The sort compares counts only; the names are in order because it is stable and the tasks are.
-/

namespace ProfileAudit

open Fanout

/-! ## The order of the records -/

namespace CardinalityRecord

/-- The record comes first: its count is higher, or it is the same and the name is smaller. -/
def Outranks (r s : CardinalityRecord) : Prop :=
  s.count < r.count ∨ r.count = s.count ∧ r.metric < s.metric

/-- The order that the sort goes by. -/
def notBelow (r s : CardinalityRecord) : Bool := decide (s.count ≤ r.count)

theorem notBelow_trans (r s t : CardinalityRecord) (rs : notBelow r s = true)
    (st : notBelow s t = true) : notBelow r t = true :=
  decide_eq_true (Nat.le_trans (of_decide_eq_true st) (of_decide_eq_true rs))

theorem notBelow_total (r s : CardinalityRecord) : (notBelow r s || notBelow s r) = true := by
  simp only [notBelow, Bool.or_eq_true, decide_eq_true_eq]
  omega

theorem pairwise_sorted (rs : List CardinalityRecord) :
    (rs.mergeSort notBelow).Pairwise fun r s => s.count ≤ r.count :=
  (List.pairwise_mergeSort notBelow_trans notBelow_total rs).imp of_decide_eq_true

/-- The sort is stable: records of one count keep their order. -/
theorem filter_sorted (rs : List CardinalityRecord) (count : Nat) :
    (rs.mergeSort notBelow).filter (·.count == count) = rs.filter (·.count == count) := by
  have equal : (rs.filter (·.count == count)).Pairwise fun r s => notBelow r s = true := by
    refine List.pairwise_of_forall_mem_list fun r hr s hs => ?_
    have hr : r.count = count := by simpa using (List.mem_filter.mp hr).2
    have hs : s.count = count := by simpa using (List.mem_filter.mp hs).2
    exact decide_eq_true (by omega)
  have kept := List.sublist_mergeSort notBelow_trans notBelow_total equal List.filter_sublist
  have sub := kept.filter (·.count == count)
  rw [List.filter_filter] at sub
  simp only [Bool.and_self] at sub
  exact (sub.eq_of_length ((List.mergeSort_perm rs notBelow).filter _).length_eq.symm).symm

/-- Records in the order of their names are by name among equal counts when they are sorted. -/
theorem pairwise_outranks {rs : List CardinalityRecord}
    (named : rs.Pairwise fun r s => r.metric < s.metric) :
    (rs.mergeSort notBelow).Pairwise Outranks := by
  refine List.pairwise_iff_forall_sublist.mpr fun {r s} pair => ?_
  have le := List.pairwise_iff_forall_sublist.mp (pairwise_sorted rs) pair
  rcases Nat.lt_or_eq_of_le le with less | same
  · exact .inl less
  · have equal : [r, s].filter (·.count == r.count) = [r, s] := by simp [same]
    have kept := pair.filter (·.count == r.count)
    rw [equal, filter_sorted] at kept
    have before := kept.trans List.filter_sublist
    exact .inr ⟨same.symm, List.pairwise_iff_forall_sublist.mp named before⟩

end CardinalityRecord

open CardinalityRecord

namespace Fanout

variable {b : Backend} {ctx : RunContext} {f : Fanout} {names : List String}

/-- The records of the tasks that have ended with a count, in the order of the tasks. -/
def counted (f : Fanout) : List CardinalityRecord :=
  f.tasks.filterMap fun
    | (metric, .done (some count)) => some ⟨metric, count⟩
    | _ => none

theorem records_eq (f : Fanout) : f.records = f.counted.mergeSort notBelow := rfl

theorem mem_counted {r : CardinalityRecord} :
    r ∈ f.counted ↔ (r.metric, .done (some r.count)) ∈ f.tasks := by
  rw [counted, List.mem_filterMap]
  constructor
  · rintro ⟨⟨metric, stage⟩, task, found⟩
    split at found
    · next same =>
        cases same
        cases found
        exact task
    · cases found
  · exact fun task => ⟨_, task, rfl⟩

theorem mem_records {r : CardinalityRecord} :
    r ∈ f.records ↔ (r.metric, .done (some r.count)) ∈ f.tasks := by
  rw [records_eq, List.mem_mergeSort, mem_counted]

theorem Sound.metric_mem (sound : Sound ctx names f) {r : CardinalityRecord}
    (record : r ∈ f.records) : r.metric ∈ names :=
  sound.names_eq ▸ List.mem_map_of_mem (f := (·.1)) (mem_records.mp record)

/-- The records stand in the order of the tasks' names. -/
theorem pairwise_counted (named : f.names.Pairwise (· < ·)) :
    f.counted.Pairwise fun r s => r.metric < s.metric := by
  have named_of {t : String × CountStage} {r : CardinalityRecord} (found : (match t with
      | (metric, .done (some count)) => some (⟨metric, count⟩ : CardinalityRecord)
      | _ => none) = some r) : r.metric = t.1 := by
    split at found
    · cases found
      rfl
    · cases found
  rw [counted, List.pairwise_filterMap]
  refine (List.pairwise_map.mp named).imp fun less r hr s hs => ?_
  rw [named_of hr, named_of hs]
  exact less

end Fanout

/-! ## What the answers come to -/

/-- The count that an answer stands for. A query that fails counts nothing. -/
def countOf : Except Failure (List Sample) → Nat
  | .ok samples => totalCount samples
  | .error _ => 0

/-- The backend's answers depend on the queries alone; how long they take may depend on all. -/
def Backend.Answers (b : Backend) (answers : String → Except Failure (List Sample)) : Prop :=
  ∀ query time moment delay result,
    b.query query time moment = .after delay result → result = answers query

/-- What a stage has come to is due to the answer. -/
def CountStage.Agrees (answer : Except Failure (List Sample)) : CountStage → Prop
  | asking _ call => ∀ delay result, call = .after delay result → result = answer
  | answered result => result = answer
  | done count => count = some (countOf answer)
  | _ => True

section

variable {b : Backend} {ctx : RunContext} {f : Fanout} {metric : String}
  {stage stage' : CountStage} {answers : String → Except Failure (List Sample)}

/-- While the run is not over no task gives up, and each goes by its answer. -/
theorem Fanout.Turns.agrees (turns : Turns b ctx f metric stage stage')
    (faithful : b.Answers answers) (running : ctx.isOver f.clock = false)
    (agrees : stage.Agrees (answers (countQuery metric))) :
    stage'.Agrees (answers (countQuery metric)) := by
  obtain ⟨uncancelled, early⟩ := RunContext.isOver_eq_false_iff.mp running
  cases turns with
  | enter => trivial
  | leave cancelled => cases cancelled.symm.trans uncancelled
  | skip closed => cases closed.symm.trans running
  | clear => trivial
  | drop cancelled => cases cancelled.symm.trans uncancelled
  | ask => exact fun delay result is => faithful _ _ _ delay result is
  | answer polled =>
      rcases RunContext.poll?_cases polled with ⟨cancelled, -⟩ | ⟨-, ended | ⟨late, -⟩⟩
      · cases cancelled.symm.trans uncancelled
      · obtain ⟨delay, -, is⟩ := ended
        exact agrees delay _ is
      · exact absurd late (Nat.not_le_of_lt early)
  | count =>
      change some _ = some _
      rw [← agrees]
      rfl
  | assume =>
      change some _ = some _
      rw [← agrees]
      rfl
  | giveUp closed => cases closed.symm.trans running

/-- While the run is not over, all that the tasks come to is due to the answers. -/
theorem Fanout.agrees_run (faithful : b.Answers answers) (trace : List FanoutStep)
    (running : ctx.isOver (f.run b ctx trace).clock = false)
    (agrees : ∀ t ∈ f.tasks, t.2.Agrees (answers (countQuery t.1))) :
    ∀ t ∈ (f.run b ctx trace).tasks, t.2.Agrees (answers (countQuery t.1)) := by
  induction trace generalizing f with
  | nil => exact agrees
  | cons s trace ih =>
      have earlier : ctx.isOver f.clock = false :=
        RunContext.running_of_goesTo (goesTo_run b ctx f (s :: trace)) running
      refine ih running ?_
      have steps := f.step_cases b ctx s
      generalize f.step b ctx s = g at steps
      cases steps with
      | still => exact agrees
      | clock => exact agrees
      | task at_ turns moved =>
          intro t task
          rcases moved.mem_tasks task with rfl | old
          · exact turns.agrees faithful earlier (agrees _ (mem_of_stage? at_))
          · exact agrees t old

/-! ## The ranking -/

/-- The metrics with the counts that their answers stand for, the highest count first. -/
def ranking (answers : String → Except Failure (List Sample)) (metrics : NameSet) :
    List CardinalityRecord :=
  (metrics.toList.map fun m => ⟨m, countOf (answers (countQuery m))⟩).mergeSort notBelow

theorem mem_ranking {metrics : NameSet} {r : CardinalityRecord} : r ∈ ranking answers metrics ↔
    r.metric ∈ metrics ∧ r.count = countOf (answers (countQuery r.metric)) := by
  rw [ranking, List.mem_mergeSort, List.mem_map]
  constructor
  · rintro ⟨metric, listed, rfl⟩
    exact ⟨listed, rfl⟩
  · rintro ⟨listed, same⟩
    exact ⟨r.metric, listed, by rw [← same]⟩

theorem pairwise_ranking (metrics : NameSet) : (ranking answers metrics).Pairwise Outranks :=
  pairwise_outranks (List.pairwise_map.mpr metrics.ordered)

/-- **An interleaving that is not over at its end gives the ranking.** -/
theorem records_eq_ranking {metrics : NameSet} {clock : Clock} {calls : List Call}
    {trace : List FanoutStep} (faithful : b.Answers answers)
    (completes : Completes b ctx metrics clock calls trace f)
    (running : ctx.isOver f.clock = false) : f.records = ranking answers metrics := by
  obtain ⟨rfl, ended⟩ := completes
  have sound := (sound_start metrics ctx clock calls).run (b := b) trace
  have agrees := agrees_run faithful trace running (f := start metrics ctx clock calls) (by
    intro t task
    rw [waiting_of_mem_start t task]
    trivial)
  generalize (Fanout.start metrics ctx clock calls).run b ctx trace = f at *
  have counted : f.counted = f.tasks.map fun t => ⟨t.1, countOf (answers (countQuery t.1))⟩ := by
    rw [Fanout.counted, ← List.filterMap_eq_map]
    refine List.filterMap_congr fun t task => ?_
    have agree := agrees t task
    have finished := (List.all_eq_true.mp ended) t task
    obtain ⟨metric, stage⟩ := t
    cases stage with
    | done count =>
        have agree : count = some (countOf (answers (countQuery metric))) := agree
        rw [agree]
        rfl
    | _ => cases finished
  rw [records_eq, counted, ranking, ← sound.names_eq, names, List.map_map]
  rfl

/-- The list has each metric once, with the count that its answer stands for, the highest count
first and by name among equal ones. -/
structure Ranks (metrics : List String) (answers : String → Except Failure (List Sample))
    (ranked : List CardinalityRecord) : Prop where
  once : (ranked.map (·.metric)).Nodup
  mem_iff : ∀ r, r ∈ ranked ↔
    r.metric ∈ metrics ∧ r.count = countOf (answers (countQuery r.metric))
  sorted : ranked.Pairwise Outranks

theorem ranks_ranking (metrics : List String) :
    Ranks metrics answers (ranking answers (.ofList metrics)) where
  once := by
    have perm := (List.mergeSort_perm ((NameSet.ofList metrics).toList.map fun m =>
      (⟨m, countOf (answers (countQuery m))⟩ : CardinalityRecord)) notBelow).map (·.metric)
    refine perm.nodup_iff.mpr ?_
    rw [List.map_map]
    exact (List.map_id _).symm ▸ (NameSet.ofList metrics).ordered.imp Std.ne_of_lt
  mem_iff r := by rw [mem_ranking, NameSet.mem_ofList]
  sorted := pairwise_ranking _

/-- **All interleavings give one ranking**, whatever the bound on the queries at once and
however long they take, as long as the run is not over; and none of them gets stuck. So a run gives
that ranking exactly if its bound is no larger than the number of permits that there can be. -/
theorem exists_ranking (metrics : List String)
    (answers : String → Except Failure (List Sample)) :
    ∃ ranked, Ranks metrics answers ranked ∧
      ∀ (b : Backend) (s : Surroundings), b.Answers answers → s.context.concurrency ≠ some 0 →
        (∀ clock calls trace f, Completes b s.context (.ofList metrics) clock calls trace f →
          s.context.isOver f.clock = false → f.records = ranked) ∧
        (∀ clock calls trace, ∃ more f,
          Completes b s.context (.ofList metrics) clock calls (trace ++ more) f) ∧
        ∀ j : Journal,
          (s.context.isOver (evaluateCardinality b (.ofList metrics) s j).2.clock = false →
            ((evaluateCardinality b (.ofList metrics) s j).1 = .ok ranked ↔
              ∀ n, s.context.concurrency = some n → n ≤ maxPermits)) ∧
          ∀ n, s.context.concurrency = some n → maxPermits < n →
            evaluateCardinality b (.ofList metrics) s j = (.error .panic, j) := by
  refine ⟨ranking answers (.ofList metrics), ranks_ranking metrics,
    fun b s faithful bounded => ⟨?_, ?_, fun j => ?_⟩⟩
  · exact fun clock calls trace f completes running =>
      records_eq_ranking faithful completes running
  · exact fun clock calls trace => exists_completes b _ clock calls trace bounded
  · refine ⟨fun running => ⟨fun counted => ?_, fun permitted => ?_⟩, fun n limit excess => ?_⟩
    · rw [← RunContext.canPermit_iff]
      by_contra excess
      rw [evaluateCardinality_of_excess b _ (Bool.eq_false_iff.mpr excess)] at counted
      cases counted
    · obtain ⟨trace, f, completes, result⟩ := evaluateCardinality_eq b (.ofList metrics) s j bounded
        (RunContext.canPermit_iff.mpr permitted)
      rw [result] at running ⊢
      exact congrArg Except.ok (records_eq_ranking faithful completes running)
    · refine evaluateCardinality_of_excess b _ ?_ j
      exact (RunContext.canPermit_of_limit limit).trans (decide_eq_false (Nat.not_le.mpr excess))

/-- A backend that gives some answers, each after some delay. -/
def Backend.ofAnswers (answers : String → Except Failure (List Sample)) (delay : Moment → Nat) :
    Backend where
  probe _ := .never
  metadata _ _ := .never
  rules _ := .never
  query text _ moment := .after (delay moment) (answers text)

theorem Backend.answers_ofAnswers (delay : Moment → Nat) :
    (Backend.ofAnswers answers delay).Answers answers := by
  rintro query time moment _ _ is
  cases is
  rfl

/-- One query after the other, and both at once with the later one answered first. -/
theorem exists_ranking_in_turn_and_at_once :
    let answers := fun query =>
      if query = countQuery "a" then .ok [⟨[], 3⟩] else .error (.ofText "refused")
    ∃ ranked, Ranks ["b", "a", "b"] answers ranked ∧
      (evaluateCardinality (.ofAnswers answers fun _ => 1) (.ofList ["b", "a", "b"])
        ⟨.start 0 9 1, default, fun _ => 0⟩ {}).1 = .ok ranked ∧
      (evaluateCardinality (.ofAnswers answers fun m => 2 - m.calls.length)
        (.ofList ["b", "a", "b"]) ⟨.start 0 9 0, default, fun _ => 0⟩ {}).1 = .ok ranked := by
  intro answers
  obtain ⟨ranked, ranks, all⟩ := exists_ranking ["b", "a", "b"] answers
  have bounded := RunContext.concurrency_start_ne_zero 0 9
  refine ⟨ranked, ranks, ?_, ?_⟩
  · refine (((all _ _ (Backend.answers_ofAnswers _) (bounded 1)).2.2 _).1 (by decide +kernel)).mpr
      fun n limit => ?_
    cases limit
    decide
  · exact (((all _ _ (Backend.answers_ofAnswers _) (bounded 0)).2.2 _).1 (by decide +kernel)).mpr
      nofun

/-- With one permit more than there can be, one metric is not counted. -/
theorem panics_beyond_permits :
    let answers : String → Except Failure (List Sample) := fun _ => .error (.ofText "refused")
    let b := Backend.ofAnswers answers fun _ => 1
    let s : Surroundings := ⟨.start 0 9 2305843009213693952, default, fun _ => 0⟩
    b.Answers answers ∧ s.context.concurrency = some (maxPermits + 1) ∧
      Ranks ["up"] answers [⟨"up", 0⟩] ∧ s.context.isOver {} = false ∧
      evaluateCardinality b (.ofList ["up"]) s {} = (.error .panic, {}) := by
  intro answers b s
  have limit : s.context.concurrency = some (maxPermits + 1) := by decide +kernel
  refine ⟨Backend.answers_ofAnswers _, limit, ?_, by decide +kernel, ?_⟩
  · have ranked : ranking answers (.ofList ["up"]) = [⟨"up", 0⟩] := by decide +kernel
    exact ranked ▸ ranks_ranking ["up"]
  · refine evaluateCardinality_of_excess b _ ?_ {}
    exact (RunContext.canPermit_of_limit limit).trans (by decide +kernel)

end

end ProfileAudit
