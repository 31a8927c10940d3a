import Mathlib.Data.List.Flatten
import Mathlib.Logic.Function.Basic
import ProfileAudit.Proofs.Command.Delivery

/-!
# Operations one after the other

Each operation delivers to the files that the one before it leaves, and all that it writes is of its
own name. So operations that see of the files what they would see alone deliver what they would
deliver alone, side by side in one directory (`separate_of_shelf`). What the operations of a run
come to is what they deliver at certain times (`Outcomes.exists_time`).
-/

namespace ProfileAudit

open FileTree CheckOperation

/-! ## Deliveries one after the other -/

section

variable (dir : String) (made : (o : CheckOperation) → FileTree → Except Failure (Product o.kinds))
  (stamp : CheckOperation → Timestamp)

/-- What an operation delivers to a tree. -/
def delivered (o : CheckOperation) (t : FileTree) : FileTree × Except Failure (List String) :=
  deliver dir (made o t) (stamp o) t

/-- What some operations deliver, each to the tree that the one before it leaves. -/
def deliverAll : List CheckOperation → FileTree → FileTree × List Outcome
  | [], t => (t, [])
  | o :: ops, t => ((deliverAll ops (delivered dir made stamp o t).1).1,
    (o, (delivered dir made stamp o t).2) :: (deliverAll ops (delivered dir made stamp o t).1).2)

/-- What an operation writes to a tree. -/
def written (t : FileTree) (o : CheckOperation) : List (String × String) :=
  reportsOf (made o t) (stamp o)

end

variable {dir : String} {made : (o : CheckOperation) → FileTree → Except Failure (Product o.kinds)}
  {stamp stamp' : CheckOperation → Timestamp} {ops : List CheckOperation} {t : FileTree}

theorem deliverAll_singleton (o : CheckOperation) (t : FileTree) :
    deliverAll dir made stamp [o] t =
      ((delivered dir made stamp o t).1, [(o, (delivered dir made stamp o t).2)]) := rfl

theorem deliverAll_congr (same : ∀ o ∈ ops, stamp o = stamp' o) (t : FileTree) :
    deliverAll dir made stamp ops t = deliverAll dir made stamp' ops t := by
  induction ops generalizing t with
  | nil => rfl
  | cons o ops ih =>
      obtain ⟨first, rest⟩ := List.forall_mem_cons.mp same
      unfold deliverAll delivered
      rw [first, ih rest]

/-- The operations deliver what each of them would have delivered alone: the same is told of it,
what none of them changes stays as it was, and what one of them changes is as that one leaves it. -/
structure Separate (dir : String)
    (made : (o : CheckOperation) → FileTree → Except Failure (Product o.kinds))
    (stamp : CheckOperation → Timestamp) (ops : List CheckOperation) (t : FileTree) : Prop where
  outcomes : (deliverAll dir made stamp ops t).2 =
    ops.map fun o => (o, (delivered dir made stamp o t).2)
  kept : ∀ place, (∀ o ∈ ops, (delivered dir made stamp o t).1.node? place = t.node? place) →
    (deliverAll dir made stamp ops t).1.node? place = t.node? place
  changed : ∀ o ∈ ops, ∀ place, (delivered dir made stamp o t).1.node? place ≠ t.node? place →
    (deliverAll dir made stamp ops t).1.node? place = (delivered dir made stamp o t).1.node? place

theorem separate_nil : Separate dir made stamp [] t := ⟨rfl, fun _ _ => rfl, nofun⟩

/-- An operation alone is not in its own way. -/
theorem separate_singleton (o : CheckOperation) : Separate dir made stamp [o] t where
  outcomes := rfl
  kept place same := same o List.mem_cons_self
  changed o' listed place _ := by
    obtain rfl := List.mem_singleton.mp listed
    rfl

/-! ### On a shelf -/

section

variable (made stamp)

theorem isName_written (t : FileTree) (o : CheckOperation) :
    ∀ report ∈ written made stamp t o, Path.IsName report.1 := by
  intro report listed
  have named := (named_reportsOf (made o t) (stamp o)).subset (List.mem_map_of_mem listed)
  obtain ⟨kind, is, same⟩ := List.mem_map.mp named
  rw [← same]
  exact (isPlain_kinds o kind is).isName _

/-- What an operation delivers to a tree in which others have written before. -/
theorem delivered_after (shelf : Shelf t dir) (writers : List (List (String × String)))
    (o : CheckOperation) (same : made o (shelf.after writers) = made o t) :
    delivered dir made stamp o (shelf.after writers) =
      (shelf.after (writers ++ [written made stamp t o]), (delivered dir made stamp o t).2) := by
  have names := isName_written made stamp t o
  have later := shelf.writeReports_after names writers
  have alone := shelf.writeReports_after names []
  rw [Shelf.after_nil] at alone
  unfold delivered deliver
  rw [same]
  unfold written at later alone
  rw [later, alone]
  rfl

theorem fst_delivered (shelf : Shelf t dir) (o : CheckOperation) :
    (delivered dir made stamp o t).1 = shelf.after [written made stamp t o] := by
  have first := delivered_after made stamp shelf [] o rfl
  rw [Shelf.after_nil] at first
  rw [first]
  rfl

/-- Operations that see no difference write next to each other. -/
theorem deliverAll_after (shelf : Shelf t dir) (done : List CheckOperation)
    (same : ∀ before o, before ++ [o] <+: done ++ ops →
      made o (shelf.after (before.map (written made stamp t))) = made o t) :
    deliverAll dir made stamp ops (shelf.after (done.map (written made stamp t))) =
      (shelf.after ((done ++ ops).map (written made stamp t)),
        ops.map fun o => (o, (delivered dir made stamp o t).2)) := by
  induction ops generalizing done with
  | nil => rw [List.append_nil]; rfl
  | cons o ops ih =>
      have here := delivered_after made stamp shelf (done.map (written made stamp t)) o
        (same done o ⟨ops, List.append_assoc _ [o] _⟩)
      rw [← List.map_singleton, ← List.map_append] at here
      rw [deliverAll, here]
      dsimp only
      rw [ih (done ++ [o]) (by simpa using same)]
      simp

/-- No two reports have one name, whenever the operations write them. -/
theorem nodup_names (stamp : CheckOperation → Timestamp) :
    (all.flatMap fun o => o.kinds.map (·.name (stamp o))).Nodup := by
  have stamped : (all.flatMap fun o => o.kinds.map fun kind => (kind, stamp o)).Pairwise
      fun x y => x.1.Apart y.1 := by
    rw [← List.pairwise_map, List.map_flatMap]
    simpa [Function.comp_def] using pairwise_kinds
  have names := stamped.map (fun x => x.1.name x.2) fun x y apart => apart.name_ne x.2 y.2
  simpa [List.map_flatMap, Function.comp_def, List.Nodup] using names

theorem nodup_written (once : ops.Sublist all) (t : FileTree) :
    ((ops.map (written made stamp t)).flatten.map (·.1)).Nodup := by
  have named : ((ops.map (written made stamp t)).flatten.map (·.1)).Sublist
      (ops.flatMap fun o => o.kinds.map (·.name (stamp o))) := by
    clear once
    induction ops with
    | nil => exact .slnil
    | cons o ops ih =>
        rw [List.map_cons, List.flatten_cons, List.map_append, List.flatMap_cons]
        exact (named_reportsOf (made o t) (stamp o)).append ih
  exact (nodup_names stamp).sublist (named.trans (once.flatMap _))

end

/-- On a shelf operations are separate if they see no difference. -/
theorem separate_of_shelf (shelf : Shelf t dir) (once : ops.Sublist all)
    (same : ∀ before o, before ++ [o] <+: ops →
      made o (shelf.after (before.map (written made stamp t))) = made o t) :
    Separate dir made stamp ops t := by
  have ends := deliverAll_after made stamp shelf [] same
  rw [List.map_nil, Shelf.after_nil, List.nil_append] at ends
  have alone (o : CheckOperation) := fst_delivered made stamp shelf o
  have union := shelf.union (nodup_written made stamp once t)
  refine ⟨?_, fun place unchanged => ?_, fun o listed place changed => ?_⟩
  · rw [ends]
  · rw [ends]
    refine (union place).1 fun reports listed => ?_
    obtain ⟨o, carried, rfl⟩ := List.mem_map.mp listed
    rw [← alone]
    exact unchanged o carried
  · rw [alone] at changed
    rw [ends, alone]
    exact (union place).2 _ (List.mem_map_of_mem listed) changed

/-! ## Operations of a run -/

section

variable {s : Surroundings} {part : CheckOperation → Audit (List String)} {j k : Journal}
  {outcomes : List Outcome}

theorem Outcomes.goes (mute : ∀ o, Mute (part o)) (run : Outcomes s part ops j outcomes k) :
    j.clock.GoesTo k.clock := by
  induction run with
  | done => exact .refl _
  | @next o _ j _ _ _ _ ends _ _ ih =>
      have goes := (mute o).goes s j
      rw [ends] at goes
      exact goes.trans ih

/-- What the operations of a run come to is what they deliver at certain times. -/
theorem Outcomes.exists_time (mute : ∀ o, Mute (part o)) (once : ops.Nodup)
    (delivers : ∀ o ∈ ops, Delivers s (part o) dir (made o))
    (run : Outcomes s part ops j outcomes k) (running : s.context.isOver k.clock = false) :
    ∃ time : CheckOperation → Nat,
      deliverAll dir made (fun o => s.localTime (time o)) ops j.files = (k.files, outcomes) := by
  induction run with
  | done => exact ⟨fun _ => 0, rfl⟩
  | @next o ops j k l r outcomes ends _ rest ih =>
      obtain ⟨fresh, once⟩ := List.nodup_cons.mp once
      obtain ⟨first, delivers⟩ := List.forall_mem_cons.mp delivers
      have goes : (k.telling (o, r)).clock.GoesTo l.clock := rest.goes mute
      have still : s.context.isOver (part o s j).2.clock = false := by
        rw [ends]
        exact RunContext.running_of_goesTo goes running
      obtain ⟨n, clock, calls, own⟩ := first j still
      cases ends.symm.trans own
      obtain ⟨time, later⟩ := ih once delivers running
      have here : s.localTime (Function.update time o n o) = s.localTime n := by
        rw [Function.update_self]
      have elsewhere : ∀ o' ∈ ops,
          s.localTime (Function.update time o n o') = s.localTime (time o') := by
        intro o' listed
        rw [Function.update_of_ne]
        rintro rfl
        exact fresh listed
      refine ⟨Function.update time o n, ?_⟩
      rw [Journal.telling_files] at later
      rw [deliverAll, deliverAll_congr elsewhere, delivered, here, later]

end

end ProfileAudit
