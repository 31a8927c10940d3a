import ProfileAudit.Pattern.Basic

/-!
# What a pattern spans

`Spans` reads a pattern as a relation between the ends of a stretch, by the structure of the
pattern alone. The search carries lists of positions through the pattern, cuts repetitions
off when they change nothing, and bounds those without a bound by the length of the text;
`mem_ends_iff` says that it finds the relation all the same. The bound is enough because a
round that does not move can be left out, so no chain of rounds needs more of them than the
text has characters.
-/

namespace ProfileAudit

/-! ## Rounds of a relation -/

/-- `n` rounds of a relation lead from one position to another. -/
def Rounds (r : Nat → Nat → Prop) : Nat → Nat → Nat → Prop
  | 0, i, j => i = j
  | n + 1, i, j => ∃ k, r i k ∧ Rounds r n k j

namespace Rounds

variable {r : Nat → Nat → Prop} {i j k m n : Nat}

theorem add_iff : Rounds r (m + n) i j ↔ ∃ k, Rounds r m i k ∧ Rounds r n k j := by
  induction m generalizing i with
  | zero =>
      rw [Nat.zero_add]
      constructor
      · intro h
        exact ⟨i, rfl, h⟩
      · intro h
        rcases h with ⟨k, rfl, h⟩
        exact h
  | succ m ih =>
      rw [Nat.succ_add]
      constructor
      · intro h
        rcases h with ⟨k, step, rest⟩
        obtain ⟨l, first, last⟩ := ih.mp rest
        exact ⟨l, ⟨k, step, first⟩, last⟩
      · intro h
        rcases h with ⟨l, ⟨k, step, first⟩, last⟩
        exact ⟨k, step, ih.mpr ⟨l, first, last⟩⟩

/-- A set that no round leaves keeps what starts in it. -/
theorem mem_of_closed {s : List Nat} (closed : ∀ i ∈ s, ∀ k, r i k → k ∈ s)
    (rounds : Rounds r n i j) (start : i ∈ s) : j ∈ s := by
  induction n generalizing i with
  | zero => exact rounds ▸ start
  | succ n ih =>
      obtain ⟨k, step, rest⟩ := rounds
      exact ih rest (closed i start k step)

/-- Where no round goes backwards, rounds that stand still can be left out. -/
theorem shorten (forward : ∀ i k, r i k → i ≤ k) (rounds : Rounds r n i j) :
    i ≤ j ∧ ∃ m ≤ n, m ≤ j - i ∧ Rounds r m i j := by
  induction n generalizing i with
  | zero =>
      cases rounds
      exact ⟨Nat.le_refl _, 0, Nat.le_refl 0, Nat.zero_le _, rfl⟩
  | succ n ih =>
      obtain ⟨k, step, rest⟩ := rounds
      obtain ⟨kj, m, mn, short, rounds⟩ := ih rest
      have ik := forward i k step
      rcases Nat.eq_or_lt_of_le ik with rfl | moves
      · exact ⟨kj, m, by omega, short, rounds⟩
      · exact ⟨by omega, m + 1, by omega, by omega, k, step, rounds⟩

end Rounds

/-! ## Steps on sets of positions -/

namespace Positions

variable {step : List Nat → List Nat} {r : Nat → Nat → Prop}

/-- A step leads from a set of positions to all that the relation reaches from it. -/
def StepsBy (step : List Nat → List Nat) (r : Nat → Nat → Prop) : Prop :=
  ∀ s k, k ∈ step s ↔ ∃ i ∈ s, r i k

theorem mem_iterate (steps : StepsBy step r) {n : Nat} {s : List Nat} {j : Nat} :
    j ∈ iterate step n s ↔ ∃ i ∈ s, Rounds r n i j := by
  induction n generalizing s with
  | zero => simp [iterate, Rounds]
  | succ n ih =>
      have next : (∃ i ∈ step s, Rounds r n i j) ↔ ∃ i ∈ s, Rounds r (n + 1) i j := by
        constructor
        · intro h
          rcases h with ⟨k, reached, rest⟩
          obtain ⟨i, start, first⟩ := (steps s k).mp reached
          exact ⟨i, start, k, first, rest⟩
        · intro h
          rcases h with ⟨i, start, k, first, rest⟩
          exact ⟨k, (steps s k).mpr ⟨i, start, first⟩, rest⟩
      rw [← next, iterate]
      split
      · next still =>
          -- a set that the step leaves alone is reached by every number of rounds
          have stays : ∀ n : Nat, iterate step n s = s := by
            intro n
            cases n with
            | zero => rfl
            | succ n => rw [iterate, if_pos still]
          rw [still, ← ih, stays]
      · exact ih

theorem mem_reachable (steps : StepsBy step r) {n : Nat} {s : List Nat} {j : Nat} :
    j ∈ reachable step n s ↔ ∃ m ≤ n, ∃ i ∈ s, Rounds r m i j := by
  induction n generalizing s with
  | zero => simp [reachable, Rounds]
  | succ n ih =>
      rw [reachable]
      split
      · next still =>
          have closed : ∀ i ∈ s, ∀ k, r i k → k ∈ s := by
            intro i start k first
            rw [← still, mem_merge]
            exact .inr ((steps s k).mpr ⟨i, start, first⟩)
          constructor
          · intro member
            exact ⟨0, Nat.zero_le _, j, member, rfl⟩
          · intro h
            rcases h with ⟨m, -, i, start, rounds⟩
            exact rounds.mem_of_closed closed start
      · rw [ih]
        constructor
        · intro h
          rcases h with ⟨m, mn, i, member, rounds⟩
          rcases (mem_merge _ _).mp member with start | reached
          · exact ⟨m, by omega, i, start, rounds⟩
          · obtain ⟨k, start, first⟩ := (steps s i).mp reached
            exact ⟨m + 1, by omega, k, start, i, first, rounds⟩
        · intro h
          rcases h with ⟨m, mn, i, start, rounds⟩
          cases m with
          | zero => exact ⟨0, Nat.zero_le _, i, (mem_merge _ _).mpr (.inl start), rounds⟩
          | succ m =>
              obtain ⟨k, first, rest⟩ := rounds
              have reached := (steps s k).mpr ⟨i, start, first⟩
              exact ⟨m, by omega, k, (mem_merge _ _).mpr (.inr reached), rest⟩

end Positions

/-! ## Spans -/

namespace Pattern

/-- The pattern spans the stretch of a text from one position to another. -/
def Spans (text : Array Char) : Pattern → Nat → Nat → Prop
  | nothing, i, j => i = j
  | one set, i, j => j = i + 1 ∧ ∃ c, text[i]? = some c ∧ set.mem c = true
  | look place, i, j => i = j ∧ place.holdsAt text i = true
  | seq p q, i, j => ∃ k, p.Spans text i k ∧ q.Spans text k j
  | either p q, i, j => p.Spans text i j ∨ q.Spans text i j
  | times p least most, i, j =>
    ∃ n, least ≤ n ∧ (∀ m ∈ most, n ≤ max least m) ∧ Rounds (p.Spans text) n i j

/-- The pattern spans the whole of a text. -/
def SpansAll (p : Pattern) (text : String) : Prop :=
  p.Spans text.toList.toArray 0 text.toList.toArray.size

variable {text : Array Char}

/-- A span does not go backwards, and ends inside the text if it moves. -/
theorem Spans.le {p : Pattern} {i j : Nat} (spans : p.Spans text i j) :
    i ≤ j ∧ (i < j → j ≤ text.size) := by
  induction p generalizing i j with
  | nothing =>
      cases spans
      exact ⟨Nat.le_refl _, fun h => absurd h (Nat.lt_irrefl _)⟩
  | one set =>
      obtain ⟨rfl, c, found, -⟩ := spans
      have inside := (Array.getElem?_eq_some_iff.mp found).1
      exact ⟨Nat.le_succ i, fun _ => inside⟩
  | look place =>
      obtain ⟨rfl, -⟩ := spans
      exact ⟨Nat.le_refl _, fun h => absurd h (Nat.lt_irrefl _)⟩
  | seq p q ihp ihq =>
      obtain ⟨k, first, last⟩ := spans
      have := ihp first
      have := ihq last
      omega
  | either p q ihp ihq =>
      rcases spans with left | right
      · exact ihp left
      · exact ihq right
  | times p least most ih =>
      obtain ⟨n, -, -, rounds⟩ := spans
      clear least most
      induction n generalizing i with
      | zero =>
          cases rounds
          exact ⟨Nat.le_refl _, fun h => absurd h (Nat.lt_irrefl _)⟩
      | succ n ihn =>
          obtain ⟨k, step, rest⟩ := rounds
          have := ih step
          have := ihn rest
          omega

/-- A repetition without a bound needs no more rounds than the text has characters. -/
theorem exists_few_rounds {p : Pattern} {n i j : Nat} (rounds : Rounds (p.Spans text) n i j) :
    ∃ m ≤ text.size, Rounds (p.Spans text) m i j := by
  obtain ⟨ij, m, -, short, few⟩ := rounds.shorten fun i k step => (Spans.le step).1
  have whole : (times p n none).Spans text i j := ⟨n, Nat.le_refl n, nofun, rounds⟩
  have := (Spans.le whole).2
  exact ⟨m, by omega, few⟩

theorem mem_ends_one {set : CharSet} {s : List Nat} {j : Nat} :
    j ∈ (one set).ends text s ↔ ∃ i ∈ s, (one set).Spans text i j := by
  rw [ends, List.mem_filterMap]
  constructor
  · intro h
    rcases h with ⟨i, start, found⟩
    split at found
    · next c here =>
        split at found
        · next member =>
            cases found
            exact ⟨i, start, rfl, c, here, member⟩
        · cases found
    · cases found
  · intro h
    rcases h with ⟨i, start, rfl, c, here, member⟩
    refine ⟨i, start, ?_⟩
    simp only [here, member, if_true]

theorem mem_ends_times {p : Pattern} {least : Nat} {most : Option Nat} {s : List Nat} {j : Nat}
    (steps : Positions.StepsBy (p.ends text) (p.Spans text)) :
    j ∈ (times p least most).ends text s ↔ ∃ i ∈ s, (times p least most).Spans text i j := by
  rw [ends, Positions.mem_reachable steps]
  constructor
  · intro h
    rcases h with ⟨m, few, k, begun, more⟩
    obtain ⟨i, start, first⟩ := (Positions.mem_iterate steps).mp begun
    refine ⟨i, start, least + m, by omega, ?_, Rounds.add_iff.mpr ⟨k, first, more⟩⟩
    intro bound hb
    cases hb
    simp only [Option.map_some, Option.getD_some] at few
    omega
  · intro h
    rcases h with ⟨i, start, n, least_le, bounded, rounds⟩
    obtain ⟨m, rfl⟩ := Nat.exists_eq_add_of_le least_le
    obtain ⟨k, first, more⟩ := Rounds.add_iff.mp rounds
    have begun := (Positions.mem_iterate steps).mpr ⟨i, start, first⟩
    cases most with
    | none =>
        obtain ⟨m', few, more⟩ := exists_few_rounds more
        exact ⟨m', Nat.le_succ_of_le few, k, begun, more⟩
    | some bound =>
        have := bounded bound rfl
        refine ⟨m, ?_, k, begun, more⟩
        simp only [Option.map_some, Option.getD_some]
        omega

/-- **The search finds what the pattern spans.** -/
theorem mem_ends_iff {p : Pattern} {s : List Nat} {j : Nat} :
    j ∈ p.ends text s ↔ ∃ i ∈ s, p.Spans text i j := by
  induction p generalizing s j with
  | nothing => simp [ends, Spans]
  | one set => exact mem_ends_one
  | look place =>
      rw [ends, List.mem_filter]
      constructor
      · intro h
        rcases h with ⟨start, holds⟩
        exact ⟨j, start, rfl, holds⟩
      · intro h
        rcases h with ⟨i, start, rfl, holds⟩
        exact ⟨start, holds⟩
  | seq p q ihp ihq =>
      rw [ends, ihq]
      constructor
      · intro h
        rcases h with ⟨k, middle, last⟩
        obtain ⟨i, start, first⟩ := ihp.mp middle
        exact ⟨i, start, k, first, last⟩
      · intro h
        rcases h with ⟨i, start, k, first, last⟩
        exact ⟨k, ihp.mpr ⟨i, start, first⟩, last⟩
  | either p q ihp ihq =>
      rw [ends, Positions.mem_merge, ihp, ihq]
      constructor
      · intro h
        rcases h with ⟨i, start, spans⟩ | ⟨i, start, spans⟩
        · exact ⟨i, start, .inl spans⟩
        · exact ⟨i, start, .inr spans⟩
      · intro h
        rcases h with ⟨i, start, left | right⟩
        · exact .inl ⟨i, start, left⟩
        · exact .inr ⟨i, start, right⟩
  | times p least most ih => exact mem_ends_times fun s k => ih

/-- A pattern is found in a text exactly if it spans some stretch of it. -/
theorem isFoundIn_iff {p : Pattern} {text : String} :
    p.isFoundIn text = true ↔
      ∃ i ≤ text.toList.toArray.size, ∃ j, p.Spans text.toList.toArray i j := by
  have nonempty : p.isFoundIn text = true ↔ ∃ j, j ∈ p.ends text.toList.toArray
      (List.range (text.toList.toArray.size + 1)) := by
    rw [isFoundIn]
    simp [List.eq_nil_iff_forall_not_mem]
  rw [nonempty]
  constructor
  · intro h
    rcases h with ⟨j, member⟩
    obtain ⟨i, start, spans⟩ := mem_ends_iff.mp member
    exact ⟨i, Nat.le_of_lt_succ (List.mem_range.mp start), j, spans⟩
  · intro h
    rcases h with ⟨i, inside, j, spans⟩
    exact ⟨j, mem_ends_iff.mpr ⟨i, List.mem_range.mpr (Nat.lt_succ_of_le inside), spans⟩⟩

end Pattern

end ProfileAudit
