import Mathlib.Data.List.Induction
import Mathlib.Data.List.Pairwise
import Mathlib.Tactic.ByContra
import ProfileAudit.Monitor.Index
import ProfileAudit.Proofs.Pattern.Anchored

/-!
# The index of admission patterns

The index has one entry for a name: the pattern that was declared last under it, without a
group around all of it. What the earlier monitors of the name declare is not in the index,
whatever kind of monitor they are. Taking the group away changes no answer, for the pattern is
asked between its anchors.
-/

namespace ProfileAudit

namespace RegexIndex

theorem mem_insertInto {a r name regex : String} {es : List (String × String)}
    (ordered : (es.map (·.1)).Pairwise (· < ·)) :
    (a, r) ∈ insertInto name regex es ↔ a = name ∧ r = regex ∨ a ≠ name ∧ (a, r) ∈ es := by
  induction es with
  | nil => simp [insertInto]
  | cons e es ih =>
      obtain ⟨n, v⟩ := e
      rw [List.map_cons, List.pairwise_cons] at ordered
      have later : (a, r) ∈ es → n < a := fun member => ordered.1 a (List.mem_map_of_mem member)
      unfold insertInto
      split
      · next before =>
          have apart : (a, r) ∈ (n, v) :: es → a ≠ name := by
            intro member same
            subst same
            rcases List.mem_cons.mp member with same | member
            · cases same
              exact String.lt_irrefl _ before
            · exact String.lt_irrefl _ (String.lt_trans before (later member))
          rw [List.mem_cons, Prod.mk.injEq, and_iff_right_of_imp apart]
      · split
        · next same =>
            subst same
            have apart (member : (a, r) ∈ es) : a ≠ name :=
              Ne.symm (Std.ne_of_lt (later member))
            rw [List.mem_cons, Prod.mk.injEq, List.mem_cons, Prod.mk.injEq]
            constructor
            · intro member
              rcases member with new | old
              · exact .inl new
              · exact .inr ⟨apart old, .inr old⟩
            · intro member
              rcases member with new | ⟨other, same | old⟩
              · exact .inl new
              · exact absurd same.1 other
              · exact .inr old
        · next other =>
            have apart (same : a = n ∧ r = v) : a ≠ name := fun h => other (h.symm.trans same.1)
            rw [List.mem_cons, Prod.mk.injEq, ih ordered.2, List.mem_cons, Prod.mk.injEq,
              and_or_left, and_iff_right_of_imp apart, or_left_comm]

theorem mem_insert {index : RegexIndex} {a r name regex : String} :
    (a, r) ∈ (index.insert name regex).entries ↔
      a = name ∧ r = regex ∨ a ≠ name ∧ (a, r) ∈ index.entries :=
  mem_insertInto index.ordered

/-- A name has one entry. -/
theorem entry_unique {index : RegexIndex} {a r r' : String} (first : (a, r) ∈ index.entries)
    (second : (a, r') ∈ index.entries) : r = r' := by
  obtain ⟨entries, ordered⟩ := index
  rw [List.pairwise_map] at ordered
  have apart : entries.Pairwise fun e e' => e.1 ≠ e'.1 :=
    ordered.imp fun {e e'} (less : e.1 < e'.1) (same : e.1 = e'.1) =>
      String.lt_irrefl e'.1 (same ▸ less)
  have : Std.Symm fun e e' : String × String => e.1 ≠ e'.1 := ⟨fun _ _ h => h.symm⟩
  by_contra differ
  exact apart.forall first second (fun same => differ (Prod.mk.inj same).2) rfl

/-- An index is given by its entries: their order is fixed. -/
theorem eq_of_mem_iff {index index' : RegexIndex}
    (same : ∀ e, e ∈ index.entries ↔ e ∈ index'.entries) : index = index' := by
  obtain ⟨entries, ordered⟩ := index
  obtain ⟨entries', ordered'⟩ := index'
  rw [List.pairwise_map] at ordered ordered'
  have apart {e e' : String × String} (less : e.1 < e'.1) : e ≠ e' := by
    rintro rfl
    exact String.lt_irrefl _ less
  have perm : entries.Perm entries' :=
    (List.perm_ext_iff_of_nodup (ordered.imp apart) (ordered'.imp apart)).mpr same
  obtain rfl := perm.eq_of_pairwise
    (fun _ _ _ _ less more => absurd (String.lt_trans less more) (String.lt_irrefl _))
    ordered ordered'
  rfl

end RegexIndex

theorem flatMap_of_filter {α β : Type} (as : List α) (keep : α → Bool) (f : α → List β) :
    (as.filter keep).flatMap f = as.flatMap fun a => if keep a then f a else [] := by
  induction as with
  | nil => rfl
  | cons a as ih =>
      rw [List.flatMap_cons, ← ih]
      cases kept : keep a with
      | true => rw [List.filter_cons_of_pos kept, List.flatMap_cons, if_pos rfl]
      | false => rw [List.filter_cons_of_neg (Bool.not_eq_true _ ▸ kept), if_neg nofun, List.nil_append]

/-- The patterns that the monitors of a name declare, in their order. -/
def declared (monitors : List Monitor) (name : String) : List String :=
  (monitors.filter (·.name == name)).flatMap (·.keepRegexes)

/-- All patterns that monitors declare, each with the name of its monitor. -/
def declarations (monitors : List Monitor) : List (String × String) :=
  monitors.flatMap fun m => m.keepRegexes.map fun regex => (m.name, regex)

theorem declared_eq (monitors : List Monitor) (name : String) : declared monitors name =
    ((declarations monitors).filter (·.1 == name)).map (·.2) := by
  unfold declared declarations
  induction monitors with
  | nil => rfl
  | cons m monitors ih =>
      rw [List.flatMap_cons, List.filter_append, List.map_append, ← ih]
      by_cases same : m.name = name
      · simp [same, Function.comp_def, List.filter_eq_self.mpr]
      · simp [same, List.filter_map, Function.comp_def]

theorem aggregate_eq (monitors : List Monitor) : aggregate monitors =
    (declarations monitors).foldl (fun index d => index.insert d.1 (stripOuterGroup d.2))
      .empty := by
  unfold aggregate declarations
  rw [List.foldl_flatMap]
  simp only [List.foldl_map]

/-- **The index holds what was declared last under each name**, and nothing else. -/
theorem mem_aggregate_iff {monitors : List Monitor} {name regex : String} :
    (name, regex) ∈ (aggregate monitors).entries ↔
      ∃ last, (declared monitors name).getLast? = some last ∧ regex = stripOuterGroup last := by
  rw [aggregate_eq, declared_eq]
  induction declarations monitors using List.reverseRecOn with
  | nil => simp [RegexIndex.empty]
  | append_singleton ds d ih =>
      obtain ⟨n, latest⟩ := d
      rw [List.foldl_append, List.foldl_cons, List.foldl_nil, RegexIndex.mem_insert, ih,
        List.filter_append, List.map_append]
      by_cases same : n = name
      · subst same
        simp
      · simp [same, Ne.symm same]

/-- Every monitor with a pattern has an entry under its name. -/
theorem exists_last {monitors : List Monitor} {m : Monitor} {regex : String}
    (listed : m ∈ monitors) (declares : regex ∈ m.keepRegexes) :
    ∃ last, (declared monitors m.name).getLast? = some last := by
  have member : regex ∈ declared monitors m.name :=
    List.mem_flatMap.mpr ⟨m, List.mem_filter.mpr ⟨listed, beq_self_eq_true _⟩, declares⟩
  exact ⟨_, List.getLast?_eq_some_getLast (List.ne_nil_of_mem member)⟩

/-! ## The order of the monitors -/

/-- If no two monitors share a name, what is declared under a name is what one monitor declares,
wherever it stands. -/
theorem declared_perm {monitors monitors' : List Monitor} (perm : monitors.Perm monitors')
    (distinct : (monitors.map (·.name)).Nodup) (name : String) :
    declared monitors name = declared monitors' name := by
  have apart {ms : List Monitor} (distinct : (ms.map (·.name)).Nodup) :
      (ms.filter (·.name == name)).Pairwise fun a b => a.name ≠ b.name :=
    (List.pairwise_map.mp distinct).filter _
  have own {ms : List Monitor} {m : Monitor} (member : m ∈ ms.filter (·.name == name)) :
      m.name = name := eq_of_beq (List.mem_filter.mp member).2
  have same : monitors.filter (·.name == name) = monitors'.filter (·.name == name) :=
    (perm.filter _).eq_of_pairwise
      (fun _ _ here there differ _ => absurd ((own here).trans (own there).symm) differ)
      (apart distinct) (apart ((perm.map _).nodup_iff.mp distinct))
  rw [declared, same, declared]

/-- **The order of monitors with different names makes no difference to the index.** -/
theorem aggregate_perm {monitors monitors' : List Monitor} (perm : monitors.Perm monitors')
    (distinct : (monitors.map (·.name)).Nodup) : aggregate monitors = aggregate monitors' := by
  refine RegexIndex.eq_of_mem_iff fun e => ?_
  rw [mem_aggregate_iff, mem_aggregate_iff, declared_perm perm distinct]

/-! ## The group around a pattern -/

theorem eq_of_insideParens? {regex inner : String} (inside : insideParens? regex = some inner) :
    regex = "(" ++ inner ++ ")" := by
  unfold insideParens? at inside
  split at inside
  · next s begins =>
      split at inside
      · next ends =>
          cases inside
          obtain ⟨front, rfl⟩ := List.getLast?_eq_some_iff.mp ends
          apply String.toList_injective
          simp [begins, String.toList_append]
      · cases inside
  · cases inside

open Pattern in
/-- **Between the anchors it makes no difference that the group around a pattern is taken
away**, as long as the pattern with the group does not nest too deep. -/
theorem ofText?_anchored_stripOuterGroup {regex : String} (shallow : Shallow (anchored regex)) :
    ofText? (anchored (stripOuterGroup regex)) = ofText? (anchored regex) := by
  unfold stripOuterGroup
  split
  · next inner inside =>
      split
      · next valid =>
          obtain rfl := eq_of_insideParens? inside
          obtain ⟨pattern, read⟩ := Option.isSome_iff_exists.mp valid
          rw [ofText?_eq] at read
          obtain ⟨p, read, -⟩ := Option.bind_eq_some_iff.mp read
          have group := piece?_anchored_group read
          have bare : Shallow (anchored inner) := by
            intro q between
            rw [between] at group
            have := shallow _ group
            dsimp only at this
            omega
          rw [shallow.ofText?, bare.ofText?, group, Option.map_map]
          rfl
      · rfl
  · rfl

end ProfileAudit
