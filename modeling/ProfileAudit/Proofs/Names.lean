import ProfileAudit.Names

/-!
Names in lists and in sets. A list has no name twice if nothing is lost without the
repetitions. A set is built by inserting names one after the other, so what it holds is what
was inserted.
-/

namespace ProfileAudit

/-! ## Repetitions -/

theorem length_eraseDups_le : ∀ names : List String, names.eraseDups.length ≤ names.length
  | [] => Nat.le_refl 0
  | name :: names => by
      have shorter : (names.filter fun n => !n == name).length ≤ names.length :=
        List.length_filter_le _ _
      have rest := length_eraseDups_le (names.filter fun n => !n == name)
      rw [List.eraseDups_cons, List.length_cons, List.length_cons]
      exact Nat.succ_le_succ (Nat.le_trans rest shorter)
termination_by names => names.length
decreasing_by exact Nat.lt_succ_of_le shorter

/-- Nothing is lost without the repetitions exactly if there are none. -/
theorem length_eraseDups_eq_iff (names : List String) :
    names.eraseDups.length = names.length ↔ names.Nodup := by
  induction names with
  | nil => exact iff_of_true rfl .nil
  | cons name names ih =>
      rw [List.eraseDups_cons, List.length_cons, List.length_cons, Nat.succ_inj, List.nodup_cons]
      constructor
      · intro same
        have kept : (names.filter fun n => !n == name).length = names.length :=
          Nat.le_antisymm (List.length_filter_le _ _) (same ▸ length_eraseDups_le _)
        have others := List.length_filter_eq_length_iff.mp kept
        rw [List.filter_eq_self.mpr others] at same
        refine ⟨fun again => ?_, ih.mp same⟩
        simpa using others name again
      · rintro ⟨fresh, distinct⟩
        have others : ∀ n ∈ names, (!n == name) = true := by
          intro n member
          have other : n ≠ name := fun is => fresh (is ▸ member)
          simpa using other
        rw [List.filter_eq_self.mpr others]
        exact ih.mpr distinct

/-! ## Membership in sets -/

namespace NameSet

instance : Membership String NameSet := ⟨fun s n => n ∈ s.toList⟩

instance (s : NameSet) (n : String) : Decidable (n ∈ s) :=
  inferInstanceAs (Decidable (n ∈ s.toList))

theorem mem_insert {s : NameSet} {n a : String} : a ∈ s.insert n ↔ a = n ∨ a ∈ s :=
  mem_insertInto

theorem mem_foldl_insert {s : NameSet} {ns : List String} {a : String} :
    a ∈ ns.foldl insert s ↔ a ∈ s ∨ a ∈ ns := by
  induction ns generalizing s with
  | nil => simp
  | cons n ns ih =>
      rw [List.foldl_cons, ih, mem_insert, List.mem_cons]
      rw [or_assoc, or_left_comm]

theorem mem_ofList {ns : List String} {a : String} : a ∈ ofList ns ↔ a ∈ ns := by
  rw [ofList, mem_foldl_insert]
  exact or_iff_right List.not_mem_nil

theorem toList_ofList_eq_nil_iff {ns : List String} : (ofList ns).toList = [] ↔ ns = [] := by
  have same (n : String) : n ∈ (ofList ns).toList ↔ n ∈ ns := mem_ofList
  simp only [List.eq_nil_iff_forall_not_mem, same]

theorem mem_union {s t : NameSet} {a : String} : a ∈ s.union t ↔ a ∈ s ∨ a ∈ t :=
  mem_foldl_insert

/-- A set is given by its members: their order is fixed. -/
theorem eq_of_mem_iff {s t : NameSet} (same : ∀ a, a ∈ s ↔ a ∈ t) : s = t := by
  obtain ⟨ns, ordered⟩ := s
  obtain ⟨ms, ordered'⟩ := t
  have perm : ns.Perm ms :=
    (List.perm_ext_iff_of_nodup (ordered.imp Std.ne_of_lt) (ordered'.imp Std.ne_of_lt)).mpr same
  have lists : ns = ms := perm.eq_of_pairwise
    (fun _ _ _ _ less more => absurd (String.lt_trans less more) Std.lt_irrefl) ordered ordered'
  subst lists
  rfl

theorem union_empty (s : NameSet) : s.union empty = s := rfl

theorem empty_union (s : NameSet) : empty.union s = s := by
  refine eq_of_mem_iff fun a => ?_
  rw [mem_union]
  exact or_iff_right List.not_mem_nil

theorem contains_eq_true_iff {s : NameSet} {a : String} : s.contains a = true ↔ a ∈ s :=
  List.contains_iff_mem

end NameSet

end ProfileAudit
