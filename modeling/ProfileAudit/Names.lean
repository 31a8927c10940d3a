/-!
Sets of names and maps over names, in the order of code points. The order is part of the
type, so two sets with the same members are equal.
-/

namespace ProfileAudit

/-- A set of names in increasing order. -/
structure NameSet where
  toList : List String
  ordered : toList.Pairwise (· < ·)

namespace NameSet

/-- Puts a name into an increasing list. -/
def insertInto (name : String) : List String → List String
  | [] => [name]
  | n :: ns =>
    if name < n then name :: n :: ns
    else if name = n then n :: ns
    else n :: insertInto name ns

theorem mem_insertInto {a name : String} {ns : List String} :
    a ∈ insertInto name ns ↔ a = name ∨ a ∈ ns := by
  induction ns with
  | nil => simp [insertInto]
  | cons n ns ih =>
    simp only [insertInto]
    split
    · simp
    · split
      · next h => subst h; simp
      · simp only [List.mem_cons, ih]
        constructor
        · rintro (h | h | h) <;> simp [h]
        · rintro (h | h | h) <;> simp [h]

theorem ordered_insertInto {name : String} {ns : List String} (h : ns.Pairwise (· < ·)) :
    (insertInto name ns).Pairwise (· < ·) := by
  induction ns with
  | nil => simp [insertInto]
  | cons n ns ih =>
    rw [List.pairwise_cons] at h
    simp only [insertInto]
    split
    · next hlt =>
      refine List.pairwise_cons.2 ⟨fun a ha => ?_, List.pairwise_cons.2 h⟩
      rcases List.mem_cons.1 ha with rfl | ha
      · exact hlt
      · exact String.lt_trans hlt (h.1 a ha)
    · split
      · exact List.pairwise_cons.2 h
      · next hge hne =>
        refine List.pairwise_cons.2 ⟨fun a ha => ?_, ih h.2⟩
        rcases mem_insertInto.1 ha with rfl | ha
        · exact Std.lt_of_le_of_ne (Std.not_lt.1 hge) (Ne.symm hne)
        · exact h.1 a ha

def empty : NameSet := ⟨[], .nil⟩

instance : Inhabited NameSet := ⟨empty⟩

def insert (s : NameSet) (name : String) : NameSet :=
  ⟨insertInto name s.toList, ordered_insertInto s.ordered⟩

def ofList (names : List String) : NameSet := names.foldl insert empty

def union (s t : NameSet) : NameSet := t.toList.foldl insert s

def contains (s : NameSet) (name : String) : Bool := s.toList.contains name

end NameSet

end ProfileAudit
