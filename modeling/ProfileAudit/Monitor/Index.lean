import ProfileAudit.Monitor.Basic
import ProfileAudit.Pattern.Reader

/-!
The index of admission patterns: which metrics the monitor of each name lets through.
-/

namespace ProfileAudit

/-- A map from names to patterns, in the order of the names. -/
structure RegexIndex where
  entries : List (String × String)
  ordered : (entries.map (·.1)).Pairwise (· < ·)

namespace RegexIndex

/-- Puts an entry into an ordered list in place of one of the same name. -/
def insertInto (name regex : String) : List (String × String) → List (String × String)
  | [] => [(name, regex)]
  | (n, r) :: rest =>
    if name < n then (name, regex) :: (n, r) :: rest
    else if name = n then (name, regex) :: rest
    else (n, r) :: insertInto name regex rest

theorem mem_keys_insertInto {a name regex : String} {es : List (String × String)} :
    a ∈ (insertInto name regex es).map (·.1) ↔ a = name ∨ a ∈ es.map (·.1) := by
  induction es with
  | nil => simp [insertInto]
  | cons e es ih =>
    obtain ⟨n, r⟩ := e
    simp only [insertInto]
    split
    · simp
    · split
      · next h => subst h; simp
      · simp only [List.map_cons, List.mem_cons, ih]
        constructor
        · rintro (h | h | h) <;> simp [h]
        · rintro (h | h | h) <;> simp [h]

theorem ordered_insertInto {name regex : String} {es : List (String × String)}
    (h : (es.map (·.1)).Pairwise (· < ·)) :
    ((insertInto name regex es).map (·.1)).Pairwise (· < ·) := by
  induction es with
  | nil => simp [insertInto]
  | cons e es ih =>
    obtain ⟨n, r⟩ := e
    rw [List.map_cons, List.pairwise_cons] at h
    simp only [insertInto]
    split
    · next hlt =>
      refine List.pairwise_cons.2 ⟨fun a ha => ?_, List.pairwise_cons.2 h⟩
      rcases List.mem_cons.1 ha with rfl | ha
      · exact hlt
      · exact String.lt_trans hlt (h.1 a ha)
    · split
      · next heq => subst heq; exact List.pairwise_cons.2 h
      · next hge hne =>
        refine List.pairwise_cons.2 ⟨fun a ha => ?_, ih h.2⟩
        rcases mem_keys_insertInto.1 ha with rfl | ha
        · exact Std.lt_of_le_of_ne (Std.not_lt.1 hge) (Ne.symm hne)
        · exact h.1 a ha

def empty : RegexIndex := ⟨[], by simp⟩

instance : Inhabited RegexIndex := ⟨empty⟩

/-- The later pattern of a name takes the place of the earlier one. -/
def insert (index : RegexIndex) (name regex : String) : RegexIndex :=
  ⟨insertInto name regex index.entries, ordered_insertInto index.ordered⟩

end RegexIndex

/-- The text between an opening parenthesis at the start and a closing one at the end. -/
def insideParens? (regex : String) : Option String :=
  match regex.toList with
  | '(' :: s =>
    if s.getLast? = some ')' then some (String.ofList s.dropLast) else none
  | _ => none

/-- A pattern without one group around all of it. The parentheses belong to each other
exactly if what is between them is a pattern. -/
def stripOuterGroup (regex : String) : String :=
  match insideParens? regex with
  | some inner => if Pattern.isValid inner then inner else regex
  | none => regex

/-- The admission patterns of some monitors. Of several patterns of one name the last
one counts. -/
def aggregate (monitors : List Monitor) : RegexIndex :=
  monitors.foldl (fun index m => m.keepRegexes.foldl
    (fun index regex => index.insert m.name (stripOuterGroup regex)) index) .empty

end ProfileAudit
