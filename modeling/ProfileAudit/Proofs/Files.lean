import ProfileAudit.Files
import ProfileAudit.Proofs.Result

/-!
# What writing leaves

A file that was written holds what was written to it: the directories on the way to it are not
the place that it is put at, so the same path leads there afterwards (`read_of_write`). Making
directories touches no file, since each is made where nothing is. So an artifact that can be
written is there, and one that cannot leaves all files as they are (`settled_writeArtifact`).
-/

namespace ProfileAudit.FileTree

variable {t u v : FileTree} {place target : List String} {node : FileNode} {path text : String}

/-! ## Places -/

theorem lookup_filter_ne {nodes : List (List String × FileNode)} (apart : place ≠ target) :
    (nodes.filter (·.1 != target)).lookup place = nodes.lookup place := by
  induction nodes with
  | nil => rfl
  | cons entry nodes ih =>
      obtain ⟨p, n⟩ := entry
      by_cases same : p = target
      · have passed : (place == p) = false := beq_false_of_ne (same ▸ apart)
        simp [List.lookup_cons, same ▸ passed, same, ih]
      · simp [List.lookup_cons, same, ih]

theorem node?_put_of_ne (apart : place ≠ target) :
    (t.put target node).node? place = t.node? place := by
  have passed : (place == target) = false := beq_false_of_ne apart
  simp [node?, put, List.lookup_cons, passed, lookup_filter_ne apart]

theorem node?_put_self (below : target ≠ []) : (t.put target node).node? target = some node := by
  simp [node?, put, below]

theorem ne_nil_of_node? (other : t.node? place ≠ some .directory) : place ≠ [] := by
  rintro rfl
  exact other rfl

/-- A way that passes only directories does not see what is put in place of something else. -/
theorem walk_put {cs : List String} (walks : t.walk place cs = .ok target)
    (other : t.node? target ≠ some .directory) :
    (t.put target node).walk place cs = .ok target := by
  induction cs generalizing place with
  | nil => exact walks
  | cons c cs ih =>
      unfold walk at walks
      split at walks
      · cases walks
      · cases walks
      · next directory =>
          have apart : place ≠ target := fun same => other (same ▸ directory)
          unfold walk
          rw [node?_put_of_ne apart, directory]
          exact ih walks

/-! ## Reading what was written -/

theorem exists_of_write (written : t.write path text = .ok u) :
    path.isEmpty = false ∧ Path.endsInDirectory path = false ∧
      ∃ place, t.locate (Path.isAbsolute path) (Path.components path) = .ok place ∧
        t.node? place ≠ some .directory ∧ u = t.put place (.file (.text text)) := by
  unfold write at written
  cases named : path.isEmpty with
  | true =>
      rw [named] at written
      cases written
  | false =>
      simp only [named, Bool.false_eq_true, if_false, bind_eq_ok_iff] at written
      obtain ⟨place, located, written⟩ := written
      split at written
      · cases written
      · next file =>
          refine ⟨rfl, Bool.not_eq_true _ ▸ file, place, located, ?_⟩
          split at written
          · cases written
          · next other =>
              cases written
              exact ⟨other, rfl⟩

/-- A file holds what was written to it. -/
theorem read_of_write (written : t.write path text = .ok u) : u.read path = .ok text := by
  obtain ⟨named, file, place, located, other, rfl⟩ := exists_of_write written
  have still : (t.put place (.file (.text text))).locate (Path.isAbsolute path)
      (Path.components path) = .ok place := walk_put located other
  have found : (t.put place (.file (.text text))).find path = .ok (.file (.text text)) := by
    simp only [find, named, Bool.false_eq_true, if_false, still]
    refine bind_eq_ok_iff.mpr ⟨place, rfl, ?_⟩
    rw [node?_put_self (ne_nil_of_node? other)]
  simp only [read, found, file]
  rfl

/-! ## Files that stay -/

/-- Both trees have the same files, be their directories what they may. -/
def SameFiles (t u : FileTree) : Prop :=
  ∀ place contents, t.node? place = some (.file contents) ↔ u.node? place = some (.file contents)

theorem SameFiles.refl (t : FileTree) : t.SameFiles t := fun _ _ => Iff.rfl

/-- Directories have been made where nothing was, and nothing else has changed. -/
def Furnishes (t u : FileTree) : Prop :=
  ∀ place, u.node? place = t.node? place ∨
    t.node? place = none ∧ u.node? place = some .directory

theorem Furnishes.refl (t : FileTree) : t.Furnishes t := fun _ => .inl rfl

theorem Furnishes.trans (first : t.Furnishes u) (second : u.Furnishes v) : t.Furnishes v := by
  intro place
  rcases first place with same | ⟨missing, made⟩
  · rw [← same]
    exact second place
  · rcases second place with same | ⟨missing', -⟩
    · exact .inr ⟨missing, same.trans made⟩
    · cases made.symm.trans missing'

theorem Furnishes.sameFiles (furnishes : t.Furnishes u) : t.SameFiles u := by
  intro place contents
  rcases furnishes place with same | ⟨missing, made⟩
  · rw [same]
  · rw [missing, made]
    exact iff_of_false nofun nofun

theorem exists_of_makeDirectory {absolute : Bool} {components : List String}
    (made : t.makeDirectory absolute components = .ok u) :
    ∃ target, t.locate absolute components = .ok target ∧ t.node? target = none ∧
      u = t.put target .directory := by
  obtain ⟨target, leads, made⟩ := bind_eq_ok_iff.mp made
  split at made
  · cases made
  · next missing =>
      cases made
      exact ⟨target, leads, missing, rfl⟩

theorem furnishes_of_makeDirectory {absolute : Bool} {components : List String}
    (made : t.makeDirectory absolute components = .ok u) : t.Furnishes u := by
  obtain ⟨target, -, missing, rfl⟩ := exists_of_makeDirectory made
  intro place
  by_cases same : place = target
  · subst same
    have below : place ≠ [] := by
      rintro rfl
      cases missing
    exact .inr ⟨missing, node?_put_self below⟩
  · exact .inl (node?_put_of_ne same)

/-- Making directories is making one after the other, each with the components up to some place. -/
theorem makeDirectories_induction {R : FileTree → FileTree → Prop} {absolute : Bool}
    (refl : ∀ t, R t t) (trans : ∀ {t u v}, R t u → R u v → R t v) (before : List String)
    (step : ∀ {t u} front c, front ++ [c] <+: before.reverse →
      t.makeDirectory absolute (front ++ [c]) = .ok u → R t u) (t : FileTree) :
    R t (t.makeDirectories absolute before).1 := by
  induction before with
  | nil => exact refl t
  | cons c before ih =>
      have whole : before.reverse ++ [c] <+: (c :: before).reverse :=
        ⟨[], by rw [List.reverse_cons, List.append_nil]⟩
      have above := ih fun front d up => step front d
        (up.trans ((List.prefix_append before.reverse [c]).trans whole))
      unfold makeDirectories
      rw [List.reverse_cons]
      dsimp only
      generalize t.makeDirectories absolute before = made at above
      split
      · next ok => exact step before.reverse c whole ok
      · split
        · exact above
        · split
          · next ok => exact trans above (step before.reverse c whole ok)
          · split <;> exact above
      · split <;> exact refl t

theorem furnishes_makeDirectories (t : FileTree) (absolute : Bool) (before : List String) :
    t.Furnishes (t.makeDirectories absolute before).1 :=
  makeDirectories_induction .refl .trans before
    (fun _ _ _ made => furnishes_of_makeDirectory made) t

theorem furnishes_makeAll (t : FileTree) (dir : String) : t.Furnishes (t.makeAll dir).1 :=
  furnishes_makeDirectories t _ _

theorem sameFiles_makeAll (t : FileTree) (dir : String) : t.SameFiles (t.makeAll dir).1 :=
  (t.furnishes_makeAll dir).sameFiles

/-! ## Artifacts -/

/-- Both trees have the same files elsewhere than at some place. -/
def SameFilesBut (place : List String) (t u : FileTree) : Prop :=
  ∀ other, other ≠ place →
    ∀ contents, t.node? other = some (.file contents) ↔ u.node? other = some (.file contents)

/-- The file that the path leads to holds the text, and no other file has changed. -/
def Wrote (t : FileTree) (path text : String) (u : FileTree) : Prop :=
  u.read path = .ok text ∧ ∃ place,
    u.locate (Path.isAbsolute path) (Path.components path) = .ok place ∧ t.SameFilesBut place u

/-- An artifact is written to a tree with the same files, or the file system refuses and all files
stay as they are. -/
theorem writeArtifact_cases (t : FileTree) (path text : String) :
    ∃ u, t.SameFiles u ∧
      ((∃ v, u.write path text = .ok v ∧ t.writeArtifact path text = (v, .ok ())) ∨
        ∃ fault lines, t.writeArtifact path text = (u, .error ⟨.io fault, lines⟩)) := by
  unfold writeArtifact
  split
  · refine ⟨t, .refl t, ?_⟩
    cases written : t.write path text with
    | ok v => exact .inl ⟨v, rfl, by simp only [written]⟩
    | error fault => exact .inr ⟨fault, _, by simp only [written]; rfl⟩
  · refine ⟨t, .refl t, ?_⟩
    cases written : t.write path text with
    | ok v => exact .inl ⟨v, rfl, by simp only [written]⟩
    | error fault => exact .inr ⟨fault, _, by simp only [written]; rfl⟩
  · next dir _ _ =>
      have same := t.sameFiles_makeAll dir
      generalize t.makeAll dir = made at same ⊢
      obtain ⟨u, _ | fault⟩ := made
      · refine ⟨u, same, ?_⟩
        cases written : u.write path text with
        | ok v => exact .inl ⟨v, rfl, by simp only [written]⟩
        | error fault => exact .inr ⟨fault, _, by simp only [written]; rfl⟩
      · exact ⟨u, same, .inr ⟨fault, _, rfl⟩⟩

/-- What cannot be written is refused by the file system. -/
theorem exists_io_of_writeArtifact {failure : Failure}
    (failed : (t.writeArtifact path text).2 = .error failure) :
    ∃ fault lines, failure = ⟨.io fault, lines⟩ := by
  obtain ⟨u, -, ⟨v, -, ends⟩ | ⟨fault, lines, ends⟩⟩ := t.writeArtifact_cases path text
  · rw [ends] at failed
    cases failed
  · rw [ends] at failed
    exact ⟨fault, lines, (Except.error.inj failed).symm⟩

/-- Writing to a tree with the same files. -/
theorem SameFiles.wrote (same : t.SameFiles u) (written : u.write path text = .ok v) :
    t.Wrote path text v := by
  refine ⟨read_of_write written, ?_⟩
  obtain ⟨-, -, place, located, other, rfl⟩ := exists_of_write written
  refine ⟨place, walk_put located other, fun elsewhere apart contents => ?_⟩
  rw [node?_put_of_ne apart]
  exact same elsewhere contents

/-- What became of an artifact: it is there, or all files are as they were. -/
def Settled (t : FileTree) (path text : String) (w : FileTree × Except Failure Unit) : Prop :=
  (w.2 = .ok () ∧ w.1.read path = .ok text) ∨ ∃ failure, w.2 = .error failure ∧ t.SameFiles w.1

/-- An artifact that can be written is there afterwards; one that cannot leaves all files as they
are. -/
theorem settled_writeArtifact (t : FileTree) (path text : String) :
    t.Settled path text (t.writeArtifact path text) := by
  obtain ⟨u, same, ⟨v, written, ends⟩ | ⟨fault, lines, ends⟩⟩ := t.writeArtifact_cases path text
  · rw [ends]
    exact .inl ⟨rfl, read_of_write written⟩
  · rw [ends]
    exact .inr ⟨_, rfl, same⟩

/-- Writing an artifact changes no other file. -/
theorem wrote_writeArtifact (ok : (t.writeArtifact path text).2 = .ok ()) :
    t.Wrote path text (t.writeArtifact path text).1 := by
  obtain ⟨u, same, ⟨v, written, ends⟩ | ⟨fault, lines, ends⟩⟩ := t.writeArtifact_cases path text
  · rw [ends]
    exact same.wrote written
  · rw [ends] at ok
    cases ok

end ProfileAudit.FileTree
