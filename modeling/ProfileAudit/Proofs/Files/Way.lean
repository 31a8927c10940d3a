import ProfileAudit.Proofs.Directory

/-!
# The way to a place

Nothing but directories can be passed, so where components lead is told by the components alone:
they lead there exactly if each place on the way is a directory (`walk_concat_eq_ok_iff`). Making
directories makes those that are missing on the way and touches nothing else
(`furnishesOn_makeDirectories`). From a directory that comes to the end exactly if no file is on the
way (`makeDirectories_eq_none_iff`).
-/

namespace ProfileAudit.FileTree

open ProfileAudit.Path

variable {t u v : FileTree} {place target q : List String} {places : List (List String)}
  {c : String} {cs before : List String} {absolute : Bool}

/-! ## Places -/

/-- Where components lead from a place. -/
def destination (place cs : List String) : List String := cs.foldl below place

/-- The places from one place to where components lead, both included. -/
def trail (place : List String) : List String → List (List String)
  | [] => [place]
  | c :: cs => place :: trail (below place c) cs

theorem trail_concat (place cs : List String) (c : String) :
    trail place (cs ++ [c]) = trail place cs ++ [destination place (cs ++ [c])] := by
  induction cs generalizing place with
  | nil => rfl
  | cons d cs ih => exact congrArg (place :: ·) (ih (below place d))

theorem mem_trail_self (place cs : List String) : place ∈ trail place cs := by
  cases cs with
  | nil => exact List.mem_singleton_self place
  | cons c cs => exact List.mem_cons_self

theorem destination_mem_trail (place cs : List String) :
    destination place cs ∈ trail place cs := by
  induction cs generalizing place with
  | nil => exact List.mem_singleton_self place
  | cons c cs ih => exact List.mem_cons_of_mem place (ih (below place c))

theorem mem_trail_concat_iff : q ∈ trail place (cs ++ [c]) ↔
    q ∈ trail place cs ∨ q = destination place (cs ++ [c]) := by
  rw [trail_concat, List.mem_append, List.mem_singleton]

theorem mem_trail_of_prefix (up : before <+: cs) (passed : q ∈ trail place before) :
    q ∈ trail place cs := by
  obtain ⟨rest, rfl⟩ := up
  induction before generalizing place with
  | nil => exact List.mem_singleton.mp passed ▸ mem_trail_self place rest
  | cons c before ih =>
      rcases List.mem_cons.mp passed with first | later
      · exact first ▸ List.mem_cons_self
      · exact List.mem_cons_of_mem place (ih later)

/-! ## Walking -/

/-- Going on from a place takes a directory there. -/
theorem enter_bind_eq_ok_iff {α : Type} {next : List String → Except IoFault α} {a : α} :
    (t.enter place >>= next) = .ok a ↔ t.node? place = some .directory ∧ next place = .ok a := by
  rw [bind_eq_ok_iff]
  constructor
  · intro goes
    obtain ⟨p, enters, goes⟩ := goes
    obtain ⟨directory, rfl⟩ := enter_eq_ok_iff.mp enters
    exact ⟨directory, goes⟩
  · intro goes
    obtain ⟨directory, goes⟩ := goes
    exact ⟨place, enter_eq_ok_iff.mpr ⟨directory, rfl⟩, goes⟩

/-- Components lead somewhere if all places before the last one are directories. -/
theorem walk_concat_eq_ok_iff : t.walk place (cs ++ [c]) = .ok target ↔
    (∀ q ∈ trail place cs, t.node? q = some .directory) ∧
      destination place (cs ++ [c]) = target := by
  induction cs generalizing place with
  | nil =>
      rw [List.nil_append, walk_cons, enter_bind_eq_ok_iff, trail, List.forall_mem_singleton]
      exact and_congr_right fun _ => ⟨Except.ok.inj, congrArg Except.ok⟩
  | cons d cs ih =>
      rw [List.cons_append, walk_cons, enter_bind_eq_ok_iff, ih, trail, List.forall_mem_cons,
        and_assoc]
      rfl

theorem enter_error_cases {fault : IoFault} (fails : t.enter place = .error fault) :
    fault = .notFound ∨ ∃ contents, t.node? place = some (.file contents) := by
  unfold enter at fails
  split at fails
  · cases fails
    exact .inl rfl
  · next contents file => exact .inr ⟨contents, file⟩
  · cases fails

/-- A walk ends early where nothing is, or at a file. -/
theorem walk_error_cases {fault : IoFault} (fails : t.walk place cs = .error fault) :
    fault = .notFound ∨ ∃ q ∈ trail place cs, ∃ contents, t.node? q = some (.file contents) := by
  induction cs generalizing place with
  | nil => cases fails
  | cons c cs ih =>
      rw [walk_cons, bind_eq_error_iff] at fails
      rcases fails with fails | ⟨p, enters, walks⟩
      · rcases enter_error_cases fails with missing | file
        · exact .inl missing
        · exact .inr ⟨place, List.mem_cons_self, file⟩
      · obtain ⟨-, rfl⟩ := enter_eq_ok_iff.mp enters
        rcases ih walks with missing | ⟨q, passed, file⟩
        · exact .inl missing
        · exact .inr ⟨q, List.mem_cons_of_mem p passed, file⟩

/-! ## Directories that are missing -/

/-- Where components start from. -/
def origin (t : FileTree) (absolute : Bool) : List String := if absolute then [] else t.here

theorem locate_eq (t : FileTree) (absolute : Bool) (cs : List String) :
    t.locate absolute cs = t.walk (t.origin absolute) cs := rfl

/-- A place is as it was, or it is one of these and a directory was made there, where nothing
was. -/
def KeptOrMade (places : List (List String)) (t u : FileTree) (q : List String) : Prop :=
  u.node? q = t.node? q ∨ q ∈ places ∧ t.node? q = none ∧ u.node? q = some .directory

/-- Directories have been made at some of these places, where nothing was, and nothing else has
changed. -/
structure FurnishesOn (places : List (List String)) (t u : FileTree) : Prop where
  here : u.here = t.here
  node : ∀ q, KeptOrMade places t u q

namespace FurnishesOn

theorem refl (places : List (List String)) (t : FileTree) : FurnishesOn places t t :=
  ⟨rfl, fun _ => .inl rfl⟩

theorem furnishes (furnishes : FurnishesOn places t u) : t.Furnishes u := by
  intro q
  rcases furnishes.node q with same | ⟨-, made⟩
  · exact .inl same
  · exact .inr made

theorem mono {others : List (List String)} (furnishes : FurnishesOn places t u)
    (among : ∀ q ∈ places, q ∈ others) : FurnishesOn others t u := by
  refine ⟨furnishes.here, fun q => ?_⟩
  rcases furnishes.node q with same | ⟨on, made⟩
  · exact .inl same
  · exact .inr ⟨among q on, made⟩

theorem trans (first : FurnishesOn places t u) (second : FurnishesOn places u v) :
    FurnishesOn places t v := by
  refine ⟨second.here.trans first.here, fun q => ?_⟩
  rcases second.node q with same | ⟨on, missing, made⟩
  · rcases first.node q with same' | ⟨on, missing, made⟩
    · exact .inl (same.trans same')
    · exact .inr ⟨on, missing, same.trans made⟩
  · rcases first.node q with same | ⟨-, -, made'⟩
    · exact .inr ⟨on, same ▸ missing, made⟩
    · cases missing.symm.trans made'

theorem origin (furnishes : FurnishesOn places t u) (absolute : Bool) :
    u.origin absolute = t.origin absolute := by
  rw [FileTree.origin, furnishes.here]
  rfl

/-- Neither a directory nor a file gives way. -/
theorem node?_of_some (furnishes : FurnishesOn places t u) {node : FileNode}
    (there : t.node? q = some node) : u.node? q = some node := by
  rcases furnishes.node q with same | ⟨-, missing, -⟩
  · exact same.trans there
  · cases missing.symm.trans there

theorem file_iff (furnishes : FurnishesOn places t u) {contents : Contents} :
    u.node? q = some (.file contents) ↔ t.node? q = some (.file contents) :=
  (furnishes.furnishes.sameFiles q contents).symm

end FurnishesOn

/-! ## Making directories -/

/-- Below directories a directory can be made if nothing is there. -/
theorem makeDirectory_concat_eq (directories : ∀ q ∈ trail (t.origin absolute) cs,
    t.node? q = some .directory) : t.makeDirectory absolute (cs ++ [c]) =
      match t.node? (destination (t.origin absolute) (cs ++ [c])) with
      | some _ => .error .alreadyExists
      | none => .ok (t.put (destination (t.origin absolute) (cs ++ [c])) .directory) := by
  have leads : t.locate absolute (cs ++ [c]) =
      .ok (destination (t.origin absolute) (cs ++ [c])) :=
    walk_concat_eq_ok_iff.mpr ⟨directories, rfl⟩
  rw [makeDirectory, leads]
  rfl

/-- A directory is not made because one on the way is missing, because a file is on the way, or
because it is there. -/
theorem makeDirectory_error_cases {fault : IoFault}
    (fails : t.makeDirectory absolute (cs ++ [c]) = .error fault) :
    fault = .notFound ∨
      (∃ q ∈ trail (t.origin absolute) (cs ++ [c]), ∃ contents,
        t.node? q = some (.file contents)) ∨
      t.isDirectory absolute (cs ++ [c]) = true := by
  rcases bind_eq_error_iff.mp fails with fails | ⟨target, leads, taken⟩
  · rcases walk_error_cases fails with missing | file
    · exact .inl missing
    · exact .inr (.inl file)
  · obtain ⟨-, ends⟩ := walk_concat_eq_ok_iff.mp leads
    right
    cases there : t.node? target with
    | none =>
        rw [there] at taken
        cases taken
    | some node =>
        cases node with
        | directory => exact .inr (isDirectory_iff.mpr ⟨target, leads, there⟩)
        | file contents =>
            exact .inl ⟨target, ends ▸ destination_mem_trail _ _, contents, there⟩

theorem furnishesOn_of_makeDirectory (made : t.makeDirectory absolute (cs ++ [c]) = .ok u) :
    FurnishesOn (trail (t.origin absolute) (cs ++ [c])) t u := by
  obtain ⟨target, leads, missing, rfl⟩ := exists_of_makeDirectory made
  obtain ⟨-, ends⟩ := walk_concat_eq_ok_iff.mp leads
  refine ⟨rfl, fun q => ?_⟩
  by_cases same : q = target
  · subst same
    have below : q ≠ [] := by
      rintro rfl
      cases missing
    exact .inr ⟨ends ▸ destination_mem_trail _ _, missing, node?_put_self below⟩
  · exact .inl (node?_put_of_ne same)

theorem furnishesOn_makeDirectories (t : FileTree) (absolute : Bool) (before : List String) :
    FurnishesOn (trail (t.origin absolute) before.reverse) t
      (t.makeDirectories absolute before).1 := by
  refine makeDirectories_induction
    (R := fun s u => s.origin absolute = t.origin absolute →
      FurnishesOn (trail (t.origin absolute) before.reverse) s u)
    (fun s _ => .refl _ s) ?_ before ?_ t rfl
  · intro s u v first second begins
    exact (first begins).trans (second (((first begins).origin absolute).trans begins))
  · intro s u front c up made begins
    have furnishes := furnishesOn_of_makeDirectory made
    rw [begins] at furnishes
    exact furnishes.mono fun q passed => mem_trail_of_prefix up passed

/-- Who has made a directory finds it, and every one on the way. -/
theorem directory_of_makeDirectories (made : t.makeDirectories absolute before = (u, none))
    (start : t.node? (t.origin absolute) = some .directory) :
    ∀ q ∈ trail (t.origin absolute) before.reverse, u.node? q = some .directory := by
  cases before with
  | nil =>
      cases made
      exact List.forall_mem_singleton.mpr start
  | cons c before =>
      have furnishes := t.furnishesOn_makeDirectories absolute (c :: before)
      rw [made] at furnishes
      obtain ⟨target, leads, directory⟩ := isDirectory_iff.mp (isDirectory_makeDirectories made)
      rw [List.reverse_cons, locate_eq, furnishes.origin, walk_concat_eq_ok_iff] at leads
      obtain ⟨directories, ends⟩ := leads
      intro q passed
      rw [List.reverse_cons, mem_trail_concat_iff] at passed
      rcases passed with before | last
      · exact directories q before
      · rw [last, ends]
        exact directory

/-- Below directories a directory is made or there, unless a file is. -/
theorem isDirectory_of_blocked {fault : IoFault}
    (directories : ∀ q ∈ trail (t.origin absolute) cs, t.node? q = some .directory)
    (clear : ∀ contents,
      t.node? (destination (t.origin absolute) (cs ++ [c])) ≠ some (.file contents))
    (fails : t.makeDirectory absolute (cs ++ [c]) = .error fault) :
    t.isDirectory absolute (cs ++ [c]) = true := by
  rw [makeDirectory_concat_eq directories] at fails
  cases there : t.node? (destination (t.origin absolute) (cs ++ [c])) with
  | none =>
      rw [there] at fails
      cases fails
  | some node =>
      cases node with
      | file contents => exact absurd there (clear contents)
      | directory =>
          exact isDirectory_iff.mpr ⟨_, walk_concat_eq_ok_iff.mpr ⟨directories, rfl⟩, there⟩

theorem makeDirectories_of_clear (start : t.node? (t.origin absolute) = some .directory)
    (clear : ∀ q ∈ trail (t.origin absolute) before.reverse,
      ∀ contents, t.node? q ≠ some (.file contents)) :
    (t.makeDirectories absolute before).2 = none := by
  induction before with
  | nil => rfl
  | cons c before ih =>
      rw [List.reverse_cons] at clear
      have above := ih fun q passed => clear q (mem_trail_concat_iff.mpr (.inl passed))
      have furnishes := t.furnishesOn_makeDirectories absolute before
      have directories := directory_of_makeDirectories (Prod.ext rfl above) start
      unfold makeDirectories
      rw [List.reverse_cons]
      dsimp only
      generalize t.makeDirectories absolute before = made at above furnishes directories
      obtain ⟨u, failed⟩ := made
      subst above
      split
      · rfl
      · -- those before are there now, so only the last one can be in the way
        rw [← furnishes.origin] at directories clear
        dsimp only
        split
        · rfl
        · next fault fails =>
            have clear_end := fun contents file => clear _ (destination_mem_trail _ _) contents
              (furnishes.file_iff.mp file)
            rw [if_pos (isDirectory_of_blocked directories clear_end fails)]
      · next fault other fails =>
          rcases makeDirectory_error_cases fails with missing | ⟨q, passed, contents, file⟩ | there
          · exact absurd missing other
          · exact absurd file (clear q passed contents)
          · rw [if_pos there]

/-- From a directory directories can be made exactly if there is no file on the way. -/
theorem makeDirectories_eq_none_iff (start : t.node? (t.origin absolute) = some .directory) :
    (t.makeDirectories absolute before).2 = none ↔
      ∀ q ∈ trail (t.origin absolute) before.reverse,
        ∀ contents, t.node? q ≠ some (.file contents) := by
  refine ⟨fun made q passed contents file => ?_, makeDirectories_of_clear start⟩
  have directory := directory_of_makeDirectories (u := (t.makeDirectories absolute before).1)
    (Prod.ext rfl made) start q passed
  have kept := (t.furnishesOn_makeDirectories absolute before).node?_of_some file
  cases directory.symm.trans kept

/-- Where there is no directory to start from none is made. -/
theorem makeDirectories_of_lost (lost : t.node? (t.origin absolute) ≠ some .directory)
    (before : List String) : (t.makeDirectories absolute before).1 = t := by
  refine makeDirectories_induction (R := fun s u => s = t → u = t) (fun _ same => same)
    (fun first second same => second (first same)) before ?_ t rfl
  intro s u front c _ made same
  subst same
  obtain ⟨target, leads, -⟩ := exists_of_makeDirectory made
  exact absurd ((walk_concat_eq_ok_iff.mp leads).1 _ (mem_trail_self _ front)) lost

end ProfileAudit.FileTree
