import ProfileAudit.Proofs.Files
import ProfileAudit.Proofs.Path

/-!
# Reports in one directory

All that a run writes goes into one directory, under names that differ. Once the directory is there
no report is in another one's way: whether it can be written, and what is written, is settled by the
tree from before (`Shelf`). So a number of writers, one after the other, leave what each of them
would have left alone (`Shelf.union`). The directory has to be made for that, or the attempt to make
it may make nothing: else the second attempt starts from another tree than the first one.
-/

namespace ProfileAudit.FileTree

open ProfileAudit.Path

variable {t u v : FileTree} {dir name text : String}

/-! ## Where a report goes -/

/-- A place that is a directory. -/
def enter (t : FileTree) (place : List String) : Except IoFault (List String) :=
  match t.node? place with
  | none => .error .notFound
  | some (.file _) => .error .notADirectory
  | some .directory => .ok place

theorem enter_eq_ok_iff {place place' : List String} :
    t.enter place = .ok place' ↔ t.node? place = some .directory ∧ place' = place := by
  unfold enter
  split
  · next missing => simp [missing]
  · next file => simp [file]
  · next directory => simp [directory, eq_comm]

/-- Where a component leads from a directory. -/
def below (place : List String) (c : String) : List String :=
  if c = ".." then place.dropLast else place ++ [c]

theorem walk_cons (t : FileTree) (place : List String) (c : String) (cs : List String) :
    t.walk place (c :: cs) = t.enter place >>= fun p => t.walk (below p c) cs := by
  rw [walk, enter]
  cases t.node? place with
  | none => rfl
  | some node => cases node <;> rfl

theorem walk_append (t : FileTree) (place cs ds : List String) :
    t.walk place (cs ++ ds) = t.walk place cs >>= fun p => t.walk p ds := by
  induction cs generalizing place with
  | nil => rfl
  | cons c cs ih =>
      rw [List.cons_append, walk_cons, walk_cons, bind_assoc]
      exact congrArg _ (funext fun p => ih _)

/-- The place of the directory that a path leads to. -/
def directory? (t : FileTree) (dir : String) : Except IoFault (List String) :=
  t.locate (isAbsolute dir) (components dir) >>= t.enter

theorem locate_join (is : IsName name) (t : FileTree) (dir : String) :
    t.locate (isAbsolute (join dir name)) (components (join dir name)) =
      t.directory? dir >>= fun place => .ok (place ++ [name]) := by
  rw [is.isAbsolute_join, is.components_join, locate, walk_append, directory?, locate, bind_assoc]
  refine congrArg _ (funext fun place => ?_)
  rw [walk_cons]
  refine congrArg _ (funext fun place => ?_)
  rw [below, if_neg is.not_above]
  rfl

/-- Puts a file where it can be: not in place of a directory. -/
def putFile (t : FileTree) (place : List String) (text : String) : Except IoFault FileTree :=
  match t.node? place with
  | some .directory => .error .isADirectory
  | _ => .ok (t.put place (.file (.text text)))

theorem putFile_of_directory {place : List String} (taken : t.node? place = some .directory) :
    t.putFile place text = .error .isADirectory := by
  rw [putFile, taken]

theorem putFile_of_ne {place : List String} (other : t.node? place ≠ some .directory) :
    t.putFile place text = .ok (t.put place (.file (.text text))) := by
  unfold putFile
  split
  · next taken => exact absurd taken other
  · rfl

theorem write_join (is : IsName name) (t : FileTree) (dir text : String) :
    t.write (join dir name) text =
      t.directory? dir >>= fun place => t.putFile (place ++ [name]) text := by
  have named : (join dir name).isEmpty = false := by
    simpa using is.join_ne_empty dir
  rw [write, named, locate_join is, is.not_endsInDirectory_join]
  cases t.directory? dir <;> rfl

/-- Why a directory for a report cannot be made. -/
def creationFailure (dir name : String) (fault : IoFault) : Failure :=
  ⟨.io fault, [s!"creating report directory '{(parent? (join dir name)).getD dir}'"]⟩

def writingFailure (dir name : String) (fault : IoFault) : Failure :=
  ⟨.io fault, [s!"writing '{join dir name}'"]⟩

/-- A report is written where its directory is, once that is there. -/
theorem writeArtifact_join (is : IsName name) (t : FileTree) (dir text : String) :
    t.writeArtifact (join dir name) text =
      match t.makeAll dir with
      | (u, none) =>
        match u.write (join dir name) text with
        | .ok v => (v, .ok ())
        | .error fault => (u, .error (writingFailure dir name fault))
      | (u, some fault) => (u, .error (creationFailure dir name fault)) := by
  obtain ⟨above, parent, none, components, absolute⟩ := is.parent?_join dir
  have same : t.makeAll above = t.makeAll dir := by
    rw [makeAll, makeAll, components, absolute]
  rw [writeArtifact]
  unfold creationFailure
  rw [parent]
  split
  · next absent => cases absent
  · next empty =>
      cases none (Option.some.inj empty)
      rfl
  · next some =>
      cases some
      rw [same]
      rcases t.makeAll dir with ⟨u, _ | fault⟩ <;> rfl

/-! ## Directories that are there -/

/-- Both trees have the same directories, be their files what they may. -/
structure SameDirectories (t u : FileTree) : Prop where
  here : u.here = t.here
  node : ∀ place, u.node? place = some .directory ↔ t.node? place = some .directory

theorem SameDirectories.refl (t : FileTree) : t.SameDirectories t := ⟨rfl, fun _ => Iff.rfl⟩

theorem SameDirectories.trans (first : t.SameDirectories u) (second : u.SameDirectories v) :
    t.SameDirectories v :=
  ⟨second.here.trans first.here, fun place => (second.node place).trans (first.node place)⟩

theorem sameDirectories_put {place : List String} (other : t.node? place ≠ some .directory)
    (contents : Contents) : t.SameDirectories (t.put place (.file contents)) := by
  refine ⟨rfl, fun spot => ?_⟩
  by_cases same : spot = place
  · subst same
    rw [node?_put_self (ne_nil_of_node? other)]
    exact iff_of_false nofun other
  · rw [node?_put_of_ne same]

namespace SameDirectories

/-- A way that can be gone passes directories only, so it can be gone in both trees. -/
theorem walk (same : t.SameDirectories u) {place target cs : List String}
    (walks : t.walk place cs = .ok target) : u.walk place cs = .ok target := by
  induction cs generalizing place with
  | nil => exact walks
  | cons c cs ih =>
      rw [walk_cons, bind_eq_ok_iff] at walks ⊢
      obtain ⟨p, enters, walks⟩ := walks
      obtain ⟨directory, rfl⟩ := enter_eq_ok_iff.mp enters
      exact ⟨p, enter_eq_ok_iff.mpr ⟨(same.node p).mpr directory, rfl⟩, ih walks⟩

theorem locate (same : t.SameDirectories u) {absolute : Bool} {target cs : List String}
    (leads : t.locate absolute cs = .ok target) : u.locate absolute cs = .ok target := by
  rw [FileTree.locate, same.here]
  exact same.walk leads

theorem directory? (same : t.SameDirectories u) {place : List String}
    (leads : t.directory? dir = .ok place) : u.directory? dir = .ok place := by
  rw [FileTree.directory?, bind_eq_ok_iff] at leads ⊢
  obtain ⟨p, located, enters⟩ := leads
  obtain ⟨directory, rfl⟩ := enter_eq_ok_iff.mp enters
  exact ⟨_, same.locate located, enter_eq_ok_iff.mpr ⟨(same.node _).mpr directory, rfl⟩⟩

end SameDirectories

theorem isDirectory_iff {absolute : Bool} {cs : List String} : t.isDirectory absolute cs = true ↔
    ∃ place, t.locate absolute cs = .ok place ∧ t.node? place = some .directory := by
  unfold isDirectory
  split
  · next place located => simp [located]
  · next fault located => simp [located]

theorem SameDirectories.isDirectory (same : t.SameDirectories u) {absolute : Bool}
    {cs : List String} (there : t.isDirectory absolute cs = true) :
    u.isDirectory absolute cs = true := by
  obtain ⟨place, located, directory⟩ := isDirectory_iff.mp there
  exact isDirectory_iff.mpr ⟨place, same.locate located, (same.node place).mpr directory⟩

/-- A directory that is there need not be made. -/
theorem makeDirectories_of_isDirectory {absolute : Bool} {c : String} {before : List String}
    (there : t.isDirectory absolute (c :: before).reverse = true) :
    t.makeDirectories absolute (c :: before) = (t, none) := by
  obtain ⟨place, located, directory⟩ := isDirectory_iff.mp there
  have taken : t.makeDirectory absolute (c :: before).reverse = .error .alreadyExists := by
    simp only [makeDirectory, located, directory, bind, Except.bind]
  rw [makeDirectories]
  simp only [taken, there, if_true]

/-- A directory that was made is there. -/
theorem isDirectory_of_makeDirectory {absolute : Bool} {cs : List String}
    (made : t.makeDirectory absolute cs = .ok u) : u.isDirectory absolute cs = true := by
  obtain ⟨target, located, missing, rfl⟩ := exists_of_makeDirectory made
  have other : t.node? target ≠ some .directory := by
    rw [missing]
    nofun
  exact isDirectory_iff.mpr ⟨target, walk_put located other,
    node?_put_self (ne_nil_of_node? other)⟩

theorem isDirectory_makeDirectories {absolute : Bool} {c : String} {before : List String}
    (made : t.makeDirectories absolute (c :: before) = (u, none)) :
    u.isDirectory absolute (c :: before).reverse = true := by
  rw [makeDirectories] at made
  split at made
  · next ok =>
      cases made
      exact isDirectory_of_makeDirectory ok
  · split at made
    · cases made
    · split at made
      · next ok =>
          cases made
          exact isDirectory_of_makeDirectory ok
      · split at made
        · next there =>
            cases made
            exact there
        · cases made
  · split at made
    · next there =>
        cases made
        exact there
    · cases made

/-- Once a directory is made, it stays made whatever files are written. -/
theorem makeAll_of_made (made : t.makeAll dir = (u, none)) (same : u.SameDirectories v) :
    v.makeAll dir = (v, none) := by
  rw [makeAll] at made ⊢
  cases path : (components dir).reverse with
  | nil => rfl
  | cons c before =>
      rw [path] at made
      exact makeDirectories_of_isDirectory (same.isDirectory (isDirectory_makeDirectories made))

/-! ## A shelf for reports -/

/-- A tree with some files in a directory. -/
def shelved (t : FileTree) (place : List String) (files : List (String × String)) : FileTree :=
  files.foldl (fun u file => u.put (place ++ [file.1]) (.file (.text file.2))) t

theorem shelved_append (t : FileTree) (place : List String) (files : List (String × String))
    (name text : String) : t.shelved place (files ++ [(name, text)]) =
      (t.shelved place files).put (place ++ [name]) (.file (.text text)) := by
  rw [shelved, List.foldl_append]
  rfl

variable {place : List String} {files : List (String × String)}

theorem sameDirectories_shelved
    (room : ∀ file ∈ files, t.node? (place ++ [file.1]) ≠ some .directory) :
    t.SameDirectories (t.shelved place files) := by
  induction files generalizing t with
  | nil => exact .refl t
  | cons file files ih =>
      have first := sameDirectories_put (room file List.mem_cons_self) (.text file.2)
      refine first.trans (ih fun other listed there => ?_)
      exact room other (List.mem_cons_of_mem _ listed) ((first.node _).mp there)

theorem node?_shelved_of_ne {spot : List String}
    (apart : ∀ file ∈ files, spot ≠ place ++ [file.1]) :
    (t.shelved place files).node? spot = t.node? spot := by
  induction files generalizing t with
  | nil => rfl
  | cons file files ih =>
      refine (ih fun other listed => apart other (List.mem_cons_of_mem _ listed)).trans ?_
      exact node?_put_of_ne (apart file List.mem_cons_self)

theorem node?_shelved_of_mem (distinct : (files.map (·.1)).Nodup)
    (listed : (name, text) ∈ files) :
    (t.shelved place files).node? (place ++ [name]) = some (.file (.text text)) := by
  induction files generalizing t with
  | nil => cases listed
  | cons file files ih =>
      obtain ⟨fresh, distinct⟩ := List.nodup_cons.mp distinct
      rcases List.mem_cons.mp listed with rfl | listed
      · change ((t.put (place ++ [name]) _).shelved place files).node? (place ++ [name]) = _
        rw [node?_shelved_of_ne, node?_put_self (by simp)]
        intro other behind same
        have named : name = other.1 := (List.cons.inj (List.append_cancel_left same)).1
        exact fresh (List.mem_map.mpr ⟨other, behind, named.symm⟩)
      · exact ih distinct listed

/-- How reports fare in a directory of a tree: which ones are refused, and where the others go. It
makes no difference which of them are there already. -/
structure Shelf (t : FileTree) (dir : String) where
  place : List String
  /-- Why a report of that name cannot be written, if it cannot. -/
  refusal? : String → Option Failure
  first : ∀ name text, IsName name → t.writeArtifact (join dir name) text =
    (t.makeAll dir).1.writeArtifact (join dir name) text
  next : ∀ files name text, IsName name → (∀ file ∈ files, refusal? file.1 = none) →
    ((t.makeAll dir).1.shelved place files).writeArtifact (join dir name) text =
      match refusal? name with
      | none => ((t.makeAll dir).1.shelved place (files ++ [(name, text)]), .ok ())
      | some f => ((t.makeAll dir).1.shelved place files, .error f)
  room : ∀ name, refusal? name = none →
    (t.makeAll dir).1.node? (place ++ [name]) ≠ some .directory

/-- Every report is refused. -/
def Shelf.ofRefusal (refuse : String → Failure)
    (first : ∀ name text, IsName name → t.writeArtifact (join dir name) text =
      (t.makeAll dir).1.writeArtifact (join dir name) text)
    (next : ∀ name text, IsName name → (t.makeAll dir).1.writeArtifact (join dir name) text =
      ((t.makeAll dir).1, .error (refuse name))) : Shelf t dir where
  place := []
  refusal? name := some (refuse name)
  first := first
  next files name text is accepted := by
    cases files with
    | nil => exact next name text is
    | cons file files => cases accepted file List.mem_cons_self
  room := nofun

/-- The directory of reports can be made, or trying to makes nothing. -/
def Furnishable (t : FileTree) (dir : String) : Prop :=
  (t.makeAll dir).2 = none ∨ (t.makeAll dir).1 = t

/-- Making the directory first makes no difference. -/
theorem writeArtifact_of_made (made : t.makeAll dir = (u, none)) (is : IsName name) :
    t.writeArtifact (join dir name) text = u.writeArtifact (join dir name) text := by
  have still : u.makeAll dir = (u, none) := makeAll_of_made made (.refl u)
  rw [writeArtifact_join is, made]
  dsimp only
  rw [writeArtifact_join is, still]

/-- Where reports are already, one more goes to them, unless a directory has its name. -/
theorem writeArtifact_shelved {place : List String} {files : List (String × String)}
    (made : t.makeAll dir = (u, none)) (there : u.directory? dir = .ok place)
    (same : u.SameDirectories (u.shelved place files)) (is : IsName name) :
    (u.shelved place files).writeArtifact (join dir name) text =
      if u.node? (place ++ [name]) = some .directory then
        (u.shelved place files, .error (writingFailure dir name .isADirectory))
      else (u.shelved place (files ++ [(name, text)]), .ok ()) := by
  rw [writeArtifact_join is, makeAll_of_made made same]
  dsimp only
  rw [write_join is, same.directory? there]
  change (match (u.shelved place files).putFile (place ++ [name]) text with
    | .ok v => _ | .error fault => _) = _
  by_cases taken : u.node? (place ++ [name]) = some .directory
  · rw [putFile_of_directory ((same.node _).mpr taken), if_pos taken]
  · rw [putFile_of_ne (mt (same.node _).mp taken), if_neg taken, shelved_append]

theorem exists_shelf (furnishable : t.Furnishable dir) : Nonempty (Shelf t dir) := by
  unfold Furnishable at furnishable
  cases made : t.makeAll dir with
  | mk u failed =>
  rw [made] at furnishable
  cases failed with
  | some fault =>
      -- nothing was made, and nothing ever will be
      obtain rfl : u = t := furnishable.resolve_left nofun
      refine ⟨.ofRefusal (creationFailure dir · fault) ?_ ?_⟩
      · intro name text is
        rw [made]
      · intro name text is
        rw [made, writeArtifact_join is, made]
  | none =>
      have first : ∀ name text, IsName name → t.writeArtifact (join dir name) text =
          (t.makeAll dir).1.writeArtifact (join dir name) text := by
        intro name text is
        rw [made, writeArtifact_of_made made is]
      cases there : u.directory? dir with
      | error fault =>
          refine ⟨.ofRefusal (writingFailure dir · fault) first ?_⟩
          intro name text is
          rw [made, ← writeArtifact_of_made made is, writeArtifact_join is, made]
          dsimp only
          rw [write_join is, there]
          rfl
      | ok place =>
          refine ⟨⟨place, fun name => if u.node? (place ++ [name]) = some .directory then
            some (writingFailure dir name .isADirectory) else none, first, ?_, ?_⟩⟩
          · intro files name text is accepted
            have same : u.SameDirectories (u.shelved place files) := by
              refine sameDirectories_shelved fun file listed there => ?_
              cases (if_pos there).symm.trans (accepted file listed)
            rw [made, writeArtifact_shelved made there same is]
            by_cases taken : u.node? (place ++ [name]) = some .directory
            · rw [if_pos taken, if_pos taken]
            · rw [if_neg taken, if_neg taken]
          · intro name accepted there
            rw [made] at there
            cases (if_pos there).symm.trans accepted

/-! ## Writers -/

/-- Goes on writing if that has succeeded so far. -/
def goOn (write : FileTree → FileTree × Except Failure Unit) :
    FileTree × Except Failure Unit → FileTree × Except Failure Unit
  | (t, .ok ()) => write t
  | (t, .error f) => (t, .error f)

/-- Writes reports into a directory, up to the first one that cannot be written. -/
def writeReports (dir : String) :
    List (String × String) → FileTree → FileTree × Except Failure Unit
  | [], t => (t, .ok ())
  | (name, text) :: reports, t =>
    goOn (writeReports dir reports) (t.writeArtifact (join dir name) text)

theorem writeReports_cons (dir name text : String) (reports : List (String × String))
    (t : FileTree) : writeReports dir ((name, text) :: reports) t =
      goOn (writeReports dir reports) (t.writeArtifact (join dir name) text) := rfl

theorem writeReports_singleton (dir name text : String) (t : FileTree) :
    writeReports dir [(name, text)] t = t.writeArtifact (join dir name) text := by
  rw [writeReports]
  rcases t.writeArtifact (join dir name) text with ⟨u, _ | _⟩ <;> rfl

namespace Shelf

variable (shelf : Shelf t dir)

/-- The reports that are written, up to the first one that is refused. -/
def keeps : List (String × String) → List (String × String)
  | [] => []
  | (name, text) :: reports =>
    match shelf.refusal? name with
    | none => (name, text) :: keeps reports
    | some _ => []

def result : List (String × String) → Except Failure Unit
  | [] => .ok ()
  | (name, _) :: reports =>
    match shelf.refusal? name with
    | none => result reports
    | some f => .error f

/-- The tree with the shelf, and some reports in it. -/
def holding (files : List (String × String)) : FileTree :=
  (t.makeAll dir).1.shelved shelf.place files

variable {shelf} {reports files : List (String × String)}

theorem sublist_keeps (reports : List (String × String)) :
    (shelf.keeps reports).Sublist reports := by
  induction reports with
  | nil => exact .slnil
  | cons report reports ih =>
      obtain ⟨name, text⟩ := report
      unfold keeps
      split
      · exact ih.cons_cons _
      · exact List.nil_sublist _

theorem accepted_keeps (reports : List (String × String)) :
    ∀ file ∈ shelf.keeps reports, shelf.refusal? file.1 = none := by
  induction reports with
  | nil => nofun
  | cons report reports ih =>
      obtain ⟨name, text⟩ := report
      unfold keeps
      split
      · next accepted => exact List.forall_mem_cons.mpr ⟨accepted, ih⟩
      · nofun

/-- What is written next to other reports does not depend on them. -/
theorem writeReports_holding (names : ∀ report ∈ reports, IsName report.1)
    (accepted : ∀ file ∈ files, shelf.refusal? file.1 = none) :
    writeReports dir reports (shelf.holding files) =
      (shelf.holding (files ++ shelf.keeps reports), shelf.result reports) := by
  induction reports generalizing files with
  | nil => rw [keeps, List.append_nil]; rfl
  | cons report reports ih =>
      obtain ⟨name, text⟩ := report
      obtain ⟨is, names⟩ := List.forall_mem_cons.mp names
      have next := shelf.next files name text is accepted
      rw [writeReports]
      unfold keeps result holding
      rw [next]
      cases refused : shelf.refusal? name with
      | none =>
          have accepted : ∀ file ∈ files ++ [(name, text)], shelf.refusal? file.1 = none :=
            List.forall_mem_append.mpr ⟨accepted, by simpa using refused⟩
          dsimp only
          refine (ih names accepted).trans ?_
          rw [List.append_assoc]
          rfl
      | some f =>
          dsimp only
          rw [List.append_nil]
          rfl

/-- Whoever writes first makes the shelf. -/
theorem writeReports_first (names : ∀ report ∈ reports, IsName report.1) (some : reports ≠ []) :
    writeReports dir reports t = (shelf.holding (shelf.keeps reports), shelf.result reports) := by
  have first : writeReports dir reports t = writeReports dir reports (shelf.holding []) := by
    cases reports with
    | nil => exact absurd rfl some
    | cons report reports =>
        obtain ⟨name, text⟩ := report
        have same := shelf.first name text (names _ List.mem_cons_self)
        change writeReports dir _ t = writeReports dir _ (t.makeAll dir).1
        rw [writeReports, writeReports, same]
  rw [first]
  exact shelf.writeReports_holding names nofun

/-! ### Writers that differ -/

variable (shelf) in
/-- The tree after several writers, who leave it alone if they have nothing to write. -/
def after (writers : List (List (String × String))) : FileTree :=
  if writers.all (·.isEmpty) then t else shelf.holding (writers.flatMap shelf.keeps)

variable {writers : List (List (String × String))}

theorem after_nil : shelf.after [] = t := rfl

theorem after_of_some (listed : reports ∈ writers) (some : reports ≠ []) :
    shelf.after writers = shelf.holding (writers.flatMap shelf.keeps) := by
  refine if_neg fun none => some ?_
  exact List.isEmpty_iff.mp (List.all_eq_true.mp none reports listed)

theorem flatMap_keeps_of_empty (none : writers.all (·.isEmpty) = true) :
    writers.flatMap shelf.keeps = [] := by
  refine List.flatMap_eq_nil_iff.mpr fun reports listed => ?_
  rw [List.isEmpty_iff.mp (List.all_eq_true.mp none reports listed)]
  rfl

/-- A writer among others writes what it would write alone. -/
theorem writeReports_after (names : ∀ report ∈ reports, IsName report.1)
    (writers : List (List (String × String))) :
    writeReports dir reports (shelf.after writers) =
      (shelf.after (writers ++ [reports]), shelf.result reports) := by
  by_cases nothing : reports = []
  · subst nothing
    have same : shelf.after (writers ++ [[]]) = shelf.after writers := by
      simp [after, keeps]
    rw [same]
    rfl
  · have holds : shelf.after (writers ++ [reports]) =
        shelf.holding (writers.flatMap shelf.keeps ++ shelf.keeps reports) := by
      rw [after_of_some (List.mem_append_right _ (List.mem_singleton_self _)) nothing,
        List.flatMap_append, List.flatMap_singleton]
    rw [holds]
    by_cases none : writers.all (·.isEmpty) = true
    · rw [after, if_pos none, flatMap_keeps_of_empty none]
      exact writeReports_first names nothing
    · rw [after, if_neg none]
      refine writeReports_holding names fun file listed => ?_
      obtain ⟨other, -, kept⟩ := List.mem_flatMap.mp listed
      exact shelf.accepted_keeps other file kept

theorem after_singleton (some : reports ≠ []) :
    shelf.after [reports] = shelf.holding (shelf.keeps reports) := by
  rw [after_of_some (List.mem_singleton_self _) some, List.flatMap_singleton]

/-- Reports are where nothing is changed by making their directory. -/
theorem node?_room (accepted : shelf.refusal? name = none) :
    (t.makeAll dir).1.node? (shelf.place ++ [name]) = t.node? (shelf.place ++ [name]) := by
  rcases t.furnishes_makeAll dir (shelf.place ++ [name]) with same | ⟨-, made⟩
  · exact same
  · exact absurd made (shelf.room name accepted)

variable {spot : List String}

/-- The files of one writer are there after all of them. -/
theorem node?_after_of_kept (distinct : (writers.flatten.map (·.1)).Nodup)
    (listed : reports ∈ writers) (kept : (name, text) ∈ shelf.keeps reports) :
    (shelf.after writers).node? (shelf.place ++ [name]) = some (.file (.text text)) ∧
      (shelf.after [reports]).node? (shelf.place ++ [name]) = some (.file (.text text)) := by
  have some : reports ≠ [] := by
    rintro rfl
    cases kept
  have own : reports.Sublist writers.flatten := List.sublist_flatten_of_mem listed
  have all : (writers.flatMap shelf.keeps).Sublist writers.flatten := by
    clear distinct listed own
    induction writers with
    | nil => exact .slnil
    | cons first writers ih =>
        rw [List.flatMap_cons, List.flatten_cons]
        exact (shelf.sublist_keeps first).append ih
  rw [after_of_some listed some, after_singleton some]
  constructor
  · exact node?_shelved_of_mem (distinct.sublist (all.map _))
      (List.mem_flatMap.mpr ⟨reports, listed, kept⟩)
  · exact node?_shelved_of_mem (distinct.sublist (((shelf.sublist_keeps reports).trans own).map _))
      kept

/-- Elsewhere there is what making the directory leaves, if anybody writes. -/
theorem node?_after_of_apart (listed : reports ∈ writers) (some : reports ≠ [])
    (apart : ∀ reports ∈ writers, ∀ file ∈ shelf.keeps reports, spot ≠ shelf.place ++ [file.1]) :
    (shelf.after writers).node? spot = (t.makeAll dir).1.node? spot := by
  rw [after_of_some listed some]
  refine node?_shelved_of_ne fun file kept => ?_
  obtain ⟨other, listed, kept⟩ := List.mem_flatMap.mp kept
  exact apart other listed file kept

theorem node?_after_singleton_of_apart (some : reports ≠ [])
    (apart : ∀ file ∈ shelf.keeps reports, spot ≠ shelf.place ++ [file.1]) :
    (shelf.after [reports]).node? spot = (t.makeAll dir).1.node? spot :=
  node?_after_of_apart (List.mem_singleton_self _) some (List.forall_mem_singleton.mpr apart)

/-- **Writers leave what each of them would have left alone.** What none of them changes stays as it
was, and what one of them changes is as that one leaves it. -/
theorem union (distinct : (writers.flatten.map (·.1)).Nodup) (spot : List String) :
    ((∀ reports ∈ writers, (shelf.after [reports]).node? spot = t.node? spot) →
      (shelf.after writers).node? spot = t.node? spot) ∧
    ∀ reports ∈ writers, (shelf.after [reports]).node? spot ≠ t.node? spot →
      (shelf.after writers).node? spot = (shelf.after [reports]).node? spot := by
  have writes {reports} (changed : (shelf.after [reports]).node? spot ≠ t.node? spot) :
      reports ≠ [] := by
    rintro rfl
    exact changed rfl
  by_cases held : ∃ reports ∈ writers, ∃ file ∈ shelf.keeps reports, spot = shelf.place ++ [file.1]
  · obtain ⟨owner, listed, ⟨name, text⟩, kept, rfl⟩ := held
    obtain ⟨there, alone⟩ := node?_after_of_kept distinct listed kept
    refine ⟨fun same => ?_, fun reports listed changed => ?_⟩
    · rw [there, ← alone]
      exact same owner listed
    · by_cases own : ∃ text, (name, text) ∈ shelf.keeps reports
      · obtain ⟨text', kept'⟩ := own
        obtain ⟨there', alone'⟩ := node?_after_of_kept distinct listed kept'
        rw [there', alone']
      · -- who does not write the file does not change its place
        refine absurd ?_ changed
        rw [node?_after_singleton_of_apart (writes changed) fun file kept' same => own ?_]
        · exact node?_room (shelf.accepted_keeps owner _ kept)
        · have named : name = file.1 := (List.cons.inj (List.append_cancel_left same)).1
          exact ⟨file.2, named ▸ kept'⟩
  · have apart : ∀ reports ∈ writers, ∀ file ∈ shelf.keeps reports,
        spot ≠ shelf.place ++ [file.1] :=
      fun reports listed file kept same => held ⟨reports, listed, file, kept, same⟩
    refine ⟨fun same => ?_, fun reports listed changed => ?_⟩
    · by_cases none : writers.all (·.isEmpty) = true
      · rw [after, if_pos none]
      · obtain ⟨reports, listed, some⟩ : ∃ reports ∈ writers, reports ≠ [] := by
          simpa using none
        rw [node?_after_of_apart listed some apart, ← same reports listed,
          node?_after_singleton_of_apart some (apart reports listed)]
    · rw [node?_after_of_apart listed (writes changed) apart,
        node?_after_singleton_of_apart (writes changed) (apart reports listed)]

end Shelf

end ProfileAudit.FileTree
