import ProfileAudit.Proofs.Files.Way

/-!
# Artifacts, one after another

Whether an artifact can be written is told by the tree and the path alone (`FileTree.Accepts`): no
file is on the way, and no directory is where the path leads or will be there once the way is made.
An artifact that is written is in its file, and the way to it is there (`FileTree.Delivers`); one
that is not leaves nothing but directories (`FileTree.Withholds`). So after any number of attempts
each file holds what was last delivered to its place, and otherwise what it held at first
(`FileTree.writes_settle`).
-/

namespace ProfileAudit.FileTree

open ProfileAudit.Path

variable {t u v : FileTree} {place : List String} {path text : String}

/-! ## Where a path leads -/

/-- The place that a path leads to, once the way to it is made. -/
def placeOf (t : FileTree) (path : String) : List String :=
  destination (t.origin (isAbsolute path)) (components path)

/-- The places that have to be directories for that, from the one where the path starts. -/
def way (t : FileTree) (path : String) : List (List String) :=
  trail (t.origin (isAbsolute path)) (components path).dropLast

namespace FurnishesOn

variable {places : List (List String)}

theorem placeOf (furnishes : FurnishesOn places t u) (path : String) :
    u.placeOf path = t.placeOf path := by
  rw [FileTree.placeOf, furnishes.origin, FileTree.placeOf]

theorem way (furnishes : FurnishesOn places t u) (path : String) : u.way path = t.way path := by
  rw [FileTree.way, furnishes.origin, FileTree.way]

end FurnishesOn

theorem locate_eq_ok_iff (file : endsInDirectory path = false) :
    t.locate (isAbsolute path) (components path) = .ok place ↔
      (∀ q ∈ t.way path, t.node? q = some .directory) ∧ t.placeOf path = place := by
  obtain ⟨front, name, all, -⟩ := exists_last_component file
  rw [way, placeOf, all, List.dropLast_concat, locate_eq, walk_concat_eq_ok_iff]

/-- A file can be written where the way is there and no directory is at its end. -/
theorem write_eq_ok_iff : t.write path text = .ok u ↔ endsInDirectory path = false ∧
    (∀ q ∈ t.way path, t.node? q = some .directory) ∧
      t.node? (t.placeOf path) ≠ some .directory ∧
      u = t.put (t.placeOf path) (.file (.text text)) := by
  constructor
  · intro written
    obtain ⟨-, file, place, located, other, rfl⟩ := exists_of_write written
    obtain ⟨directories, rfl⟩ := (locate_eq_ok_iff file).mp located
    exact ⟨file, directories, other, rfl⟩
  · intro writable
    obtain ⟨file, directories, other, rfl⟩ := writable
    have named : path.isEmpty = false := by
      rw [← Bool.not_eq_true]
      intro empty
      rw [String.isEmpty_iff.mp empty] at file
      cases file
    rw [write, named, (locate_eq_ok_iff file).mpr ⟨directories, rfl⟩, file]
    exact putFile_of_ne other

/-! ## One artifact -/

/-- An artifact can be written to the path. -/
structure Accepts (t : FileTree) (path : String) : Prop where
  /-- The path ends in a name. -/
  named : endsInDirectory path = false
  /-- There is a directory to start from. -/
  start : t.node? (t.origin (isAbsolute path)) = some .directory
  /-- No file is on the way. -/
  clear : ∀ q ∈ t.way path, ∀ contents, t.node? q ≠ some (.file contents)
  /-- No directory is where the path leads. -/
  room : t.node? (t.placeOf path) ≠ some .directory
  /-- No directory will be there once the way is made. -/
  apart : t.placeOf path ∉ t.way path

/-- The file that the path leads to holds the text, and every directory on the way is there. No
other file has changed, and nothing else has been made. -/
structure Delivers (t : FileTree) (path text : String) (u : FileTree) : Prop where
  located : u.locate (isAbsolute path) (components path) = .ok (t.placeOf path)
  holds : u.node? (t.placeOf path) = some (.file (.text text))
  reads : u.read path = .ok text
  others : t.SameFilesBut (t.placeOf path) u
  passable : ∀ q ∈ t.way path, u.node? q = some .directory
  here : u.here = t.here
  kept : ∀ q, q ≠ t.placeOf path → KeptOrMade (t.way path) t u q

/-- No file has changed or appeared or is gone. Directories on the way may have been made. -/
structure Withholds (t : FileTree) (path : String) (u : FileTree) : Prop where
  files : t.SameFiles u
  furnishes : FurnishesOn (t.way path) t u

/-- An artifact is written once the directories on the way are made. -/
theorem exists_writeArtifact_eq (t : FileTree) (path text : String) : ∃ dir : String,
    t.writeArtifact path text =
      match t.makeDirectories (isAbsolute path) (components path).dropLast.reverse with
      | (u, none) =>
        match u.write path text with
        | .ok v => (v, .ok ())
        | .error fault => (u, .error ⟨.io fault, [s!"writing '{path}'"]⟩)
      | (u, some fault) =>
        (u, .error ⟨.io fault, [s!"creating report directory '{dir}'"]⟩) := by
  rcases parent?_cases path with ⟨none, nowhere⟩ | ⟨dir, some, leads, absolute⟩
  · refine ⟨"", ?_⟩
    rw [writeArtifact, none, nowhere]
    rfl
  · refine ⟨dir, ?_⟩
    rw [← leads, ← absolute, writeArtifact, some]
    split
    · next absent => cases absent
    · next empty =>
        cases empty
        rfl
    · next other =>
        cases other
        rfl

theorem furnishesOn_way (t : FileTree) (path : String) : FurnishesOn (t.way path) t
    (t.makeDirectories (isAbsolute path) (components path).dropLast.reverse).1 := by
  have furnishes := t.furnishesOn_makeDirectories (isAbsolute path)
    (components path).dropLast.reverse
  rw [List.reverse_reverse] at furnishes
  exact furnishes

/-- Nothing that making the way makes is in the way of the file. -/
theorem Accepts.room_of_furnishes (accepts : t.Accepts path)
    (furnishes : FurnishesOn (t.way path) t u) : u.node? (t.placeOf path) ≠ some .directory := by
  intro directory
  rcases furnishes.node (t.placeOf path) with same | ⟨on, -⟩
  · exact accepts.room (same ▸ directory)
  · exact accepts.apart on

/-- The way can be made for a path that is accepted, and the file be written then. -/
theorem Accepts.written (accepts : t.Accepts path) (text : String) :
    ∃ u v, t.makeDirectories (isAbsolute path) (components path).dropLast.reverse = (u, none) ∧
      u.write path text = .ok v := by
  have furnishes := t.furnishesOn_way path
  have clear := accepts.clear
  rw [way, ← List.reverse_reverse (components path).dropLast] at clear
  have made := (makeDirectories_eq_none_iff accepts.start).mpr clear
  have directories := directory_of_makeDirectories (Prod.ext rfl made) accepts.start
  rw [List.reverse_reverse] at directories
  refine ⟨_, _, Prod.ext rfl made, write_eq_ok_iff.mpr ⟨accepts.named, ?_, ?_, rfl⟩⟩
  · rw [furnishes.way]
    exact directories
  · rw [furnishes.placeOf]
    exact accepts.room_of_furnishes furnishes

/-- What can be written on a furnished way could be foreseen. -/
theorem accepts_of_written
    (made : t.makeDirectories (isAbsolute path) (components path).dropLast.reverse = (u, none))
    (written : u.write path text = .ok v) : t.Accepts path := by
  have furnishes := t.furnishesOn_way path
  rw [made] at furnishes
  obtain ⟨named, directories, other, -⟩ := write_eq_ok_iff.mp written
  rw [furnishes.way] at directories
  rw [furnishes.placeOf] at other
  have start : t.node? (t.origin (isAbsolute path)) = some .directory := by
    by_contra lost
    have same := makeDirectories_of_lost lost (components path).dropLast.reverse
    rw [made] at same
    cases same
    exact lost (directories _ (mem_trail_self _ _))
  refine ⟨named, start, fun q on contents file => ?_, fun directory => ?_, fun on => ?_⟩
  · cases (directories q on).symm.trans (furnishes.node?_of_some file)
  · exact other (furnishes.node?_of_some directory)
  · exact other (directories _ on)

/-- What is written on a furnished way is delivered. -/
theorem FurnishesOn.delivers (furnishes : FurnishesOn (t.way path) t u)
    (written : u.write path text = .ok v) : t.Delivers path text v := by
  obtain ⟨named, directories, other, is⟩ := write_eq_ok_iff.mp written
  have reads := read_of_write written
  have located := (locate_eq_ok_iff named).mpr ⟨directories, rfl⟩
  rw [furnishes.way] at directories
  rw [furnishes.placeOf] at other is located
  subst is
  refine ⟨walk_put located other, node?_put_self (ne_nil_of_node? other), reads, ?_, ?_,
    furnishes.here, ?_⟩
  · intro q apart contents
    rw [node?_put_of_ne apart]
    exact furnishes.furnishes.sameFiles q contents
  · intro q on
    have apart : q ≠ t.placeOf path := fun same => other (same ▸ directories q on)
    rw [node?_put_of_ne apart]
    exact directories q on
  · intro q apart
    unfold KeptOrMade
    rw [node?_put_of_ne apart]
    exact furnishes.node q

/-- What comes of an attempt to write an artifact. -/
inductive Attempted (t : FileTree) (path text : String) : FileTree × Except Failure Unit → Prop
  | delivered {u : FileTree} : t.Accepts path → t.Delivers path text u →
      Attempted t path text (u, .ok ())
  | withheld {u : FileTree} {failure : Failure} : ¬ t.Accepts path → t.Withholds path u →
      Attempted t path text (u, .error failure)

theorem attempted_writeArtifact (t : FileTree) (path text : String) :
    t.Attempted path text (t.writeArtifact path text) := by
  have furnishes := t.furnishesOn_way path
  obtain ⟨dir, is⟩ := t.exists_writeArtifact_eq path text
  rw [is]
  rcases made : t.makeDirectories (isAbsolute path) (components path).dropLast.reverse with
    ⟨u, _ | fault⟩
  · rw [made] at furnishes
    dsimp only
    cases written : u.write path text with
    | ok v => exact .delivered (accepts_of_written made written) (furnishes.delivers written)
    | error fault =>
        refine .withheld (fun accepts => ?_) ⟨furnishes.furnishes.sameFiles, furnishes⟩
        obtain ⟨u', v, made', written'⟩ := accepts.written text
        cases made.symm.trans made'
        cases written.symm.trans written'
  · rw [made] at furnishes
    refine .withheld (fun accepts => ?_) ⟨furnishes.furnishes.sameFiles, furnishes⟩
    obtain ⟨u', v, made', -⟩ := accepts.written text
    cases made.symm.trans made'

/-! ## Several artifacts -/

/-- What the file at a place holds, if there is one. -/
def contents? (t : FileTree) (place : List String) : Option Contents :=
  match t.node? place with
  | some (.file contents) => some contents
  | _ => none

theorem contents?_eq_some_iff {contents : Contents} :
    t.contents? place = some contents ↔ t.node? place = some (.file contents) := by
  unfold contents?
  split
  · next found => rw [found, Option.some.injEq, Option.some.injEq, FileNode.file.injEq]
  · next other => exact iff_of_false nofun (other contents)

theorem contents?_congr (same : ∀ contents, t.node? place = some (.file contents) ↔
    u.node? place = some (.file contents)) : u.contents? place = t.contents? place := by
  apply Option.ext
  intro contents
  rw [contents?_eq_some_iff, contents?_eq_some_iff, same]

/-- The tree after some attempts to write, given by paths and texts. -/
def afterWrites (t : FileTree) (calls : List (String × String)) : FileTree :=
  calls.foldl (fun u call => (u.writeArtifact call.1 call.2).1) t

/-- The attempts that come to something: the places, and what is delivered there. -/
def deliveries (t : FileTree) : List (String × String) → List (List String × String)
  | [] => []
  | (path, text) :: calls =>
    match t.writeArtifact path text with
    | (u, .ok ()) => (t.placeOf path, text) :: u.deliveries calls
    | (u, .error _) => u.deliveries calls

/-- What is delivered to a place last. -/
def lastDelivered? (t : FileTree) (calls : List (String × String)) (place : List String) :
    Option String :=
  (t.deliveries calls).reverse.lookup place

theorem lastDelivered?_cons_delivered (calls : List (String × String)) (place : List String)
    (first : t.writeArtifact path text = (u, .ok ())) :
    t.lastDelivered? ((path, text) :: calls) place = (u.lastDelivered? calls place).or
      (if place = t.placeOf path then some text else none) := by
  rw [lastDelivered?, deliveries, first]
  dsimp only
  rw [List.reverse_cons, List.lookup_append, lastDelivered?]
  refine congrArg (Option.or _) ?_
  by_cases same : place = t.placeOf path
  · rw [if_pos same, same, List.lookup_cons_self]
  · rw [if_neg same, List.lookup_cons, beq_false_of_ne same]
    rfl

theorem lastDelivered?_cons_withheld (calls : List (String × String)) (place : List String)
    {failure : Failure} (first : t.writeArtifact path text = (u, .error failure)) :
    t.lastDelivered? ((path, text) :: calls) place = u.lastDelivered? calls place := by
  rw [lastDelivered?, deliveries, first]
  rfl

/-- A file holds what was last delivered to its place, or what it held at first. -/
theorem contents?_afterWrites (t : FileTree) (calls : List (String × String))
    (place : List String) : (t.afterWrites calls).contents? place =
      ((t.lastDelivered? calls place).map .text).or (t.contents? place) := by
  induction calls generalizing t with
  | nil => rfl
  | cons call calls ih =>
      obtain ⟨path, text⟩ := call
      have attempted := t.attempted_writeArtifact path text
      change ((t.writeArtifact path text).1.afterWrites calls).contents? place = _
      rw [ih]
      cases first : t.writeArtifact path text with
      | mk u result =>
      rw [first] at attempted
      cases attempted with
      | withheld _ withholds =>
          rw [lastDelivered?_cons_withheld calls place first,
            contents?_congr (withholds.files place)]
      | delivered _ delivers =>
          rw [lastDelivered?_cons_delivered calls place first, Option.map_or, Option.or_assoc]
          by_cases same : place = t.placeOf path
          · subst same
            rw [if_pos rfl, contents?_eq_some_iff.mpr delivers.holds]
            rfl
          · rw [if_neg same, contents?_congr (delivers.others place same)]
            rfl

/-- **Whatever is written in whatever order.** In any tree and after any attempts to write an
artifact, one more attempt delivers it or withholds it, as its path and the tree tell: a file is
delivered with the whole text, the way to it is made and every other file is as it was, and
otherwise all files are as they were and only directories on the way may be new. So each file holds
what was last delivered to its place, or what it held before all attempts. -/
theorem writes_settle (t : FileTree) (calls : List (String × String)) (path text : String) :
    (t.afterWrites calls).Attempted path text ((t.afterWrites calls).writeArtifact path text) ∧
      t.afterWrites (calls ++ [(path, text)]) =
        ((t.afterWrites calls).writeArtifact path text).1 ∧
      ∀ place, (t.afterWrites calls).contents? place =
        ((t.lastDelivered? calls place).map .text).or (t.contents? place) := by
  refine ⟨attempted_writeArtifact _ path text, ?_, t.contents?_afterWrites calls⟩
  rw [afterWrites, List.foldl_append]
  rfl

/-- Files and directories in each other's way. -/
example : FileTree.deliveries {}
    [("a", "1"), ("a/b", "2"), ("n/../m/x", "3"), ("m", "4"), ("k/../k", "5"), ("./m//x", "6")] =
      [(["a"], "1"), (["m", "x"], "3"), (["m", "x"], "6")] := by decide +kernel

end ProfileAudit.FileTree
