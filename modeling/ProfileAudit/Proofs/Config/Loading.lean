import ProfileAudit.Proofs.Config.Fields
import ProfileAudit.Proofs.Result

/-!
# How a configuration is loaded

Loading looks at one path only. What comes of it is told by what is there: nothing, something that
cannot be read, a text that is no configuration, a configuration that no run could follow, or one
that is taken (`Config.Loads`). Of several defects the one that is looked for first is told
(`Config.FirstDefect`), and what is taken has none (`Config.Sound`). That this is all, and that it
is so in every tree of files, is `Config.load_judged`.
-/

namespace ProfileAudit

/-- Reading tells that a file is missing exactly if the path leads to nothing. -/
theorem FileTree.read_eq_notFound_iff {t : FileTree} {path : String} :
    t.read path = .error .notFound ↔ t.find path = .error .notFound := by
  unfold read
  rw [bind_eq_error_iff]
  refine or_iff_left fun found => ?_
  obtain ⟨node, -, failed⟩ := found
  cases node with
  | directory => cases failed
  | file contents =>
      dsimp only at failed
      split at failed
      · cases failed
      · cases contents <;> cases failed

namespace Config

/-! ## Defects -/

/-- A run can follow the configuration: neither timeout is zero or longer than seven days, and the
label has a character to it that is not blank. -/
structure Sound (c : Config) : Prop where
  runs : 0 < c.runTimeout
  requests : 0 < c.requestTimeout
  runEnds : c.runTimeout ≤ 7 * 24 * 60 * 60 * second
  requestEnds : c.requestTimeout ≤ 7 * 24 * 60 * 60 * second
  labelled : ∃ ch ∈ c.profileLabel.toList, isBlank ch = false

/-- A configuration has this defect, whatever else is wrong with it. -/
def Defect.Spoils (c : Config) : Defect → Prop
  | zeroRunTimeout => c.runTimeout = 0
  | zeroRequestTimeout => c.requestTimeout = 0
  | longRunTimeout => 7 * 24 * 60 * 60 * second < c.runTimeout
  | longRequestTimeout => 7 * 24 * 60 * 60 * second < c.requestTimeout
  | blankLabel => ∀ ch ∈ c.profileLabel.toList, isBlank ch = true

instance (c : Config) : (d : Defect) → Decidable (d.Spoils c)
  | .zeroRunTimeout => inferInstanceAs (Decidable (c.runTimeout = 0))
  | .zeroRequestTimeout => inferInstanceAs (Decidable (c.requestTimeout = 0))
  | .longRunTimeout => inferInstanceAs (Decidable (_ < c.runTimeout))
  | .longRequestTimeout => inferInstanceAs (Decidable (_ < c.requestTimeout))
  | .blankLabel => inferInstanceAs (Decidable (∀ ch ∈ c.profileLabel.toList, isBlank ch = true))

namespace Defect

/-- All defects in the order in which they are looked for. -/
def all : List Defect :=
  [zeroRunTimeout, zeroRequestTimeout, longRunTimeout, longRequestTimeout, blankLabel]

/-- The place of a defect in this order. -/
def rank (d : Defect) : Nat := all.idxOf d

theorem mem_all (d : Defect) : d ∈ all := by
  cases d <;> decide

theorem ordered_all : all.Pairwise fun d e => d.rank < e.rank := by
  decide

end Defect

/-- The defect of a configuration that comes before all its others. -/
structure FirstDefect (c : Config) (d : Defect) : Prop where
  spoils : d.Spoils c
  first : ∀ e : Defect, e.Spoils c → d.rank ≤ e.rank

variable {c : Config} {d : Defect}

theorem FirstDefect.unique {e : Defect} (one : c.FirstDefect d) (other : c.FirstDefect e) :
    d = e := by
  have same : d.rank = e.rank :=
    Nat.le_antisymm (one.first e other.spoils) (other.first d one.spoils)
  revert same
  cases d <;> cases e <;> decide

theorem sound_iff : c.Sound ↔ ∀ d : Defect, ¬ d.Spoils c := by
  constructor
  · intro sound d spoils
    cases d with
    | zeroRunTimeout => exact Nat.ne_of_gt sound.runs spoils
    | zeroRequestTimeout => exact Nat.ne_of_gt sound.requests spoils
    | longRunTimeout => exact Nat.not_lt.mpr sound.runEnds spoils
    | longRequestTimeout => exact Nat.not_lt.mpr sound.requestEnds spoils
    | blankLabel =>
        obtain ⟨ch, member, visible⟩ := sound.labelled
        cases (spoils ch member).symm.trans visible
  · intro none
    refine ⟨Nat.pos_of_ne_zero (none .zeroRunTimeout),
      Nat.pos_of_ne_zero (none .zeroRequestTimeout), Nat.not_lt.mp (none .longRunTimeout),
      Nat.not_lt.mp (none .longRequestTimeout), ?_⟩
    simpa [Defect.Spoils] using none .blankLabel

/-- Looking for a defect is asking for one after the other. -/
theorem find?_cons_spoils {p : Prop} [Decidable p] {ds : List Defect} {later : Option Defect}
    (spoils : d.Spoils c ↔ p) (behind : (ds.find? fun e => decide (e.Spoils c)) = later) :
    ((d :: ds).find? fun e => decide (e.Spoils c)) = if p then some d else later := by
  by_cases holds : d.Spoils c
  · rw [List.find?_cons, decide_eq_true holds, if_pos (spoils.mp holds)]
  · rw [List.find?_cons, decide_eq_false holds, if_neg (mt spoils.mpr holds)]
    exact behind

theorem maxTimeout_eq : maxTimeout = 7 * 24 * 60 * 60 * second := by decide

theorem defect?_eq (c : Config) : c.defect? = Defect.all.find? fun d => decide (d.Spoils c) := by
  have zeroRun : Defect.zeroRunTimeout.Spoils c ↔ c.runTimeout = 0 := Iff.rfl
  have zeroRequest : Defect.zeroRequestTimeout.Spoils c ↔ c.requestTimeout = 0 := Iff.rfl
  have longRun : Defect.longRunTimeout.Spoils c ↔ maxTimeout < c.runTimeout :=
    maxTimeout_eq ▸ Iff.rfl
  have longRequest : Defect.longRequestTimeout.Spoils c ↔ maxTimeout < c.requestTimeout :=
    maxTimeout_eq ▸ Iff.rfl
  have blank : Defect.blankLabel.Spoils c ↔ Blank.isAll c.profileLabel = true :=
    List.all_eq_true.symm
  have labels := find?_cons_spoils blank List.find?_nil
  have requests := find?_cons_spoils longRequest labels
  have runs := find?_cons_spoils longRun requests
  exact (find?_cons_spoils zeroRun (find?_cons_spoils zeroRequest runs)).symm

/-- The defect that is told is the first one. -/
theorem firstDefect_of_defect? (told : c.defect? = some d) : c.FirstDefect d := by
  rw [defect?_eq, List.find?_eq_some_iff_append] at told
  obtain ⟨spoils, before, behind, all, passed⟩ := told
  refine ⟨of_decide_eq_true spoils, fun e also => ?_⟩
  have member : e ∈ before ++ d :: behind := all ▸ e.mem_all
  rcases List.mem_append.mp member with early | late
  · simpa [also] using passed e early
  · rcases List.mem_cons.mp late with same | late
    · exact Nat.le_of_eq (congrArg Defect.rank same.symm)
    · have ordered := (List.pairwise_append.mp (all ▸ Defect.ordered_all)).2.1
      exact Nat.le_of_lt (List.rel_of_pairwise_cons ordered late)

theorem defect?_eq_some_iff : c.defect? = some d ↔ c.FirstDefect d := by
  refine ⟨firstDefect_of_defect?, fun first => ?_⟩
  cases told : c.defect? with
  | none =>
      rw [defect?_eq, List.find?_eq_none] at told
      exact absurd (decide_eq_true first.spoils) (told d d.mem_all)
  | some e => rw [(firstDefect_of_defect? told).unique first]

theorem defect?_eq_none_iff : c.defect? = none ↔ c.Sound := by
  rw [defect?_eq, List.find?_eq_none, sound_iff]
  exact ⟨fun none d spoils => none d d.mem_all (decide_eq_true spoils),
    fun none d _ spoils => none d (of_decide_eq_true spoils)⟩

/-! ## Loading -/

/-- Where a configuration is read from: the path that is given, or the usual name in a
directory. -/
def place (base : String) (explicit : Option String) : String :=
  explicit.getD (Path.join base fileName)

/-- What comes of loading a configuration. -/
inductive Loads (files : FileTree) (base : String) (explicit : Option String) :
    Except Failure Config → Prop
  /-- No path is given, and there is no file in the directory. -/
  | absent : explicit = none → files.find (place base explicit) = .error .notFound →
      Loads files base explicit (.ok default)
  /-- The file cannot be read. That there is none counts only if its path is given. -/
  | unreadable {fault : IoFault} : files.read (place base explicit) = .error fault →
      (fault = .notFound → explicit ≠ none) → Loads files base explicit
        (.error ⟨.io fault, [s!"reading cpv configuration file '{place base explicit}'"]⟩)
  /-- The text is none that gives values to fields alone. -/
  | unknown {text : String} : files.read (place base explicit) = .ok text →
      (∀ g, ¬ Gives text g) → Loads files base explicit
        (.error ⟨.toml, [s!"parsing configuration file '{place base explicit}'"]⟩)
  | refused {text : String} {g : Given} {d : Defect} :
      files.read (place base explicit) = .ok text → Gives text g →
      FirstDefect (default.overriddenBy g) d →
      Loads files base explicit (.error (.ofText d.message))
  | accepted {text : String} {g : Given} :
      files.read (place base explicit) = .ok text → Gives text g →
      Sound (default.overriddenBy g) → Loads files base explicit (.ok (default.overriddenBy g))

variable {files : FileTree} {base : String} {explicit : Option String} {text : String}
  {result : Except Failure Config}

/-- What the path leads to is read, unless it is the usual one and leads to nothing. -/
theorem load_of_present
    (present : files.read (place base explicit) = .error .notFound → explicit ≠ none) :
    load files base explicit = (do
      parse (place base explicit)
        (← files.readFor (place base explicit) "reading cpv configuration file")) := by
  cases explicit with
  | some path => rfl
  | none =>
      unfold load
      dsimp only
      split
      · next missing => exact absurd rfl (present missing)
      · rfl

/-- A file that can be read is all that counts. -/
theorem load_of_read (read : files.read (place base explicit) = .ok text) :
    load files base explicit = parse (place base explicit) text := by
  have present : files.read (place base explicit) = .error .notFound → explicit ≠ none := by
    rw [read]
    nofun
  rw [load_of_present present, FileTree.readFor, read]
  rfl

theorem load_of_unread {fault : IoFault} (unread : files.read (place base explicit) = .error fault)
    (counts : fault = .notFound → explicit ≠ none) : load files base explicit =
      .error ⟨.io fault, [s!"reading cpv configuration file '{place base explicit}'"]⟩ := by
  have present : files.read (place base explicit) = .error .notFound → explicit ≠ none := by
    rw [unread]
    exact fun missing => counts (Except.error.inj missing)
  rw [load_of_present present, FileTree.readFor, unread]
  rfl

theorem load_of_absent (none : explicit = none)
    (absent : files.read (place base explicit) = .error .notFound) :
    load files base explicit = .ok default := by
  subst none
  have absent' : files.read (Path.join base fileName) = .error .notFound := absent
  unfold load
  simp only [absent']

/-- What is made of a text. -/
theorem parse_eq (path : String) {g : Given} (gives : Gives text g) :
    parse path text = (default.overriddenBy g).validate := by
  have read : ofText? text = some (default.overriddenBy g) :=
    ofText?_eq_some_iff.mpr ⟨g, gives, by rw [default_eq]⟩
  rw [parse, read]
  rfl

theorem parse_of_unknown (path : String) (none : ∀ g, ¬ Gives text g) :
    parse path text = .error ⟨.toml, [s!"parsing configuration file '{path}'"]⟩ := by
  rw [parse, ofText?_eq_none_iff.mpr none]
  rfl

theorem validate_of_sound (sound : c.Sound) : c.validate = .ok c := by
  rw [validate, defect?_eq_none_iff.mpr sound]

theorem validate_of_firstDefect (first : c.FirstDefect d) :
    c.validate = .error (.ofText d.message) := by
  rw [validate, defect?_eq_some_iff.mpr first]

theorem Loads.load_eq (loads : Loads files base explicit result) :
    load files base explicit = result := by
  cases loads with
  | absent none missing => exact load_of_absent none (FileTree.read_eq_notFound_iff.mpr missing)
  | unreadable unread counts => exact load_of_unread unread counts
  | unknown read none => exact (load_of_read read).trans (parse_of_unknown _ none)
  | refused read gives first =>
      exact (load_of_read read).trans ((parse_eq _ gives).trans (validate_of_firstDefect first))
  | accepted read gives sound =>
      exact (load_of_read read).trans ((parse_eq _ gives).trans (validate_of_sound sound))

theorem loads_load (files : FileTree) (base : String) (explicit : Option String) :
    Loads files base explicit (load files base explicit) := by
  have ends {result : Except Failure Config} (loads : Loads files base explicit result) :
      Loads files base explicit (load files base explicit) := loads.load_eq ▸ loads
  cases read : files.read (place base explicit) with
  | error fault =>
      by_cases absent : fault = .notFound ∧ explicit = none
      · obtain ⟨missing, none⟩ := absent
        exact ends (.absent none (FileTree.read_eq_notFound_iff.mp (missing ▸ read)))
      · exact ends (.unreadable read (not_and.mp absent))
  | ok text =>
      by_cases some : ∃ g, Gives text g
      · obtain ⟨g, gives⟩ := some
        cases told : (default.overriddenBy g).defect? with
        | none => exact ends (.accepted read gives (defect?_eq_none_iff.mp told))
        | some d => exact ends (.refused read gives (defect?_eq_some_iff.mp told))
      · exact ends (.unknown read (not_exists.mp some))

theorem load_eq_iff : load files base explicit = result ↔ Loads files base explicit result :=
  ⟨fun is => is ▸ loads_load files base explicit, Loads.load_eq⟩

theorem sound_default : default.Sound := by
  rw [default_eq]
  exact ⟨by decide, by decide, by decide, by decide, 'm', by decide +kernel, by decide⟩

/-- Every key of the text is the name of a field. -/
def KnowsKeys (text : String) : Prop :=
  ∀ members, Toml.members? text = some members → ∀ m ∈ members, ∃ f : Field, m.1 = f.name

theorem Gives.knowsKeys {g : Given} (gives : Gives text g) : KnowsKeys text := by
  intro members read m member
  obtain ⟨members', read', writes⟩ := gives
  cases read.symm.trans read'
  obtain ⟨f, is, -⟩ := writes.known m member
  exact ⟨f, is⟩

/-- What is taken has no defect, and no unknown key stands in it. -/
theorem Loads.sound (loads : Loads files base explicit result) (taken : result = .ok c) :
    c.Sound ∧ ∀ text, files.read (place base explicit) = .ok text → KnowsKeys text := by
  cases loads with
  | absent none missing =>
      refine ⟨Except.ok.inj taken ▸ sound_default, fun text read => ?_⟩
      cases (FileTree.read_eq_notFound_iff.mpr missing).symm.trans read
  | accepted read gives sound =>
      refine ⟨Except.ok.inj taken ▸ sound, fun text read' => ?_⟩
      cases read.symm.trans read'
      exact gives.knowsKeys
  | _ => cases taken

/-- What comes of loading depends on the path that is given and on what is read from it. -/
theorem load_congr {files' : FileTree} {base' : String}
    (places : place base' explicit = place base explicit)
    (same : files'.read (place base explicit) = files.read (place base explicit)) :
    load files' base' explicit = load files base explicit := by
  cases read : files.read (place base explicit) with
  | ok text =>
      rw [read, ← places] at same
      rw [load_of_read read, load_of_read same, places]
  | error fault =>
      rw [read, ← places] at same
      by_cases absent : fault = .notFound ∧ explicit = none
      · obtain ⟨missing, none⟩ := absent
        rw [load_of_absent none (missing ▸ same), load_of_absent none (missing ▸ read)]
      · rw [load_of_unread read (not_and.mp absent), load_of_unread same (not_and.mp absent),
          places]

/-- **Loading a configuration is judged by one path.** With a path that is given, nothing but this
path counts, and loading fails if it cannot be read; without one it is the usual name in the
directory, and the defaults are taken exactly if that leads to nothing. What can be read is taken if
all its keys are known, all its values can be read and no bound is violated; of several violations
the first one is told, in the order of `Defect.all`. -/
theorem load_judged (files : FileTree) (base : String) (explicit : Option String) :
    (∀ result, load files base explicit = result ↔ Loads files base explicit result) ∧
    (∀ c, load files base explicit = .ok c →
      c.Sound ∧ ∀ text, files.read (place base explicit) = .ok text → KnowsKeys text) ∧
    (∀ files', files'.read (place base explicit) = files.read (place base explicit) →
      load files' base explicit = load files base explicit) ∧
    ∀ path, explicit = some path → ∀ base',
      load files base' explicit = load files base explicit := by
  refine ⟨fun _ => load_eq_iff, fun c => (loads_load files base explicit).sound,
    fun files' => load_congr rfl, ?_⟩
  intro path given base'
  subst given
  exact load_congr rfl rfl

end Config

end ProfileAudit
