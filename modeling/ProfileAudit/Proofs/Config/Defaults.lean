import ProfileAudit.Proofs.Config.Loading
import ProfileAudit.Proofs.Files
import ProfileAudit.Proofs.HumanDuration
import ProfileAudit.Proofs.Toml

/-!
# What a configuration file leaves out

A file may give any of the fields values that its field admits (`Config.Given.Admissible`), and
there is such a file for any choice of them (`Config.exists_gives`). What is loaded from it is the
configuration that is taken where there is no file, with the values that are given in place of its
own (`Config.load_overrides`). Other values are not taken (`Config.admissible_of_load`).
-/

namespace ProfileAudit.Config

/-- A run can follow a configuration with this value for the field. -/
def Field.Admits : (f : Field) → f.Value → Prop
  | runTimeout, t | requestTimeout, t => 0 < t ∧ t ≤ 7 * 24 * 60 * 60 * second
  | cardinalityConcurrency, n => n < Nat.pow 2 64
  | reportDir, _ => True
  | profileLabel, s => ∃ c ∈ s.toList, isBlank c = false

/-- Every value that is given is admitted by its field. -/
def Given.Admissible (g : Given) : Prop := ∀ f v, g f = some v → f.Admits v

variable {g : Given} {c : Config} {text : String}

/-! ## Values that are taken -/

theorem sound_of_admits (all : ∀ f v, c.value? f = some v → f.Admits v) : c.Sound where
  runs := (all .runTimeout c.runTimeout rfl).1
  requests := (all .requestTimeout c.requestTimeout rfl).1
  runEnds := (all .runTimeout c.runTimeout rfl).2
  requestEnds := (all .requestTimeout c.requestTimeout rfl).2
  labelled := all .profileLabel c.profileLabel rfl

theorem Sound.admits (sound : c.Sound) (word : c.cardinalityConcurrency < Nat.pow 2 64)
    {f : Field} {v : f.Value} (holds : c.value? f = some v) : f.Admits v := by
  cases f with
  | runTimeout => exact Option.some.inj holds ▸ ⟨sound.runs, sound.runEnds⟩
  | requestTimeout => exact Option.some.inj holds ▸ ⟨sound.requests, sound.requestEnds⟩
  | cardinalityConcurrency => exact Option.some.inj holds ▸ word
  | reportDir => trivial
  | profileLabel => exact Option.some.inj holds ▸ sound.labelled

/-- Values that are admitted can take the place of the defaults. -/
theorem Given.Admissible.sound (fits : g.Admissible) : (default.overriddenBy g).Sound := by
  refine sound_of_admits fun f v holds => ?_
  rw [value?_overriddenBy] at holds
  rcases Option.or_eq_some_iff.mp holds with given | ⟨-, kept⟩
  · exact fits f v given
  · exact sound_default.admits (by rw [default_eq]; exact Nat.two_pow_pos 64) kept

theorem natural?_lt {w : Toml.Value} {n : Nat} (read : natural? w = some n) :
    n < Nat.pow 2 64 := by
  cases w with
  | text s => cases read
  | integer i =>
      obtain ⟨⟨natural, fits⟩, is⟩ := Option.ite_none_right_eq_some.mp read
      rw [← Option.some.inj is]
      exact (Int.toNat_lt natural).mpr fits

/-- There is nothing else that could be given: what a file gives is admitted if the file is
taken. -/
theorem admissible_of_load {files : FileTree} {base : String} {explicit : Option String}
    (read : files.read (place base explicit) = .ok text) (gives : Gives text g)
    (taken : load files base explicit = .ok c) : g.Admissible := by
  have sound : (default.overriddenBy g).Sound := by
    rw [load_of_read read, parse_eq _ gives, validate] at taken
    split at taken
    · next none => exact defect?_eq_none_iff.mp none
    · cases taken
  have word : (default.overriddenBy g).cardinalityConcurrency < Nat.pow 2 64 := by
    rw [overriddenBy]
    cases given : g .cardinalityConcurrency with
    | none =>
        rw [default_eq]
        exact Nat.two_pow_pos 64
    | some n =>
        obtain ⟨members, -, writes⟩ := gives
        obtain ⟨w, -, value⟩ := (writes.given .cardinalityConcurrency n).mp given
        exact natural?_lt value
  intro f v given
  refine sound.admits word ?_
  rw [value?_overriddenBy, given]
  rfl

/-! ## A text for any values -/

/-- How a value of the field is written. -/
def Field.write : (f : Field) → f.Value → Toml.Value
  | runTimeout, t | requestTimeout, t => .text (HumanDuration.nanoseconds t)
  | cardinalityConcurrency, n => .integer n
  | reportDir, s | profileLabel, s => .text s

theorem Field.read?_write {f : Field} {v : f.Value} (fits : f.Admits v) :
    f.read? (f.write v) = some v := by
  have week : 7 * 24 * 60 * 60 * second < Nat.pow 2 64 := by decide
  cases f with
  | runTimeout => exact HumanDuration.ofText?_nanoseconds (Nat.lt_of_le_of_lt fits.2 week)
  | requestTimeout => exact HumanDuration.ofText?_nanoseconds (Nat.lt_of_le_of_lt fits.2 week)
  | cardinalityConcurrency =>
      have word : (v : Int) < Int.pow 2 64 := by
        have bound : Int.pow 2 64 = (Nat.pow 2 64 : Nat) := by decide
        rw [bound]
        exact Int.ofNat_lt.mpr fits
      change natural? (.integer v) = some v
      rw [natural?, if_pos ⟨Int.natCast_nonneg v, word⟩, Int.toNat_natCast]
  | reportDir => rfl
  | profileLabel => rfl

theorem Field.unsigned_write (f : Field) (v : f.Value) : Toml.Unsigned (f.write v) := by
  cases f with
  | cardinalityConcurrency => exact Int.natCast_nonneg v
  | _ => trivial

theorem Field.isWord_name (f : Field) : Toml.IsWord f.name := by
  cases f <;> exact ⟨by decide, List.all_eq_true.mp (by decide)⟩

theorem Field.mem_all (f : Field) : f ∈ Field.all := by
  cases f <;> decide

/-- The members of a document that gives these values. -/
def Given.members (g : Given) : List (String × Toml.Value) :=
  Field.all.filterMap fun f => (g f).map fun v => (f.name, f.write v)

theorem Given.mem_members {m : String × Toml.Value} :
    m ∈ g.members ↔ ∃ (f : Field) (v : f.Value), g f = some v ∧ m = (f.name, f.write v) := by
  unfold members
  rw [List.mem_filterMap]
  constructor
  · intro h
    obtain ⟨f, -, written⟩ := h
    obtain ⟨v, given, is⟩ := Option.map_eq_some_iff.mp written
    exact ⟨f, v, given, is.symm⟩
  · intro h
    obtain ⟨f, v, given, is⟩ := h
    exact ⟨f, f.mem_all, by rw [given, is]; rfl⟩

theorem Given.nodup_members (g : Given) : (g.members.map (·.1)).Nodup := by
  have apart : Field.all.Pairwise fun f e => f.name ≠ e.name := by decide
  rw [List.Nodup, List.pairwise_map, members, List.pairwise_filterMap]
  refine apart.imp fun {f e} other m written m' written' same => other ?_
  obtain ⟨v, -, is⟩ := Option.map_eq_some_iff.mp written
  obtain ⟨v', -, is'⟩ := Option.map_eq_some_iff.mp written'
  rw [← is, ← is'] at same
  exact same

theorem Given.Admissible.writtenAs_members (fits : g.Admissible) : g.WrittenAs g.members := by
  refine ⟨fun m member => ?_, fun f v => ⟨fun given => ?_, fun written => ?_⟩⟩
  · obtain ⟨f, v, given, rfl⟩ := Given.mem_members.mp member
    exact ⟨f, rfl, by rw [Field.read?_write (fits f v given)]; rfl⟩
  · exact ⟨f.write v, Given.mem_members.mpr ⟨f, v, given, rfl⟩, Field.read?_write (fits f v given)⟩
  · obtain ⟨w, member, read⟩ := written
    obtain ⟨e, u, given, is⟩ := Given.mem_members.mp member
    obtain ⟨name, rfl⟩ := Prod.mk.inj is
    cases Field.eq_of_name name
    rw [given, ← Field.read?_write (fits f u given), read]

/-- Some text gives these values. -/
theorem exists_gives (fits : g.Admissible) : ∃ text, Gives text g := by
  refine ⟨Toml.document g.members, g.members, ?_, fits.writtenAs_members⟩
  refine Toml.members?_document (fun m member => ?_) (fun m member => ?_) g.nodup_members
  · obtain ⟨f, v, -, rfl⟩ := Given.mem_members.mp member
    exact f.isWord_name
  · obtain ⟨f, v, -, rfl⟩ := Given.mem_members.mp member
    exact f.unsigned_write v

/-! ## Loading -/

/-- The file that is written for a start configures a run as if there was none. -/
theorem load_saveDefault {files files' : FileTree} {path : String}
    (saved : saveDefault files path = (files', .ok ())) (base : String) :
    load files' base (some path) = .ok default := by
  unfold saveDefault at saved
  split at saved
  · next written wrote =>
      cases saved
      have read : files'.read (place base (some path)) = .ok defaultText :=
        FileTree.read_of_write wrote
      have same : default.overriddenBy ({} : Config).value? = default := by
        refine eq_of_value? fun f => ?_
        rw [value?_overriddenBy, default_eq, Option.or_self]
      rw [load_of_read read, parse_eq _ gives_defaultText, same, validate_of_sound sound_default]
  · cases saved

/-- **What a file leaves out is as if there was no file.** Admitted values can be given to any of
the fields in some text. Whatever text gives them, what is loaded is the configuration that is taken
where there is no file, overridden with these values: each field holds what is given for it, and
otherwise what it holds in the file that is written for a start, no matter what is given for other
fields. -/
theorem load_overrides (fits : g.Admissible) (base : String) (explicit : Option String) :
    (∃ text, Gives text g) ∧
    (∀ text files, Gives text g → files.read (place base explicit) = .ok text →
      load files base explicit = .ok (default.overriddenBy g)) ∧
    (∀ files, files.find (place base none) = .error .notFound →
      load files base none = .ok default) ∧
    ofText? defaultText = some default ∧ Gives defaultText default.value? ∧
    (∀ f, (default.overriddenBy g).value? f = (g f).or (default.value? f)) ∧
    ∀ other f, other f = g f →
      (default.overriddenBy other).value? f = (default.overriddenBy g).value? f := by
  refine ⟨exists_gives fits, fun text files gives read => ?_, fun files missing => ?_, ?_, ?_,
    value?_overriddenBy default g, fun other f same => ?_⟩
  · rw [load_of_read read, parse_eq _ gives, validate_of_sound fits.sound]
  · exact load_of_absent rfl (FileTree.read_eq_notFound_iff.mpr missing)
  · rw [default_eq, ofText?_defaultText]
  · rw [default_eq]
    exact gives_defaultText
  · rw [value?_overriddenBy, value?_overriddenBy, same]

/-- A file that gives nothing but the timeout of a run, in minutes and seconds. -/
theorem load_overrides_timeout :
    Given.Admissible (.only .runTimeout (90 * second)) ∧
    load ⟨[(["cpv.toml"], .file (.text "run_timeout = \"1m 30s\"\n"))], []⟩ "" none =
      .ok (default.overriddenBy (.only .runTimeout (90 * second))) := by
  have fits : Given.Admissible (.only .runTimeout (90 * second)) := by
    intro f v given
    by_cases same : f = .runTimeout
    · subst same
      cases given
      exact ⟨by decide, by decide⟩
    · rw [Given.only, Function.update_of_ne same] at given
      cases given
  have gives : Gives "run_timeout = \"1m 30s\"\n" (.only .runTimeout (90 * second)) :=
    ⟨[("run_timeout", .text "1m 30s")], by decide +kernel,
      Given.WrittenAs.nil.cons List.not_mem_nil (by decide +kernel)⟩
  exact ⟨fits, (load_overrides fits "" none).2.1 _ _ gives (by decide +kernel)⟩

end ProfileAudit.Config
