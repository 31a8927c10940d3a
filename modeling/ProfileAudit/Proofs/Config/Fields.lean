import Mathlib.Logic.Function.Basic
import ProfileAudit.Config
import ProfileAudit.Proofs.Names

/-!
# The fields of a configuration

A text gives values to some of the fields (`Config.Gives`), and leaves out the others. What is read
from it is a configuration in which the values that are given have taken the place of those that
were there before (`Config.ofText?_eq_some_iff`); each field is looked at on its own
(`Config.value?_overriddenBy`).
-/

namespace ProfileAudit.Config

/-! ## Fields and values -/

/-- The fields of a configuration. -/
inductive Field where
  | runTimeout | requestTimeout | cardinalityConcurrency | reportDir | profileLabel
  deriving DecidableEq

namespace Field

def all : List Field :=
  [runTimeout, requestTimeout, cardinalityConcurrency, reportDir, profileLabel]

/-- The key under which the field is written. -/
def name : Field → String
  | runTimeout => "run_timeout"
  | requestTimeout => "request_timeout"
  | cardinalityConcurrency => "cardinality_concurrency"
  | reportDir => "report_dir"
  | profileLabel => "profile_label"

/-- What the field holds; durations are nanoseconds. -/
abbrev Value : Field → Type
  | runTimeout | requestTimeout | cardinalityConcurrency => Nat
  | reportDir | profileLabel => String

/-- The value of the field that is written as some value of a document. -/
def read? : (f : Field) → Toml.Value → Option f.Value
  | runTimeout | requestTimeout => duration?
  | cardinalityConcurrency => natural?
  | reportDir | profileLabel => text?

theorem eq_of_name {f g : Field} (same : f.name = g.name) : f = g := by
  revert same
  cases f <;> cases g <;> decide

end Field

/-- What a field holds, if it holds anything. -/
def value? (c : Config) : (f : Field) → Option f.Value
  | .runTimeout => some c.runTimeout
  | .requestTimeout => some c.requestTimeout
  | .cardinalityConcurrency => some c.cardinalityConcurrency
  | .reportDir => c.reportDir
  | .profileLabel => some c.profileLabel

/-- A configuration is what its fields hold. -/
theorem eq_of_value? {c d : Config} (same : ∀ f, c.value? f = d.value? f) : c = d := by
  have run := Option.some.inj (same .runTimeout)
  have request := Option.some.inj (same .requestTimeout)
  have concurrency := Option.some.inj (same .cardinalityConcurrency)
  have dir := same .reportDir
  have label := Option.some.inj (same .profileLabel)
  cases c
  cases d
  congr

/-- Values for some of the fields. -/
abbrev Given := (f : Field) → Option f.Value

/-- A value for one field alone. -/
def Given.only (f : Field) (v : f.Value) : Given := Function.update (fun _ => none) f (some v)

/-- The configuration in which the values that are given take the place of its own. -/
def overriddenBy (c : Config) (g : Given) : Config where
  runTimeout := (g .runTimeout).getD c.runTimeout
  requestTimeout := (g .requestTimeout).getD c.requestTimeout
  cardinalityConcurrency := (g .cardinalityConcurrency).getD c.cardinalityConcurrency
  reportDir := (g .reportDir).or c.reportDir
  profileLabel := (g .profileLabel).getD c.profileLabel

/-- A field holds what is given for it, and what it held before if nothing is. -/
theorem value?_overriddenBy (c : Config) (g : Given) (f : Field) :
    (c.overriddenBy g).value? f = (g f).or (c.value? f) := by
  cases f with
  | reportDir => rfl
  | _ => exact (Option.or_some ..).symm

/-! ## Members of a text -/

/-- A member whose key is the name of a field sets this field. -/
theorem setField_name (c : Config) (f : Field) (w : Toml.Value) :
    setField c (f.name, w) = (f.read? w).map fun v => c.overriddenBy (.only f v) := by
  rw [Option.map_eq_bind]
  cases f <;> rfl

/-- There are no other keys. -/
theorem setField_other {key : String} (other : ∀ f : Field, key ≠ f.name) (c : Config)
    (w : Toml.Value) : setField c (key, w) = none := by
  apply setField.eq_6
  · exact fun _ is => other .runTimeout (congrArg Prod.fst is)
  · exact fun _ is => other .requestTimeout (congrArg Prod.fst is)
  · exact fun _ is => other .cardinalityConcurrency (congrArg Prod.fst is)
  · exact fun _ is => other .reportDir (congrArg Prod.fst is)
  · exact fun _ is => other .profileLabel (congrArg Prod.fst is)

/-- The fields for which the members of a text give values. -/
structure Given.WrittenAs (g : Given) (members : List (String × Toml.Value)) : Prop where
  /-- Every member gives a value to a field. -/
  known : ∀ m ∈ members, ∃ f : Field, m.1 = f.name ∧ (f.read? m.2).isSome = true
  given : ∀ f v, g f = some v ↔ ∃ w, (f.name, w) ∈ members ∧ f.read? w = some v

namespace Given.WrittenAs

variable {g h : Given} {members : List (String × Toml.Value)} {f : Field} {v : f.Value}
  {w : Toml.Value}

theorem unique (first : g.WrittenAs members) (second : h.WrittenAs members) : g = h :=
  funext fun f => Option.ext fun v => (first.given f v).trans (second.given f v).symm

theorem nil : Given.WrittenAs (fun _ => none) [] :=
  ⟨nofun, fun _ _ => iff_of_false nofun fun ⟨_, member, _⟩ => by cases member⟩

theorem eq_none (writes : g.WrittenAs members) (absent : f.name ∉ members.map (·.1)) :
    g f = none := by
  refine Option.eq_none_iff_forall_ne_some.mpr fun v given => absent ?_
  obtain ⟨w, member, -⟩ := (writes.given f v).mp given
  exact List.mem_map_of_mem (f := (·.1)) member

/-- A further member gives its field a value, and leaves the others as they are. -/
theorem cons (writes : g.WrittenAs members) (absent : f.name ∉ members.map (·.1))
    (read : f.read? w = some v) :
    Given.WrittenAs (Function.update g f (some v)) ((f.name, w) :: members) := by
  refine ⟨List.forall_mem_cons.mpr ⟨⟨f, rfl, by rw [read]; rfl⟩, writes.known⟩, fun e u => ?_⟩
  by_cases same : e = f
  · subst same
    rw [Function.update_self]
    constructor
    · intro is
      cases is
      exact ⟨w, List.mem_cons_self, read⟩
    · intro h
      obtain ⟨w', member, read'⟩ := h
      rcases List.mem_cons.mp member with is | again
      · cases is
        exact read.symm.trans read'
      · exact absurd (List.mem_map_of_mem (f := (·.1)) again) absent
  · have passed (w' : Toml.Value) : (e.name, w') ∈ (f.name, w) :: members ↔
        (e.name, w') ∈ members := by
      refine List.mem_cons.trans (or_iff_right fun is => same ?_)
      exact Field.eq_of_name (congrArg Prod.fst is)
    rw [Function.update_of_ne same, writes.given]
    exact exists_congr fun w' => and_congr_left fun _ => (passed w').symm

end Given.WrittenAs

/-- The value that is set last is not touched by the values for other fields. -/
theorem overriddenBy_only_overriddenBy {g : Given} {f : Field} (absent : g f = none) (c : Config)
    (v : f.Value) : (c.overriddenBy (.only f v)).overriddenBy g =
      c.overriddenBy (Function.update g f (some v)) := by
  refine eq_of_value? fun e => ?_
  rw [value?_overriddenBy, value?_overriddenBy, value?_overriddenBy, Given.only]
  by_cases same : e = f
  · subst same
    rw [absent, Function.update_self, Function.update_self]
    rfl
  · rw [Function.update_of_ne same, Function.update_of_ne same]
    rfl

/-- Members of different keys set one field each. -/
theorem exists_foldlM_setField {members : List (String × Toml.Value)}
    (once : (members.map (·.1)).Nodup)
    (known : ∀ m ∈ members, ∃ f : Field, m.1 = f.name ∧ (f.read? m.2).isSome = true) (c : Config) :
    ∃ g : Given, g.WrittenAs members ∧ members.foldlM setField c = some (c.overriddenBy g) := by
  induction members generalizing c with
  | nil => exact ⟨_, .nil, rfl⟩
  | cons m members ih =>
      obtain ⟨key, w⟩ := m
      obtain ⟨fresh, apart⟩ := List.nodup_cons.mp once
      obtain ⟨⟨f, is, reads⟩, others⟩ := List.forall_mem_cons.mp known
      obtain ⟨v, read⟩ := Option.isSome_iff_exists.mp reads
      change key = f.name at is
      subst is
      obtain ⟨g, writes, folds⟩ := ih apart others (c.overriddenBy (.only f v))
      refine ⟨_, writes.cons fresh read, ?_⟩
      rw [List.foldlM_cons, setField_name, read, ← overriddenBy_only_overriddenBy
        (writes.eq_none fresh)]
      exact folds

/-- A member that sets no field makes the whole text unreadable. -/
theorem known_of_foldlM {members : List (String × Toml.Value)} {c d : Config}
    (folds : members.foldlM setField c = some d) :
    ∀ m ∈ members, ∃ f : Field, m.1 = f.name ∧ (f.read? m.2).isSome = true := by
  induction members generalizing c with
  | nil => nofun
  | cons m members ih =>
      obtain ⟨key, w⟩ := m
      rw [List.foldlM_cons] at folds
      obtain ⟨c', set, folds⟩ := Option.bind_eq_some_iff.mp folds
      refine List.forall_mem_cons.mpr ⟨?_, ih folds⟩
      by_cases some : ∃ f : Field, key = f.name
      · obtain ⟨f, is⟩ := some
        subst is
        rw [setField_name] at set
        obtain ⟨v, read, -⟩ := Option.map_eq_some_iff.mp set
        exact ⟨f, rfl, by rw [read]; rfl⟩
      · rw [setField_other (not_exists.mp some)] at set
        cases set

/-! ## Texts -/

/-- The text gives these values to fields, and has nothing else in it. -/
def Gives (text : String) (g : Given) : Prop :=
  ∃ members, Toml.members? text = some members ∧ g.WrittenAs members

variable {text : String} {g h : Given} {c : Config}

/-- A text leaves no choice of what it gives. -/
theorem Gives.unique (first : Gives text g) (second : Gives text h) : g = h := by
  obtain ⟨members, read, writes⟩ := first
  obtain ⟨members', read', writes'⟩ := second
  cases read.symm.trans read'
  exact writes.unique writes'

theorem nodup_of_members? {members : List (String × Toml.Value)}
    (read : Toml.members? text = some members) : (members.map (·.1)).Nodup := by
  obtain ⟨ms, -, kept⟩ := Option.bind_eq_some_iff.mp read
  split at kept
  · next all =>
      cases kept
      rw [← length_eraseDups_eq_iff, all, List.length_map]
  · cases kept

/-- **A text is read field by field.** What is read from it is the configuration with nothing given,
overridden with the values that the text gives. -/
theorem ofText?_eq_some_iff :
    ofText? text = some c ↔ ∃ g, Gives text g ∧ c = ({} : Config).overriddenBy g := by
  constructor
  · intro read
    obtain ⟨members, document, folds⟩ := Option.bind_eq_some_iff.mp read
    obtain ⟨g, writes, folds'⟩ := exists_foldlM_setField (nodup_of_members? document)
      (known_of_foldlM folds) {}
    exact ⟨g, ⟨members, document, writes⟩, Option.some.inj (folds.symm.trans folds')⟩
  · intro gives
    obtain ⟨g, ⟨members, document, writes⟩, is⟩ := gives
    obtain ⟨g', writes', folds⟩ := exists_foldlM_setField (nodup_of_members? document)
      writes.known {}
    rw [is, writes.unique writes', ← folds, ofText?, document]
    rfl

/-- A text that cannot be read gives no values. -/
theorem ofText?_eq_none_iff : ofText? text = none ↔ ∀ g, ¬ Gives text g := by
  rw [Option.eq_none_iff_forall_ne_some]
  constructor
  · exact fun none g gives => none _ (ofText?_eq_some_iff.mpr ⟨g, gives, rfl⟩)
  · intro none c read
    obtain ⟨g, gives, -⟩ := ofText?_eq_some_iff.mp read
    exact none g gives

/-! ## The defaults -/

set_option maxRecDepth 20000 in
theorem members?_defaultText : Toml.members? defaultText = some
    [("run_timeout", .text "5m"), ("request_timeout", .text "60s"),
      ("cardinality_concurrency", .integer 0),
      ("profile_label", .text "monitoring.openshift.io/collection-profile")] := by
  unfold defaultText
  -- The unifier spells the text out at once; `String.toList` is slow on a literal of this length.
  change Toml.members? (String.ofList _) = _
  rw [Toml.members?, String.toList_ofList]
  decide +kernel

/-- The file that is written for a start gives every field its default, if it has one. -/
theorem gives_defaultText : Gives defaultText ({} : Config).value? := by
  have label := Given.WrittenAs.nil.cons (f := .profileLabel)
    (w := .text "monitoring.openshift.io/collection-profile") List.not_mem_nil rfl
  have concurrency := label.cons (f := .cardinalityConcurrency) (w := .integer 0) (v := 0)
    (by decide) rfl
  have request := concurrency.cons (f := .requestTimeout) (w := .text "60s") (v := 60 * second)
    (by decide) (by decide +kernel)
  have run := request.cons (f := .runTimeout) (w := .text "5m") (v := 300 * second)
    (by decide) (by decide +kernel)
  refine ⟨_, members?_defaultText, Eq.mp (congrArg (Given.WrittenAs · _) (funext fun f => ?_)) run⟩
  cases f <;> rfl

/-- The file that is written for a start holds what is taken where a file is silent. -/
theorem ofText?_defaultText : ofText? defaultText = some {} := by
  refine ofText?_eq_some_iff.mpr ⟨_, gives_defaultText, eq_of_value? fun f => ?_⟩
  rw [value?_overriddenBy, Option.or_self]

theorem default_eq : default = {} := by
  rw [default, ofText?_defaultText]
  rfl

end ProfileAudit.Config
