import Mathlib.Data.List.Nodup
import Mathlib.Data.List.ProdSigma
import ProfileAudit.Profile.Listing
import ProfileAudit.Proofs.Course
import ProfileAudit.Proofs.Monitor.Selector

/-!
# The monitors of a profile

The monitors of a profile are listed by each kind and each selector of the profile in turn. The
selectors of a profile pick monitors with different values of the label, so no monitor is listed
twice, and together they pick all that the profile includes. No monitor is included by two
profiles (`monitors_partition`).
-/

namespace ProfileAudit

namespace CollectionProfile

/-! ## What a profile includes -/

/-- The values of the label, or none at all, by which a monitor is one of the profile. -/
def values (p : CollectionProfile) (noisy : Bool) : List (Option String) :=
  if noisy && p.isDefault then [some p.name, none] else [some p.name]

/-- The monitor is one of the profile: its label names the profile, or it has no label and such
monitors count for the default profile. -/
def Includes (p : CollectionProfile) (noisy : Bool) (m : Monitor) : Prop :=
  m.profile = some p.name ∨ m.profile = none ∧ p = .default ∧ noisy = true

instance (p : CollectionProfile) (noisy : Bool) (m : Monitor) : Decidable (p.Includes noisy m) :=
  inferInstanceAs (Decidable (_ ∨ _))

/-- The kinds and values that a profile is listed by, in this order. -/
def places (p : CollectionProfile) (noisy : Bool) : List (MonitorKind × Option String) :=
  MonitorKind.all ×ˢ p.values noisy

/-- The kinds and selectors that a profile is listed by, in this order. -/
def listings (p : CollectionProfile) (settings : ProfileSettings) : List (MonitorKind × String) :=
  MonitorKind.all ×ˢ p.selectors settings.label settings.noisy

variable {p q : CollectionProfile} {noisy : Bool} {m : Monitor} {label : String}

theorem mem_values_iff : m.profile ∈ p.values noisy ↔ p.Includes noisy m := by
  cases noisy <;> cases p <;> simp [values, Includes, isDefault, default]

theorem nodup_values (p : CollectionProfile) (noisy : Bool) : (p.values noisy).Nodup := by
  cases p <;> cases noisy <;> decide

theorem mem_places_iff : (m.kind, m.profile) ∈ p.places noisy ↔ p.Includes noisy m := by
  have any : m.kind ∈ MonitorKind.all := by cases m.kind <;> decide
  rw [places, List.mem_product, mem_values_iff, and_iff_right any]

theorem nodup_places (p : CollectionProfile) (noisy : Bool) : (p.places noisy).Nodup :=
  .product (by decide) (p.nodup_values noisy)

theorem selectors_eq (p : CollectionProfile) (label : String) (noisy : Bool) :
    p.selectors label noisy = (p.values noisy).map (selectorFor label) := by
  cases p <;> cases noisy <;> rfl

theorem isLabelText_of_mem_values {value : Option String} (member : value ∈ p.values noisy) :
    ∀ v ∈ value, IsLabelText v := by
  cases p <;> cases noisy <;> revert value <;> decide

theorem includes_minimal_iff : minimal.Includes noisy m ↔ m.profile = some "minimal" := by
  simp [Includes, default, name]

theorem eq_of_name (same : p.name = q.name) : p = q := by
  cases p <;> cases q <;> first | rfl | exact absurd same (by decide)

/-- A label names one profile, and a monitor without it is in the default profile only. -/
theorem Includes.unique (first : p.Includes noisy m) (second : q.Includes noisy m) : p = q := by
  rcases first with named | ⟨unnamed, rfl, -⟩
  · rcases second with other | ⟨unnamed, -, -⟩
    · exact eq_of_name (Option.some.inj (named.symm.trans other))
    · cases named.symm.trans unnamed
  · rcases second with named | ⟨-, rfl, -⟩
    · cases unnamed.symm.trans named
    · rfl

end CollectionProfile

/-! ## Listing -/

/-- What a source answers to some listings, one answer after the other. -/
inductive Answers (source : MonitorSource) :
    List (MonitorKind × String) → List Monitor → Prop
  | nil : Answers source [] []
  | cons {kind : MonitorKind} {selector : String} {m : Moment} {delay : Nat}
    {found ms : List Monitor} {listings : List (MonitorKind × String)} :
    source.list kind selector m = .after delay (.ok found) → Answers source listings ms →
    Answers source ((kind, selector) :: listings) (found ++ ms)

theorem Answers.append {source : MonitorSource} {listings listings' : List (MonitorKind × String)}
    {ms ms' : List Monitor} (first : Answers source listings ms)
    (second : Answers source listings' ms') :
    Answers source (listings ++ listings') (ms ++ ms') := by
  induction first with
  | nil => exact second
  | cons answer _ ih =>
      rw [List.append_assoc]
      exact .cons answer ih

/-- The calls of some listings. -/
def plannedListings (source : MonitorSource) (what : MonitorKind → String)
    (listings : List (MonitorKind × String)) : List PlannedCall :=
  listings.map fun l => .of (what l.1) (.list l.1 l.2) (source.list l.1 l.2)

namespace CollectionProfile

/-- What the listing of a kind is called. -/
def listing (p : CollectionProfile) (kind : MonitorKind) : String :=
  s!"listing {kind.name}s for the {p.name} profile"

/-- The calls by which a profile is listed. -/
def plannedListings (p : CollectionProfile) (source : MonitorSource) (settings : ProfileSettings) :
    List PlannedCall :=
  ProfileAudit.plannedListings source p.listing (p.listings settings)

end CollectionProfile

namespace Follows

variable {s : Surroundings}

theorem listBySelectors (source : MonitorSource) (what : MonitorKind → String)
    (kind : MonitorKind) (selectors : List String) :
    Follows s (ProfileAudit.listBySelectors source (what kind) kind selectors)
      (plannedListings source what (selectors.map (kind, ·)))
      (Answers source (selectors.map (kind, ·))) := by
  induction selectors with
  | nil => exact .pure .nil
  | cons selector selectors ih =>
      refine .bind (.call (what kind) (.list kind selector) _) fun found answered => ?_
      obtain ⟨m, delay, answer⟩ := answered
      exact ih.bind_pure fun ms rest => .cons answer rest

theorem listKinds (p : CollectionProfile) (source : MonitorSource) (settings : ProfileSettings)
    (kinds : List MonitorKind) :
    Follows s (p.listKinds source settings kinds)
      (plannedListings source p.listing (kinds ×ˢ p.selectors settings.label settings.noisy))
      (Answers source (kinds ×ˢ p.selectors settings.label settings.noisy)) := by
  induction kinds with
  | nil => exact .pure .nil
  | cons kind kinds ih =>
      rw [List.product_cons, plannedListings, List.map_append]
      refine .bind (.listBySelectors source p.listing kind _) fun found first => ?_
      exact ih.bind_pure fun ms rest => first.append rest

/-- The monitors of a profile are what the source answers to its listings. -/
theorem monitors (p : CollectionProfile) (source : MonitorSource) (settings : ProfileSettings) :
    Follows s (p.monitors source settings) (p.plannedListings source settings)
      (Answers source (p.listings settings)) :=
  .listKinds p source settings MonitorKind.all

end Follows

/-! ## What is listed -/

section

variable {source : MonitorSource} {settings : ProfileSettings} {cluster ms : List Monitor}

/-- A source that tells the truth answers to some listings what their selectors pick. -/
theorem Answers.picked {label : String} {listings : List (MonitorKind × String)}
    {same : List Monitor → List Monitor → Prop} (answers : Answers source listings ms)
    (tells : source.Tells label same cluster) (speaks : ∀ l ∈ listings, SpeaksOf label l.2)
    (empty : same [] [])
    (append : ∀ {as bs cs ds}, same as bs → same cs ds → same (as ++ cs) (bs ++ ds)) :
    same ms (listings.flatMap fun l => Monitor.selected cluster l.1 l.2) := by
  induction answers with
  | nil => exact empty
  | @cons kind selector m delay found _ _ answer _ ih =>
      rw [List.flatMap_cons]
      refine append ?_ (ih fun l member => speaks l (List.mem_cons_of_mem _ member))
      exact tells kind selector (speaks _ List.mem_cons_self) m delay found answer

namespace CollectionProfile

theorem speaksOf_listings (p : CollectionProfile) (key : IsLabelText settings.label) :
    ∀ l ∈ p.listings settings, SpeaksOf settings.label l.2 := by
  intro l member
  rw [listings, selectors_eq] at member
  obtain ⟨value, listed, made⟩ := List.mem_map.mp (List.mem_product.mp member).2
  exact made ▸ speaksOf_selectorFor key (isLabelText_of_mem_values listed)

/-- A source that serves the label answers every listing. -/
theorem answers_plannedListings (p : CollectionProfile) (key : IsLabelText settings.label)
    (serves : source.Serves settings.label) :
    ∀ c ∈ p.plannedListings source settings, ∀ m, ∃ delay, c.reaction m = .after delay (.ok ()) := by
  intro c planned m
  obtain ⟨l, listed, rfl⟩ := List.mem_map.mp planned
  obtain ⟨delay, found, answer⟩ := serves l.1 l.2 (p.speaksOf_listings key l listed) m
  exact ⟨delay, PlannedCall.reaction_of answer⟩

/-- The monitors of a cluster at the places of a profile, one place after the other. -/
def inPlaces (p : CollectionProfile) (noisy : Bool) (cluster : List Monitor) : List Monitor :=
  (p.places noisy).flatMap fun place => cluster.filter fun m => (m.kind, m.profile) == place

theorem flatMap_selected (p : CollectionProfile) (key : IsLabelText settings.label)
    (cluster : List Monitor) :
    ((p.listings settings).flatMap fun l => Monitor.selected cluster l.1 l.2) =
      p.inPlaces settings.noisy cluster := by
  rw [listings, selectors_eq, inPlaces, places]
  induction MonitorKind.all with
  | nil => rfl
  | cons kind kinds ih =>
      rw [List.product_cons, List.product_cons, List.flatMap_append, List.flatMap_append, ih]
      simp only [List.flatMap_map, selected_selectorFor key]

end CollectionProfile

/-- The elements with the keys of a list, one key after the other, are those with a key in it. -/
theorem flatMap_filter_perm {α κ : Type} [BEq κ] [LawfulBEq κ] (key : α → κ) (as : List α)
    {keys : List κ} (nodup : keys.Nodup) :
    (keys.flatMap fun k => as.filter (key · == k)).Perm (as.filter (key · ∈ keys)) := by
  induction keys with
  | nil => simp
  | cons k keys ih =>
      rw [List.nodup_cons] at nodup
      rw [List.flatMap_cons]
      have own : as.filter (key · == k) =
          (as.filter (key · ∈ k :: keys)).filter (key · == k) := by
        rw [List.filter_filter]
        refine List.filter_congr fun a _ => ?_
        by_cases same : key a = k <;> simp [same]
      have others : as.filter (key · ∈ keys) =
          (as.filter (key · ∈ k :: keys)).filter fun a => !(key a == k) := by
        rw [List.filter_filter]
        refine List.filter_congr fun a _ => ?_
        by_cases same : key a = k <;> simp [same, nodup.1]
      refine ((ih nodup.2).append_left _).trans ?_
      rw [own, others]
      exact List.filter_append_perm _ _

theorem CollectionProfile.inPlaces_perm (p : CollectionProfile) (noisy : Bool)
    (cluster : List Monitor) :
    (p.inPlaces noisy cluster).Perm (cluster.filter fun m => p.Includes noisy m) := by
  refine (flatMap_filter_perm (fun m : Monitor => (m.kind, m.profile)) cluster
    (p.nodup_places noisy)).trans (.of_eq (List.filter_congr fun m _ => ?_))
  exact decide_eq_decide.mpr mem_places_iff

theorem CollectionProfile.mem_inPlaces_iff {p : CollectionProfile} {noisy : Bool} {m : Monitor} :
    m ∈ p.inPlaces noisy cluster ↔ m ∈ cluster ∧ p.Includes noisy m := by
  rw [(p.inPlaces_perm noisy cluster).mem_iff, List.mem_filter, decide_eq_true_iff]

namespace Answers

variable {p : CollectionProfile}

/-- In the order of the cluster, the monitors that are listed are those at the places of the
profile. -/
theorem eq_inPlaces (answers : Answers source (p.listings settings) ms)
    (key : IsLabelText settings.label) (tells : source.Tells settings.label (· = ·) cluster) :
    ms = p.inPlaces settings.noisy cluster := by
  rw [← p.flatMap_selected key]
  exact answers.picked tells (p.speaksOf_listings key) rfl fun first second =>
    congrArg₂ (· ++ ·) first second

/-- The monitors that are listed are those of the cluster that the profile includes. -/
theorem perm (answers : Answers source (p.listings settings) ms)
    (key : IsLabelText settings.label) (tells : source.Tells settings.label List.Perm cluster) :
    ms.Perm (cluster.filter fun m => p.Includes settings.noisy m) := by
  have picked := answers.picked tells (p.speaksOf_listings key) .nil List.Perm.append
  rw [p.flatMap_selected key] at picked
  exact picked.trans (p.inPlaces_perm settings.noisy cluster)

end Answers

/-! ## Partition -/

/-- **The profiles share the monitors of a cluster out.** What is listed for a profile are the
monitors that it includes, each one once, and none of them is listed for another profile; if a
listing fails there is no list at all but the failure. -/
theorem monitors_partition (key : IsLabelText settings.label)
    (tells : source.Tells settings.label List.Perm cluster) (p : CollectionProfile)
    (s : Surroundings) (j : Journal) :
    (∃ failure k, Course s (p.plannedListings source settings) j (some failure) k ∧
      p.monitors source settings s j = (.error failure, k)) ∨
    ∃ ms k, Course s (p.plannedListings source settings) j none k ∧
      p.monitors source settings s j = (.ok ms, k) ∧
      ms.Perm (cluster.filter fun m => p.Includes settings.noisy m) ∧
      (cluster.Nodup → ∀ m ∈ cluster, ms.count m = if p.Includes settings.noisy m then 1 else 0) ∧
      ∀ q ≠ p, ∀ s' j' ms', (q.monitors source settings s' j').1 = .ok ms' → ms.Disjoint ms' := by
  have listed (q : CollectionProfile) (s : Surroundings) (j : Journal) {ms : List Monitor}
      (ok : (q.monitors source settings s j).1 = .ok ms) :
      ms.Perm (cluster.filter fun m => q.Includes settings.noisy m) := by
    rcases Follows.monitors q source settings j with ⟨_, _, -, ends⟩ | ⟨_, _, -, ends, answers⟩
    · rw [ends] at ok
      cases ok
    · rw [ends] at ok
      cases ok
      exact answers.perm key tells
  rcases Follows.monitors p source settings j with failed | ⟨ms, k, course, ends, answers⟩
  · exact .inl failed
  · have perm := answers.perm key tells
    refine .inr ⟨ms, k, course, ends, perm, fun distinct m member => ?_, ?_⟩
    · rw [perm.count_eq]
      split
      · next included =>
          exact List.count_eq_one_of_mem (distinct.filter _)
            (List.mem_filter.mpr ⟨member, decide_eq_true included⟩)
      · next excluded =>
          refine List.count_eq_zero.mpr fun kept => excluded ?_
          exact of_decide_eq_true (List.mem_filter.mp kept).2
    · intro q other s' j' ms' ok m mine theirs
      have mine := (List.mem_filter.mp (perm.mem_iff.mp mine)).2
      have theirs := (List.mem_filter.mp ((listed q s' j' ok).mem_iff.mp theirs)).2
      exact other ((of_decide_eq_true theirs).unique (of_decide_eq_true mine))

/-- With a monitor of each sort, and one that names no profile of these: the default profile takes
the one that has no label too. -/
theorem monitors_partition_noisy :
    let labelled := fun (name : String) (profile : Option String) =>
      ({ name, kind := .pod, profile } : Monitor)
    let cluster := [labelled "a" (some "minimal"), labelled "b" none, labelled "c" (some "full"),
      labelled "d" (some "other")]
    let source := MonitorSource.ofList cluster 1
    let settings : ProfileSettings := { reportDir := "reports", noisy := true }
    let s : Surroundings := ⟨.start 0 9 1, default, fun _ => 0⟩
    IsLabelText settings.label ∧ source.Tells settings.label List.Perm cluster ∧
      ∃ ms, (CollectionProfile.full.monitors source settings s default).1 = .ok ms ∧
        ms.Perm [labelled "b" none, labelled "c" (some "full")] := by
  intro labelled cluster source settings s
  have key : IsLabelText settings.label := by decide
  have tells := MonitorSource.tells_ofList settings.label List.Perm.refl cluster 1
  refine ⟨key, tells, ?_⟩
  rcases monitors_partition key tells .full s default with
    ⟨failure, k, -, ends⟩ | ⟨ms, k, -, ends, perm, -⟩
  · have listed : (CollectionProfile.full.monitors source settings s default).1.toOption.isSome =
        true := by decide +kernel
    rw [ends] at listed
    cases listed
  · exact ⟨ms, congrArg Prod.fst ends, perm⟩

end

end ProfileAudit
