import Mathlib
import ProfileAudit.Proofs.Monitor.Index

/-!
# The relabeling that counts

Of all relabelings that keep metrics by their name the last one counts, in the order of the
monitors of a name, of their endpoints and of the relabelings of an endpoint. Its pattern, without
a group around it, is the entry of the name (`aggregate_keepsLast`). So the monitors that come
later override those before them, and relabelings of any other shape make no difference.
-/

namespace ProfileAudit

/-! ## The last of some elements -/

/-- The last element of a list that has some property. -/
def IsLast {α : Type} (p : α → Prop) (as : List α) (a : α) : Prop :=
  ∃ before after, as = before ++ a :: after ∧ p a ∧ ∀ b ∈ after, ¬ p b

section

variable {α β : Type} {p : α → Prop} {as : List α} {a b : α}

theorem IsLast.holds (last : IsLast p as a) : p a := by
  obtain ⟨_, _, _, holds, _⟩ := last
  exact holds

theorem isLast_concat : IsLast p (as ++ [b]) a ↔ p b ∧ a = b ∨ ¬ p b ∧ IsLast p as a := by
  constructor
  · rintro ⟨before, after, eq, holds, none⟩
    rcases List.eq_nil_or_concat after with rfl | ⟨middle, last, rfl⟩
    · obtain ⟨-, same⟩ := List.append_inj' eq rfl
      cases same
      exact .inl ⟨holds, rfl⟩
    · rw [List.concat_eq_append] at eq none
      rw [← List.cons_append, ← List.append_assoc] at eq
      obtain ⟨rfl, same⟩ := List.append_inj' eq rfl
      cases same
      refine .inr ⟨none _ (List.mem_append_right _ List.mem_cons_self), before, middle, rfl, holds,
        fun c member => none c (List.mem_append_left _ member)⟩
  · rintro (⟨holds, rfl⟩ | ⟨other, before, after, rfl, holds, none⟩)
    · exact ⟨as, [], rfl, holds, nofun⟩
    · refine ⟨before, after ++ [b], List.append_assoc .., holds, fun c member => ?_⟩
      rcases List.mem_append.mp member with inside | last
      · exact none c inside
      · rwa [List.mem_singleton.mp last]

theorem not_isLast_nil : ¬ IsLast p [] a := by
  rintro ⟨before, after, eq, -⟩
  cases before <;> cases eq

theorem isLast_congr {q : α → Prop} (same : ∀ a, p a ↔ q a) : IsLast p as a ↔ IsLast q as a := by
  obtain rfl : p = q := funext fun a => propext (same a)
  rfl

/-- What several elements contribute ends with what the last one that contributes ends with. -/
theorem getLast?_flatMap_eq_some_iff {f : α → List β} {y : β} :
    (as.flatMap f).getLast? = some y ↔ ∃ a, IsLast (f · ≠ []) as a ∧ (f a).getLast? = some y := by
  -- From the end: the last element decides if it contributes anything, else those before it do.
  induction as using List.reverseRecOn with
  | nil => simp [not_isLast_nil]
  | append_singleton as a ih =>
      rw [List.flatMap_append, List.flatMap_singleton, List.getLast?_append]
      simp only [isLast_concat]
      by_cases empty : f a = []
      · simp [empty, ih]
      · obtain ⟨last, ends⟩ := Option.isSome_iff_exists.mp (List.getLast?_isSome.mpr empty)
        simp [empty, ends]

end

/-! ## What is kept -/

/-- A relabeling that keeps the metrics of a pattern by their name alone. Without a pattern of its
own it keeps all of them. -/
structure RelabelRule.Keeps (r : RelabelRule) (regex : String) : Prop where
  /-- The action is to keep, each letter small or a capital. -/
  action : ∃ a, r.action = some a ∧
    List.Forall₂ (fun c d => c = d ∨ c = d.toUpper) a.toList ['k', 'e', 'e', 'p']
  alone : r.sourceLabels = ["__name__"]
  pattern : regex = r.regex.getD "(.*)"

/-- A relabeling that keeps metrics by their name, whichever these are. -/
def RelabelRule.Declares (r : RelabelRule) : Prop := ∃ regex, r.Keeps regex

def Endpoint.Declares (e : Endpoint) : Prop := ∃ r ∈ e.relabelings, r.Declares

def Monitor.Declares (m : Monitor) : Prop := ∃ e ∈ m.endpoints, e.Declares

/-- The pattern that counts at an endpoint: of the last relabeling that keeps by name. -/
def Endpoint.LastKept (e : Endpoint) (regex : String) : Prop :=
  ∃ r, IsLast RelabelRule.Declares e.relabelings r ∧ r.Keeps regex

/-- The pattern that counts for a monitor: of its last endpoint that declares any. -/
def Monitor.LastKept (m : Monitor) (regex : String) : Prop :=
  ∃ e, IsLast Endpoint.Declares m.endpoints e ∧ e.LastKept regex

/-- The pattern that counts for a name: of its last monitor that declares any. -/
def LastKept (monitors : List Monitor) (name regex : String) : Prop :=
  ∃ m, IsLast (fun m => m.name = name ∧ m.Declares) monitors m ∧ m.LastKept regex

theorem LetterCase.toNat_toUpper {d : Char} (small : 'a' ≤ d ∧ d ≤ 'z') :
    d.toUpper.toNat + 32 = d.toNat := by
  have low : 97 ≤ d.toNat := small.1
  have high : d.toNat ≤ 122 := small.2
  unfold Char.toUpper
  split
  · have gap : ('A'.val - 'a'.val).toNat = 2 ^ 32 - 32 := by decide
    simp only [Char.toNat, UInt32.toNat_add, gap] at low high ⊢
    omega
  · next other => exact absurd small other

theorem LetterCase.plainLower_eq_iff {c d : Char} (small : 'a' ≤ d ∧ d ≤ 'z') :
    LetterCase.plainLower c = d ↔ c = d ∨ c = d.toUpper := by
  have upper := LetterCase.toNat_toUpper small
  have low : 97 ≤ d.toNat := small.1
  have high : d.toNat ≤ 122 := small.2
  have capital : ('A' ≤ c ∧ c ≤ 'Z') ↔ 65 ≤ c.toNat ∧ c.toNat ≤ 90 := Iff.rfl
  unfold LetterCase.plainLower
  simp only [← Char.toNat_inj, capital]
  split
  · rw [Char.toNat_ofNat, if_pos (.inl (by omega))]
    omega
  · omega

theorem LetterCase.map_plainLower_eq_iff {s word : List Char}
    (small : ∀ d ∈ word, 'a' ≤ d ∧ d ≤ 'z') : s.map LetterCase.plainLower = word ↔
      List.Forall₂ (fun c d => c = d ∨ c = d.toUpper) s word := by
  induction word generalizing s with
  | nil => rw [List.map_eq_nil_iff, List.forall₂_nil_right_iff]
  | cons d word ih =>
      have head := small d List.mem_cons_self
      have tail : ∀ d ∈ word, 'a' ≤ d ∧ d ≤ 'z' := fun d member =>
        small d (List.mem_cons_of_mem _ member)
      rw [List.map_eq_cons_iff, List.forall₂_cons_right_iff]
      constructor
      · rintro ⟨c, s, rfl, here, rest⟩
        exact ⟨c, s, (LetterCase.plainLower_eq_iff head).mp here, (ih tail).mp rest, rfl⟩
      · rintro ⟨c, s, here, rest, rfl⟩
        exact ⟨c, s, rfl, (LetterCase.plainLower_eq_iff head).mpr here, (ih tail).mpr rest⟩

theorem LetterCase.eqPlain_keep_iff {a : String} : LetterCase.eqPlain a "keep" = true ↔
    List.Forall₂ (fun c d => c = d ∨ c = d.toUpper) a.toList ['k', 'e', 'e', 'p'] := by
  have letters : "keep".toList.map LetterCase.plainLower = ['k', 'e', 'e', 'p'] := by cbv
  have small : ∀ d ∈ ['k', 'e', 'e', 'p'], 'a' ≤ d ∧ d ≤ 'z' := by simp
  rw [LetterCase.eqPlain, beq_iff_eq, letters, LetterCase.map_plainLower_eq_iff small]

theorem RelabelRule.keepRegex?_eq_some_iff {r : RelabelRule} {regex : String} :
    r.keepRegex? = some regex ↔ r.Keeps regex := by
  unfold RelabelRule.keepRegex?
  rw [Option.ite_none_right_eq_some, Bool.and_eq_true, Option.any_eq_true, beq_iff_eq]
  constructor
  · rintro ⟨⟨⟨a, acts, keeps⟩, alone⟩, same⟩
    exact ⟨⟨a, acts, LetterCase.eqPlain_keep_iff.mp keeps⟩, alone, (Option.some.inj same).symm⟩
  · rintro ⟨⟨a, acts, keeps⟩, alone, rfl⟩
    exact ⟨⟨⟨a, acts, LetterCase.eqPlain_keep_iff.mpr keeps⟩, alone⟩, rfl⟩

theorem RelabelRule.toList_ne_nil_iff {r : RelabelRule} :
    r.keepRegex?.toList ≠ [] ↔ r.Declares := by
  rw [Ne, Option.toList_eq_nil_iff, ← Ne, Option.ne_none_iff_exists']
  exact exists_congr fun regex => RelabelRule.keepRegex?_eq_some_iff

/-- The patterns of an endpoint, in their order. -/
def Endpoint.keepRegexes (e : Endpoint) : List String := e.relabelings.flatMap (·.keepRegex?.toList)

theorem Endpoint.keepRegexes_ne_nil_iff {e : Endpoint} : e.keepRegexes ≠ [] ↔ e.Declares := by
  unfold Endpoint.keepRegexes Endpoint.Declares
  simp only [Ne, List.flatMap_eq_nil_iff, not_forall, exists_prop]
  exact exists_congr fun r => and_congr_right fun _ => RelabelRule.toList_ne_nil_iff

theorem Monitor.keepRegexes_eq (m : Monitor) :
    m.keepRegexes = m.endpoints.flatMap Endpoint.keepRegexes := by
  unfold Monitor.keepRegexes Endpoint.keepRegexes
  rw [List.filterMap_eq_flatMap_toList, List.flatMap_assoc]

theorem Monitor.keepRegexes_ne_nil_iff {m : Monitor} : m.keepRegexes ≠ [] ↔ m.Declares := by
  unfold Monitor.Declares
  rw [Monitor.keepRegexes_eq]
  simp only [Ne, List.flatMap_eq_nil_iff, not_forall, exists_prop]
  exact exists_congr fun e => and_congr_right fun _ => Endpoint.keepRegexes_ne_nil_iff

theorem Endpoint.getLast?_keepRegexes_eq_some_iff {e : Endpoint} {regex : String} :
    e.keepRegexes.getLast? = some regex ↔ e.LastKept regex := by
  rw [Endpoint.keepRegexes, getLast?_flatMap_eq_some_iff]
  refine exists_congr fun r => and_congr (isLast_congr fun r => RelabelRule.toList_ne_nil_iff) ?_
  rw [← RelabelRule.keepRegex?_eq_some_iff]
  cases r.keepRegex? <;> rfl

theorem Monitor.getLast?_keepRegexes_eq_some_iff {m : Monitor} {regex : String} :
    m.keepRegexes.getLast? = some regex ↔ m.LastKept regex := by
  rw [Monitor.keepRegexes_eq, getLast?_flatMap_eq_some_iff]
  exact exists_congr fun e => and_congr (isLast_congr fun e => Endpoint.keepRegexes_ne_nil_iff)
    Endpoint.getLast?_keepRegexes_eq_some_iff

/-- What is declared last under a name is what counts for it. -/
theorem getLast?_declared_eq_some_iff {monitors : List Monitor} {name regex : String} :
    (declared monitors name).getLast? = some regex ↔ LastKept monitors name regex := by
  have own (m : Monitor) : (if m.name == name then m.keepRegexes else []) ≠ [] ↔
      m.name = name ∧ m.Declares := by
    rw [← Monitor.keepRegexes_ne_nil_iff]
    by_cases same : m.name = name <;> simp [same]
  rw [declared, flatMap_of_filter, getLast?_flatMap_eq_some_iff]
  refine exists_congr fun m => ?_
  rw [isLast_congr own]
  refine and_congr_right fun last => ?_
  rw [if_pos (beq_iff_eq.mpr last.holds.1), Monitor.getLast?_keepRegexes_eq_some_iff]

/-- A name of which no monitor declares anything has no pattern. -/
theorem declared_eq_nil_iff {monitors : List Monitor} {name : String} :
    declared monitors name = [] ↔ ∀ m ∈ monitors, m.name = name → ¬ m.Declares := by
  simp only [declared, List.flatMap_eq_nil_iff, List.mem_filter, beq_iff_eq, and_imp,
    ← Monitor.keepRegexes_ne_nil_iff, not_not]

theorem declared_append (monitors more : List Monitor) (name : String) :
    declared (monitors ++ more) name = declared monitors name ++ declared more name := by
  rw [declared, List.filter_append, List.flatMap_append]
  rfl

/-! ## Relabelings of other shapes -/

/-- Relabelings after some that keep nothing by name were put in, taken out or, which is both,
altered. -/
inductive Retouched : List RelabelRule → List RelabelRule → Prop
  | nil : Retouched [] []
  | same (r : RelabelRule) {rs rs' : List RelabelRule} : Retouched rs rs' →
      Retouched (r :: rs) (r :: rs')
  | added {r : RelabelRule} {rs rs' : List RelabelRule} : ¬ r.Declares → Retouched rs rs' →
      Retouched rs (r :: rs')
  | removed {r : RelabelRule} {rs rs' : List RelabelRule} : ¬ r.Declares → Retouched rs rs' →
      Retouched (r :: rs) rs'

/-- A monitor of the same name, with the relabelings of its endpoints retouched. -/
def Monitor.Retouched (m m' : Monitor) : Prop :=
  m.name = m'.name ∧
    List.Forall₂ (fun e e' => ProfileAudit.Retouched e.relabelings e'.relabelings)
      m.endpoints m'.endpoints

theorem Retouched.keepRegexes_eq {rs rs' : List RelabelRule} (retouched : Retouched rs rs') :
    rs.flatMap (·.keepRegex?.toList) = rs'.flatMap (·.keepRegex?.toList) := by
  have empty {r : RelabelRule} (other : ¬ r.Declares) : r.keepRegex?.toList = [] :=
    not_not.mp (mt RelabelRule.toList_ne_nil_iff.mp other)
  induction retouched with
  | nil => rfl
  | same r _ ih => rw [List.flatMap_cons, List.flatMap_cons, ih]
  | added other _ ih => rw [List.flatMap_cons, empty other, List.nil_append, ih]
  | removed other _ ih => rw [List.flatMap_cons, empty other, List.nil_append, ih]

theorem flatMap_eq_of_forall₂ {α β : Type} {related : α → α → Prop} {f : α → List β}
    {as as' : List α} (each : List.Forall₂ related as as')
    (same : ∀ a a', related a a' → f a = f a') : as.flatMap f = as'.flatMap f := by
  induction each with
  | nil => rfl
  | cons here _ ih => rw [List.flatMap_cons, List.flatMap_cons, same _ _ here, ih]

theorem declarations_of_retouched {monitors monitors' : List Monitor}
    (retouched : List.Forall₂ Monitor.Retouched monitors monitors') :
    declarations monitors = declarations monitors' := by
  refine flatMap_eq_of_forall₂ retouched fun m m' ⟨name, endpoints⟩ => ?_
  have same : m.keepRegexes = m'.keepRegexes := by
    rw [m.keepRegexes_eq, m'.keepRegexes_eq]
    exact flatMap_eq_of_forall₂ endpoints fun _ _ rules => rules.keepRegexes_eq
  rw [name, same]

/-! ## The index -/

/-- What makes the index of some monitors the one of their last patterns. -/
structure KeepsLast (monitors : List Monitor) : Prop where
  /-- The entry of a name is the pattern that counts for it, without a group around it. -/
  entry : ∀ name regex, (name, regex) ∈ (aggregate monitors).entries ↔
    ∃ last, LastKept monitors name last ∧ regex = stripOuterGroup last
  /-- A name has no entry if none of its monitors declares a pattern, and then only. -/
  absent : ∀ name, (∀ regex, (name, regex) ∉ (aggregate monitors).entries) ↔
    ∀ m ∈ monitors, m.name = name → ¬ m.Declares
  /-- The entries of later monitors take the place of earlier ones; where they have none, the
  earlier ones stay. -/
  later : ∀ more name regex, (name, regex) ∈ (aggregate (monitors ++ more)).entries ↔
    (name, regex) ∈ (aggregate more).entries ∨
      (∀ other, (name, other) ∉ (aggregate more).entries) ∧
        (name, regex) ∈ (aggregate monitors).entries
  /-- Relabelings of other shapes make no difference. -/
  retouched : ∀ monitors', List.Forall₂ Monitor.Retouched monitors monitors' →
    aggregate monitors' = aggregate monitors

theorem not_mem_aggregate_iff {monitors : List Monitor} {name : String} :
    (∀ regex, (name, regex) ∉ (aggregate monitors).entries) ↔ declared monitors name = [] := by
  simp only [mem_aggregate_iff, ← List.getLast?_eq_none_iff]
  cases (declared monitors name).getLast? <;> simp

theorem mem_aggregate_append_iff {monitors more : List Monitor} {name regex : String} :
    (name, regex) ∈ (aggregate (monitors ++ more)).entries ↔
      (name, regex) ∈ (aggregate more).entries ∨
        (∀ other, (name, other) ∉ (aggregate more).entries) ∧
          (name, regex) ∈ (aggregate monitors).entries := by
  rw [not_mem_aggregate_iff]
  simp only [mem_aggregate_iff, declared_append, List.getLast?_append]
  cases ends : (declared more name).getLast? with
  | none => simp [List.getLast?_eq_none_iff.mp ends]
  | some last =>
      have some : declared more name ≠ [] := by
        intro none
        rw [none] at ends
        cases ends
      simp [some]

/-- **The index holds the last pattern of each name**, later monitors override earlier ones, and
relabelings of any other shape make no difference. -/
theorem aggregate_keepsLast (monitors : List Monitor) : KeepsLast monitors where
  entry name regex := by
    rw [mem_aggregate_iff]
    exact exists_congr fun last => and_congr_left fun _ => getLast?_declared_eq_some_iff
  absent name := not_mem_aggregate_iff.trans declared_eq_nil_iff
  later more name regex := mem_aggregate_append_iff
  retouched monitors' retouched := by
    rw [aggregate_eq, aggregate_eq, declarations_of_retouched retouched]

/-- Two endpoints of one monitor keep different metrics; a relabeling that drops metrics, put in
after both, changes nothing. -/
theorem aggregate_keepsLast_of_two_endpoints :
    let keep (regex : String) : RelabelRule := ⟨some "Keep", ["__name__"], some regex⟩
    let drop : RelabelRule := ⟨some "drop", ["__name__"], some "up"⟩
    let monitor (es : List Endpoint) : Monitor := { name := "m", kind := .pod, endpoints := es }
    let before := [monitor [⟨[keep "(first)"]⟩, ⟨[keep "(second)"]⟩]]
    let after := [monitor [⟨[keep "(first)"]⟩, ⟨[keep "(second)", drop]⟩]]
    List.Forall₂ Monitor.Retouched before after ∧ LastKept before "m" "(second)" ∧
      ("m", "second") ∈ (aggregate after).entries := by
  intro keep drop monitor before after
  have keeps (regex : String) : (keep regex).Keeps regex :=
    ⟨⟨"Keep", rfl, LetterCase.eqPlain_keep_iff.mp (by cbv)⟩, rfl, rfl⟩
  have other : ¬ drop.Declares := by
    rintro ⟨regex, ⟨a, acts, letters⟩, -, -⟩
    cases acts
    have differ : LetterCase.eqPlain "drop" "keep" = false := by cbv
    rw [← LetterCase.eqPlain_keep_iff, differ] at letters
    cases letters
  have retouched : List.Forall₂ Monitor.Retouched before after :=
    .cons ⟨rfl, .cons (.same _ .nil) (.cons (.same _ (.added other .nil)) .nil)⟩ .nil
  have declares : (keep "(second)").Declares := ⟨_, keeps _⟩
  have ends : Endpoint.Declares ⟨[keep "(second)"]⟩ := ⟨_, List.mem_cons_self, declares⟩
  have kept : LastKept before "m" "(second)" := by
    refine ⟨_, ⟨[], [], rfl, ⟨rfl, _, List.mem_cons_of_mem _ List.mem_cons_self, ends⟩, nofun⟩, ?_⟩
    refine ⟨_, ⟨[⟨[keep "(first)"]⟩], [], rfl, ends, nofun⟩, ?_⟩
    exact ⟨_, ⟨[], [], rfl, declares, nofun⟩, keeps _⟩
  have bare : "second" = stripOuterGroup "(second)" := by cbv
  refine ⟨retouched, kept, ?_⟩
  rw [(aggregate_keepsLast before).retouched after retouched]
  exact ((aggregate_keepsLast before).entry "m" "second").mpr ⟨_, kept, bare⟩

end ProfileAudit
