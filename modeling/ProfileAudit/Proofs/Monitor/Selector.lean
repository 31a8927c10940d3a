import ProfileAudit.Monitor.Selector
import ProfileAudit.Run

/-!
# What selectors pick

The keys of labels have no character of their own meaning in a selector, so the selectors that are
made for a key say of that key what was meant (`ofText_selectorFor`), and pick the monitors with
one value of the label or with none (`selected_selectorFor`). A source tells the truth about a
cluster if it answers such selectors with the monitors that they pick.
-/

namespace ProfileAudit

/-! ## Labels -/

/-- The characters that the keys and the values of labels are made of. -/
def isLabelChar (c : Char) : Bool :=
  c.isAlphanum || c == '-' || c == '_' || c == '.' || c == '/'

/-- A text of such characters, as every key is that an object can have. -/
def IsLabelText (s : String) : Prop := ∀ c ∈ s.toList, isLabelChar c = true

instance (s : String) : Decidable (IsLabelText s) := List.decidableBAll _ s.toList

section

variable {label value selector : String}

theorem IsLabelText.not_mem {c : Char} (plain : IsLabelText label) (other : isLabelChar c = false) :
    c ∉ label.toList := by
  intro member
  rw [plain c member] at other
  cases other

/-! ## Selectors -/

/-- The selector for a value of a label, or for monitors without the label. -/
def selectorFor (label : String) : Option String → String
  | some value => label ++ "=" ++ value
  | none => "!" ++ label

/-- What the selector for a value says of the label. -/
def conditionFor : Option String → LabelCondition
  | some value => .equals value
  | none => .absent

/-- A key ends at the first equals sign, for it has none. -/
theorem ofText_equals (key : IsLabelText label) (value : String) :
    LabelCondition.ofText (label ++ "=" ++ value) = (label, .equals value) := by
  have text : (label ++ "=" ++ value).toList = label.toList ++ '=' :: value.toList := by
    simp [String.toList_append]
  have plain : ∀ c ∈ label.toList, (c != '=') = true := fun c member =>
    bne_iff_ne.mpr fun same => key.not_mem (c := '=') (by decide) (same ▸ member)
  unfold LabelCondition.ofText
  split
  · next rest begins =>
      -- only a key could begin the selector with an exclamation mark
      rw [text] at begins
      rcases List.append_eq_cons_iff.mp begins with ⟨-, begins⟩ | ⟨rest, begins, -⟩
      · cases begins
      · exact absurd (begins ▸ List.mem_cons_self) (key.not_mem (c := '!') (by decide))
  · rw [text, List.dropWhile_append_of_pos plain, List.takeWhile_append_of_pos plain]
    simp

theorem ofText_selectorFor (key : IsLabelText label) (value : Option String) :
    LabelCondition.ofText (selectorFor label value) = (label, conditionFor value) := by
  cases value with
  | some value => exact ofText_equals key value
  | none =>
      have text : ("!" ++ label).toList = '!' :: label.toList := by
        simp [String.toList_append]
      simp only [selectorFor, conditionFor, LabelCondition.ofText, text, String.ofList_toList]

/-- The selector speaks of the label, and of no value that it could not have. -/
structure SpeaksOf (label selector : String) : Prop where
  key : (LabelCondition.ofText selector).1 = label
  value : ∀ value, (LabelCondition.ofText selector).2 = .equals value → IsLabelText value

theorem speaksOf_selectorFor (key : IsLabelText label) {value : Option String}
    (plain : ∀ v ∈ value, IsLabelText v) : SpeaksOf label (selectorFor label value) := by
  refine ⟨by rw [ofText_selectorFor key], fun v equals => ?_⟩
  rw [ofText_selectorFor key] at equals
  cases value with
  | some w =>
      cases equals
      exact plain _ rfl
  | none => cases equals

theorem holds_conditionFor (value own : Option String) :
    (conditionFor value).holds own = (own == value) := by
  cases value with
  | some value => rfl
  | none => cases own <;> rfl

/-- **The selector for a value picks the monitors of the kind with this value.** -/
theorem selected_selectorFor (key : IsLabelText label) (cluster : List Monitor)
    (kind : MonitorKind) (value : Option String) :
    Monitor.selected cluster kind (selectorFor label value) =
      cluster.filter fun m => (m.kind, m.profile) == (kind, value) := by
  simp only [Monitor.selected, ofText_selectorFor key, holds_conditionFor]
  rfl

end

/-! ## Sources -/

namespace MonitorSource

variable {source : MonitorSource} {label : String} {same : List Monitor → List Monitor → Prop}
  {cluster : List Monitor}

/-- Whatever selector for the label the source answers, the answer is the same as what the selector
picks from the cluster. -/
def Tells (source : MonitorSource) (label : String) (same : List Monitor → List Monitor → Prop)
    (cluster : List Monitor) : Prop :=
  ∀ kind selector, SpeaksOf label selector → ∀ m delay found,
    source.list kind selector m = .after delay (.ok found) →
    same found (Monitor.selected cluster kind selector)

/-- The source answers every selector for the label sooner or later. -/
def Serves (source : MonitorSource) (label : String) : Prop :=
  ∀ kind selector, SpeaksOf label selector → ∀ m, ∃ delay found,
    source.list kind selector m = .after delay (.ok found)

/-- A source that picks the monitors from a list, which takes it some time. -/
def ofList (cluster : List Monitor) (delay : Nat) : MonitorSource where
  list kind selector _ := .after delay (.ok (Monitor.selected cluster kind selector))

theorem tells_ofList (label : String) (refl : ∀ ms, same ms ms) (cluster : List Monitor)
    (delay : Nat) : (ofList cluster delay).Tells label same cluster := by
  intro kind selector _ m _ found answer
  cases answer
  exact refl _

theorem serves_ofList (label : String) (cluster : List Monitor) (delay : Nat) :
    (ofList cluster delay).Serves label := fun _ _ _ _ => ⟨delay, _, rfl⟩

end MonitorSource

end ProfileAudit
