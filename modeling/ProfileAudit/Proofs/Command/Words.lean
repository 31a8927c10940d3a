import Mathlib.Data.List.TakeWhile
import ProfileAudit.Command.Arguments

/-!
# Words on the command line

A word has one form only, and what is written in this form is the word (`Word.text_ofText`). A name
behind two dashes is read as this name, with what follows the first equals sign for its value
(`Word.ofText_long`, `Word.ofText_valued`).
-/

namespace ProfileAudit

namespace Word

/-- How a word of some form is written. -/
def text : Word → List Char
  | escape => ['-', '-']
  | long name none => '-' :: '-' :: name.toList
  | long name (some value) => '-' :: '-' :: (name.toList ++ '=' :: value.toList)
  | short letter rest => '-' :: letter :: rest
  | plain s => s.toList

theorem text_ofText (s : String) : (ofText s).text = s.toList := by
  unfold ofText
  split
  · next is => exact is.symm
  · next cs _ is =>
      have whole := List.takeWhile_append_dropWhile (p := (· != '=')) (l := cs)
      rw [is]
      split
      · next c value found =>
          have equals : c = '=' := by
            have stops := List.head_dropWhile_not (· != '=') (l := cs) (by simp [found])
            simpa [found] using stops
          rw [found, equals] at whole
          simp only [text, String.toList_ofList, whole]
      · simp only [text, String.toList_ofList]
  · next is => exact is.symm
  · rfl

/-- A text after two dashes is cut at its first equals sign. -/
theorem ofText_dashes {s : String} {c : Char} {cs : List Char}
    (text : s.toList = '-' :: '-' :: c :: cs) :
    ofText s = match (c :: cs).dropWhile (· != '=') with
      | _ :: value =>
        .long (String.ofList ((c :: cs).takeWhile (· != '='))) (some (String.ofList value))
      | [] => .long (String.ofList (c :: cs)) none := by
  unfold ofText
  rw [text]
  rfl

variable {name value : String}

theorem ofText_long (named : name ≠ "") (whole : '=' ∉ name.toList) :
    ofText ("--" ++ name) = .long name none := by
  have uncut : name.toList.dropWhile (· != '=') = [] := by
    refine List.dropWhile_eq_nil_iff.mpr fun c member => ?_
    exact bne_iff_ne.mpr fun is => whole (is ▸ member)
  obtain ⟨c, cs, text⟩ := List.exists_cons_of_ne_nil (mt String.toList_eq_nil_iff.mp named)
  rw [text] at uncut
  have dashes : ("--" ++ name).toList = '-' :: '-' :: c :: cs := by
    rw [String.toList_append, text]
    rfl
  rw [ofText_dashes dashes, uncut, ← text, String.ofList_toList]

theorem ofText_valued (named : name ≠ "") (whole : '=' ∉ name.toList) :
    ofText ("--" ++ name ++ "=" ++ value) = .long name (some value) := by
  have uncut : ∀ c ∈ name.toList, (c != '=') = true := fun c member =>
    bne_iff_ne.mpr fun is => whole (is ▸ member)
  obtain ⟨c, cs, text⟩ := List.exists_cons_of_ne_nil (mt String.toList_eq_nil_iff.mp named)
  have dashes : ("--" ++ name ++ "=" ++ value).toList =
      '-' :: '-' :: c :: (cs ++ '=' :: value.toList) := by
    simp [text]
  have first : (name.toList ++ '=' :: value.toList).takeWhile (· != '=') = name.toList := by
    rw [List.takeWhile_append_of_pos uncut, List.takeWhile_cons_of_neg (by decide), List.append_nil]
  have rest : (name.toList ++ '=' :: value.toList).dropWhile (· != '=') = '=' :: value.toList := by
    rw [List.dropWhile_append_of_pos uncut, List.dropWhile_cons_of_neg (by decide)]
  rw [text, List.cons_append] at first rest
  rw [ofText_dashes dashes, rest]
  dsimp only
  rw [first, ← text, String.ofList_toList, String.ofList_toList]

/-- What a word switches, with the value that is attached to it. -/
def switch? : Word → Option (Switch × Option String)
  | long name value => (Switch.ofName? name).map (·, value)
  | short letter rest => (Switch.ofLetter? letter).map (·, attached? rest)
  | escape | plain _ => none

end Word

/-! ## Names -/

namespace Switch

/-- The name of what is switched. -/
def name : Switch → String
  | help => "help"
  | flag f => f.name
  | option o => o.name

theorem name_ne_empty (s : Switch) : s.name ≠ "" := by
  rcases s with _ | f | o
  · decide
  · cases f <;> decide
  · cases o <;> decide

theorem whole_name (s : Switch) : '=' ∉ s.name.toList := by
  rcases s with _ | f | o
  · decide
  · cases f <;> decide
  · cases o <;> decide

theorem ofName?_name (s : Switch) : ofName? s.name = some s := by
  rcases s with _ | f | o
  · decide
  · cases f <;> decide
  · cases o <;> decide

variable {s : Switch}

theorem eq_name_of_ofName? {text : String} (found : ofName? text = some s) : text = s.name := by
  unfold ofName? at found
  split at found
  · next is =>
      cases found
      exact is
  · rcases Option.or_eq_some_iff.mp found with flag | ⟨-, option⟩
    · obtain ⟨f, first, rfl⟩ := Option.map_eq_some_iff.mp flag
      have same := List.find?_some first
      exact (beq_iff_eq.mp same).symm
    · obtain ⟨o, first, rfl⟩ := Option.map_eq_some_iff.mp option
      have same := List.find?_some first
      exact (beq_iff_eq.mp same).symm

/-- A letter stands for help or for an option. -/
theorem ofLetter?_cases {letter : Char} (found : ofLetter? letter = some s) :
    (letter = 'h' ∧ s = .help) ∨ ∃ o, CheckOption.letter? o = some letter ∧ s = .option o := by
  unfold ofLetter? at found
  split at found
  · next is =>
      cases found
      exact .inl ⟨is, rfl⟩
  · obtain ⟨o, first, rfl⟩ := Option.map_eq_some_iff.mp found
    have same := List.find?_some first
    exact .inr ⟨o, beq_iff_eq.mp same, rfl⟩

end Switch

/-! ## Words that are written out -/

/-- A name behind two dashes, and its value if there is one. -/
def spelled (name : String) : Option String → String
  | none => "--" ++ name
  | some value => "--" ++ name ++ "=" ++ value

variable {word : String}

theorem Word.ofText_spelled (s : Switch) (value : Option String) :
    Word.ofText (spelled s.name value) = .long s.name value := by
  cases value with
  | none => exact Word.ofText_long s.name_ne_empty s.whole_name
  | some value => exact Word.ofText_valued s.name_ne_empty s.whole_name

theorem switch?_spelled (s : Switch) (value : Option String) :
    (Word.ofText (spelled s.name value)).switch? = some (s, value) := by
  rw [Word.ofText_spelled, Word.switch?, s.ofName?_name]
  rfl

/-- What is switched without a letter is written with its name. -/
theorem eq_spelled_of_switch? {o : CheckOption} (unlettered : o.letter? = none)
    {value : Option String} (switches : (Word.ofText word).switch? = some (.option o, value)) :
    word = spelled o.name value := by
  have text := Word.text_ofText word
  cases form : Word.ofText word with
  | long name value' =>
      rw [form] at switches text
      obtain ⟨s, found, is⟩ := Option.map_eq_some_iff.mp switches
      cases is
      cases Switch.eq_name_of_ofName? found
      refine String.toList_inj.mp (text.symm.trans ?_)
      cases value <;> simp [Word.text, spelled, Switch.name]
  | short letter rest =>
      rw [form] at switches
      obtain ⟨s, found, is⟩ := Option.map_eq_some_iff.mp switches
      cases is
      rcases Switch.ofLetter?_cases found with ⟨-, other⟩ | ⟨o', letters, is⟩
      · cases other
      · cases is
        rw [unlettered] at letters
        cases letters
  | escape =>
      rw [form] at switches
      cases switches
  | plain s =>
      rw [form] at switches
      cases switches

end ProfileAudit
