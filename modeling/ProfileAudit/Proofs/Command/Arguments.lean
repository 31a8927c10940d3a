import ProfileAudit.Proofs.Command.Words
import ProfileAudit.Proofs.Result

/-!
# What the words after `check` select

Words are read a few at a time: a flag, an option with its value attached, or an option and the
word behind it (`Selection.Takes`). Nothing is read but what is written so (`Selection.Reads`), so
every option among the words that are accepted has its value there (`Selection.Reads.supplied`),
and no option has one that is not (`Selection.Reads.fromWords`).
-/

namespace ProfileAudit

/-! ## Options among words -/

/-- The name is among the words, with or without a value attached. -/
def Mentions (words : List String) (name : String) : Prop :=
  ∃ value, spelled name value ∈ words

/-- The words give the option this value: attached to its name, or as the next word. -/
inductive Supplies (o : CheckOption) (value : String) : List String → Prop
  | attached {words : List String} : Supplies o value (("--" ++ o.name ++ "=" ++ value) :: words)
  | apart {words : List String} : Supplies o value (("--" ++ o.name) :: value :: words)
  | later {word : String} {words : List String} : Supplies o value words →
      Supplies o value (word :: words)

theorem Supplies.append {o : CheckOption} {value : String} {words : List String}
    (supplies : Supplies o value words) (before : List String) :
    Supplies o value (before ++ words) := by
  induction before with
  | nil => exact supplies
  | cons word before ih => exact .later ih

namespace Selection

variable {s t u : Selection} {words chunk : List String} {word value : String} {o : CheckOption}
  {f : CheckFlag}

/-! ## Steps -/

/-- The words that are read next, and what is selected with them. -/
inductive Takes (s : Selection) : List String → Selection → Prop
  | flag {word : String} {f : CheckFlag} : (Word.ofText word).switch? = some (.flag f, none) →
      f ∉ s.flags → Takes s [word] { s with flags := s.flags ++ [f] }
  | attached {word value : String} {o : CheckOption} :
      (Word.ofText word).switch? = some (.option o, some value) → s.values.lookup o = none →
      o.admits value = true → Takes s [word] { s with values := s.values ++ [(o, value)] }
  | apart {word value : String} {o : CheckOption} :
      (Word.ofText word).switch? = some (.option o, none) → Word.ofText value = .plain value →
      s.values.lookup o = none → o.admits value = true →
      Takes s [word, value] { s with values := s.values ++ [(o, value)] }

/-- What is selected with all words. -/
inductive Reads : Selection → List String → Selection → Prop
  | done {s : Selection} : Reads s [] s
  /-- Two dashes, with nothing behind them. -/
  | escape {s : Selection} {word : String} : Word.ofText word = .escape → Reads s [word] s
  | step {s t u : Selection} {chunk words : List String} : Takes s chunk t → Reads t words u →
      Reads s (chunk ++ words) u

/-! ## Reading -/

theorem assign_eq_ok_iff : s.assign o value = .ok t ↔ s.values.lookup o = none ∧
    o.admits value = true ∧ t = { s with values := s.values ++ [(o, value)] } := by
  unfold assign
  split
  · next taken => exact iff_of_false nofun fun h => by simp [h.1] at taken
  · next free =>
      rw [Option.not_isSome_iff_eq_none] at free
      split
      · next admitted =>
          exact ⟨fun is => ⟨free, admitted, (Except.ok.inj is).symm⟩,
            fun h => congrArg _ h.2.2.symm⟩
      · next refused => exact iff_of_false nofun fun h => refused h.2.1

theorem raise_eq_ok_iff :
    s.raise f = .ok t ↔ f ∉ s.flags ∧ t = { s with flags := s.flags ++ [f] } := by
  unfold raise
  split
  · next taken => exact iff_of_false nofun fun h => h.1 (List.contains_iff_mem.mp taken)
  · next free =>
      exact ⟨fun is => ⟨fun member => free (List.contains_iff_mem.mpr member),
        (Except.ok.inj is).symm⟩, fun h => congrArg _ h.2.symm⟩

theorem settle_of_settled (settled : s.pending = none) : s.settle = .ok s := by
  rw [settle, settled]

/-- An option that waits for its value is never settled. -/
theorem pending_of_settle (settles : s.settle = .ok t) : t.pending = none := by
  unfold settle at settles
  split at settles
  · next settled => exact Except.ok.inj settles ▸ settled
  · cases settles
  · obtain ⟨-, -, is⟩ := assign_eq_ok_iff.mp settles
    rw [is]

/-- A switch settles what was read before it. -/
theorem switch_cases {attached : Option String} {w : Switch}
    (switches : s.switch attached w = .ok u) : ∃ t, s.settle = .ok t ∧
      ((∃ f, w = .flag f ∧ t.raise f = .ok u) ∨
      (∃ o value, w = .option o ∧ attached = some value ∧ t.assign o value = .ok u) ∨
      ∃ o, w = .option o ∧ attached = none ∧ u = { t with pending := some (o, none) }) := by
  cases w with
  | help =>
      obtain ⟨-, -, failed⟩ := bind_eq_ok_iff.mp switches
      cases failed
  | flag f =>
      obtain ⟨t, settles, raises⟩ := bind_eq_ok_iff.mp switches
      exact ⟨t, settles, .inl ⟨f, rfl, raises⟩⟩
  | option o =>
      obtain ⟨t, settles, given⟩ := bind_eq_ok_iff.mp switches
      refine ⟨t, settles, .inr ?_⟩
      cases attached with
      | some value => exact .inl ⟨o, value, rfl, rfl, given⟩
      | none => exact .inr ⟨o, rfl, rfl, (Except.ok.inj given).symm⟩

/-- A name is read as the switch that it stands for. -/
theorem readLong_cases {name : String} {attached : Option String}
    (reads : s.readLong name attached = .ok u) :
    ∃ w, (Word.long name attached).switch? = some (w, attached) ∧ s.switch attached w = .ok u ∧
      ∀ f, w = .flag f → attached = none := by
  unfold readLong at reads
  split at reads
  · cases reads
  · next o found => exact ⟨.option o, by rw [Word.switch?, found]; rfl, reads, nofun⟩
  · next w _ found =>
      split at reads
      · cases reads
      · next bare =>
          rw [Option.not_isSome_iff_eq_none] at bare
          subst bare
          exact ⟨w, by rw [Word.switch?, found]; rfl, reads, fun _ _ => rfl⟩

theorem readShort_cases {letter : Char} {rest : List Char}
    (reads : s.readShort letter rest = .ok u) :
    ∃ w, (Word.short letter rest).switch? = some (w, attached? rest) ∧
      s.switch (attached? rest) w = .ok u ∧ ∀ f, w = .flag f → attached? rest = none := by
  unfold readShort at reads
  split at reads
  · cases reads
  · next w found =>
      refine ⟨w, by rw [Word.switch?, found]; rfl, reads, fun f is => ?_⟩
      rcases Switch.ofLetter?_cases found with ⟨-, other⟩ | ⟨o, -, other⟩
      · cases is.symm.trans other
      · cases is.symm.trans other

/-- When an option may still wait for its value, something is so of all words, or of those behind
the value. -/
inductive On (P : Selection → List String → Prop) (s : Selection) : List String → Prop
  | settled {t : Selection} {words : List String} : s.settle = .ok t → P t words → On P s words
  | waiting {t : Selection} {o : CheckOption} {value : String} {words : List String} :
      s.pending = some (o, none) → Word.ofText value = .plain value →
      { s with pending := none }.assign o value = .ok t → P t words → On P s (value :: words)

section

variable {P : Selection → List String → Prop}

theorem On.of_settled (on : s.On P words) (settled : s.pending = none) : P s words := by
  cases on with
  | settled settles is =>
      cases (settle_of_settled settled).symm.trans settles
      exact is
  | waiting waits => cases settled.symm.trans waits

/-- A switch settles what was read before, whatever form its word has. -/
theorem On.of_switch {attached : Option String} {w : Switch}
    (step : ∀ {s t chunk words}, Takes s chunk t → P t words → P s (chunk ++ words))
    (switches : (Word.ofText word).switch? = some (w, attached))
    (bare : ∀ f, w = .flag f → attached = none) (first : s.switch attached w = .ok t)
    (rest : t.On P words) : s.On P (word :: words) := by
  obtain ⟨v, settles, cases⟩ := switch_cases first
  have none := pending_of_settle settles
  refine .settled settles ?_
  rcases cases with ⟨f, rfl, raises⟩ | ⟨o, value, rfl, rfl, assigns⟩ | ⟨o, rfl, rfl, rfl⟩
  · obtain ⟨fresh, rfl⟩ := raise_eq_ok_iff.mp raises
    cases bare f rfl
    exact step (.flag switches fresh) (rest.of_settled none)
  · obtain ⟨free, admitted, rfl⟩ := assign_eq_ok_iff.mp assigns
    exact step (.attached switches free admitted) (rest.of_settled none)
  · obtain ⟨values, flags, pending⟩ := v
    cases none
    cases rest with
    | settled settles => cases settles
    | waiting waits plain assigns is =>
        cases waits
        obtain ⟨free, admitted, rfl⟩ := assign_eq_ok_iff.mp assigns
        exact step (.apart switches plain free admitted) is

end

theorem plain_eq_ok_iff : s.plain value = .ok t ↔
    ∃ o, s.pending = some (o, none) ∧ t = { s with pending := some (o, some value) } := by
  unfold Selection.plain
  split
  · next o waits =>
      refine ⟨fun is => ⟨o, waits, (Except.ok.inj is).symm⟩, fun h => ?_⟩
      obtain ⟨o', waits', is⟩ := h
      cases waits.symm.trans waits'
      rw [is]
  · next none => exact iff_of_false nofun fun ⟨o, waits, _⟩ => none o waits

/-- A plain word is the value that is waited for. -/
theorem On.of_plain {P : Selection → List String → Prop} (form : Word.ofText value = .plain value)
    (first : s.plain value = .ok t) (rest : t.On P words) : s.On P (value :: words) := by
  obtain ⟨o, waits, rfl⟩ := plain_eq_ok_iff.mp first
  cases rest with
  | settled settles is => exact .waiting waits form settles is
  | waiting again => cases again

theorem eq_of_plain {text : String} (form : Word.ofText word = .plain text) : text = word := by
  have same := Word.text_ofText word
  rw [form] at same
  exact String.toList_inj.mp same

theorem on_of_read (reads : s.read words = .ok u) : s.On (Reads · · u) words := by
  induction words generalizing s with
  | nil => exact .settled reads .done
  | cons word words ih =>
      unfold read at reads
      cases form : Word.ofText word with
      | escape =>
          rw [form] at reads
          dsimp only at reads
          split at reads
          · next last =>
              cases List.isEmpty_iff.mp last
              exact .settled reads (.escape form)
          · cases reads
      | long name attached =>
          rw [form] at reads
          obtain ⟨v, first, rest⟩ := bind_eq_ok_iff.mp reads
          obtain ⟨w, switches, first, bare⟩ := readLong_cases first
          exact .of_switch .step (form ▸ switches) bare first (ih rest)
      | short letter more =>
          rw [form] at reads
          obtain ⟨v, first, rest⟩ := bind_eq_ok_iff.mp reads
          obtain ⟨w, switches, first, bare⟩ := readShort_cases first
          exact .of_switch .step (form ▸ switches) bare first (ih rest)
      | plain text =>
          rw [form] at reads
          obtain ⟨v, first, rest⟩ := bind_eq_ok_iff.mp reads
          cases eq_of_plain form
          exact .of_plain form first (ih rest)

/-- To settle what was read makes no difference to what is read next. -/
theorem switch_of_settle (settles : s.settle = .ok t) (attached : Option String) (w : Switch) :
    s.switch attached w = t.switch attached w := by
  have again := settle_of_settled (pending_of_settle settles)
  cases w <;> simp only [switch, settles, again]

theorem read_of_settle (settles : s.settle = .ok t) (words : List String) :
    s.read words = t.read words := by
  have none := pending_of_settle settles
  have again := settle_of_settled none
  cases words with
  | nil => exact settles.trans again.symm
  | cons word words =>
      unfold read
      cases Word.ofText word with
      | escape => simp only [settles, again]
      | long name attached => simp only [readLong, switch_of_settle settles]
      | short letter rest => simp only [readShort, switch_of_settle settles]
      | plain text =>
          have refused {v : Selection} (settles : v.settle = .ok t) :
              v.plain text = .error .unknownArgument := by
            unfold Selection.plain
            split
            · next waits =>
                rw [settle, waits] at settles
                cases settles
            · rfl
          dsimp only
          rw [refused settles, refused again]

theorem read_of_switch? {attached : Option String} {w : Switch}
    (switches : (Word.ofText word).switch? = some (w, attached))
    (bare : ∀ f, w = .flag f → attached = none) (other : w ≠ .help) :
    s.read (word :: words) = s.switch attached w >>= fun t => t.read words := by
  rw [read]
  cases form : Word.ofText word with
  | escape => rw [form] at switches; cases switches
  | plain text => rw [form] at switches; cases switches
  | short letter rest =>
      rw [form] at switches
      obtain ⟨w', found, is⟩ := Option.map_eq_some_iff.mp switches
      cases is
      dsimp only
      rw [readShort, found]
  | long name value =>
      rw [form] at switches
      obtain ⟨w', found, is⟩ := Option.map_eq_some_iff.mp switches
      cases is
      dsimp only
      rw [readLong, found]
      cases w with
      | help => exact absurd rfl other
      | option o => rfl
      | flag f => rw [bare f rfl]; rfl

theorem Takes.pending (takes : s.Takes chunk t) : t.pending = s.pending := by
  cases takes <;> rfl

theorem Takes.read (takes : s.Takes chunk t) (settled : s.pending = none) (words : List String) :
    s.read (chunk ++ words) = t.read words := by
  have settles := settle_of_settled settled
  cases takes with
  | flag switches fresh =>
      have raises := raise_eq_ok_iff.mpr ⟨fresh, rfl⟩
      rw [List.singleton_append, read_of_switch? switches (fun _ _ => rfl) nofun]
      simp only [switch, settles]
      change (s.raise _ >>= _) = _
      rw [raises]
      rfl
  | attached switches free admitted =>
      have assigns := assign_eq_ok_iff.mpr ⟨free, admitted, rfl⟩
      rw [List.singleton_append, read_of_switch? switches nofun nofun]
      simp only [switch, settles]
      change (s.assign _ _ >>= _) = _
      rw [assigns]
      rfl
  | @apart word value o switches text free admitted =>
      obtain ⟨values, flags, pending⟩ := s
      cases settled
      have waits : Selection.plain ⟨values, flags, some (o, none)⟩ value =
          .ok ⟨values, flags, some (o, some value)⟩ := rfl
      have settles' : settle ⟨values, flags, some (o, some value)⟩ =
          .ok ⟨values ++ [(o, value)], flags, none⟩ :=
        assign_eq_ok_iff.mpr ⟨free, admitted, rfl⟩
      rw [List.cons_append, List.singleton_append, read_of_switch? switches nofun nofun]
      change read ⟨values, flags, some (o, none)⟩ (value :: words) = _
      rw [← read_of_settle settles', read, text]
      dsimp only
      rw [waits]
      rfl

/-- **What is read is what is written so**, and nothing else is read. -/
theorem read_eq_ok_iff (settled : s.pending = none) :
    s.read words = .ok u ↔ Reads s words u := by
  constructor
  · exact fun reads => (on_of_read reads).of_settled settled
  · intro reads
    induction reads with
    | done => exact settle_of_settled settled
    | escape form =>
        rw [read, form]
        exact settle_of_settled settled
    | step takes _ ih => rw [takes.read settled, ih (takes.pending.trans settled)]

/-! ## What is selected -/

/-- What is switched has been selected. -/
def Has (s : Selection) : Switch → Prop
  | .help => False
  | .flag f => f ∈ s.flags
  | .option o => ∃ value, (o, value) ∈ s.values

theorem Takes.values (takes : s.Takes chunk t) : s.values <+: t.values := by
  cases takes with
  | flag => exact List.prefix_rfl
  | attached => exact List.prefix_append ..
  | apart => exact List.prefix_append ..

theorem Takes.flags (takes : s.Takes chunk t) : s.flags <+: t.flags := by
  cases takes with
  | flag => exact List.prefix_append ..
  | attached => exact List.prefix_rfl
  | apart => exact List.prefix_rfl

theorem Takes.has (takes : s.Takes chunk t) {w : Switch} {attached : Option String}
    (member : word ∈ chunk) (switches : (Word.ofText word).switch? = some (w, attached)) :
    t.Has w := by
  cases takes with
  | flag switches' fresh =>
      cases List.mem_singleton.mp member
      cases switches'.symm.trans switches
      exact List.mem_append_right _ List.mem_cons_self
  | attached switches' =>
      cases List.mem_singleton.mp member
      cases switches'.symm.trans switches
      exact ⟨_, List.mem_append_right _ List.mem_cons_self⟩
  | apart switches' text =>
      rcases List.mem_cons.mp member with rfl | member
      · cases switches'.symm.trans switches
        exact ⟨_, List.mem_append_right _ List.mem_cons_self⟩
      · cases List.mem_singleton.mp member
        rw [text] at switches
        cases switches

theorem Takes.supplied (takes : s.Takes chunk t)
    (supplies : Supplies o value (chunk ++ words)) :
    (o, value) ∈ t.values ∨ Supplies o value words := by
  have named := switch?_spelled (.option o) none
  have valued := switch?_spelled (.option o) (some value)
  cases takes with
  | flag switches fresh =>
      cases supplies with
      | attached => cases valued.symm.trans switches
      | apart => cases named.symm.trans switches
      | later supplies => exact .inr supplies
  | attached switches =>
      cases supplies with
      | attached =>
          cases valued.symm.trans switches
          exact .inl (List.mem_append_right _ List.mem_cons_self)
      | apart => cases named.symm.trans switches
      | later supplies => exact .inr supplies
  | apart switches text =>
      cases supplies with
      | attached => cases valued.symm.trans switches
      | apart =>
          cases named.symm.trans switches
          exact .inl (List.mem_append_right _ List.mem_cons_self)
      | later supplies =>
          cases supplies with
          | attached => cases (Word.ofText_spelled (.option o) (some value)).symm.trans text
          | apart => cases (Word.ofText_spelled (.option o) none).symm.trans text
          | later supplies => exact .inr supplies

theorem Takes.fromWords (takes : s.Takes chunk t) (o : CheckOption) (value : String)
    (member : (o, value) ∈ t.values) : (o, value) ∈ s.values ∨
      o.admits value = true ∧ (o.letter? = none → ∀ words, Supplies o value (chunk ++ words)) := by
  cases takes with
  | flag => exact .inl member
  | attached switches free admitted =>
      refine (List.mem_append.mp member).imp_right fun last => ?_
      cases List.mem_singleton.mp last
      refine ⟨admitted, fun unlettered words => ?_⟩
      rw [eq_spelled_of_switch? unlettered switches]
      exact .attached
  | apart switches text free admitted =>
      refine (List.mem_append.mp member).imp_right fun last => ?_
      cases List.mem_singleton.mp last
      refine ⟨admitted, fun unlettered words => ?_⟩
      rw [eq_spelled_of_switch? unlettered switches]
      exact .apart

namespace Reads

theorem values (reads : Reads s words u) : s.values <+: u.values := by
  induction reads with
  | done => exact List.prefix_rfl
  | escape => exact List.prefix_rfl
  | step takes _ ih => exact takes.values.trans ih

theorem flags (reads : Reads s words u) : s.flags <+: u.flags := by
  induction reads with
  | done => exact List.prefix_rfl
  | escape => exact List.prefix_rfl
  | step takes _ ih => exact takes.flags.trans ih

theorem keeps (reads : Reads s words u) {w : Switch} (has : s.Has w) : u.Has w := by
  cases w with
  | help => exact has
  | flag f => exact reads.flags.subset has
  | option o =>
      obtain ⟨value, member⟩ := has
      exact ⟨value, reads.values.subset member⟩

/-- Everything that is named among the words is selected. -/
theorem has (reads : Reads s words u) {w : Switch} (mentions : Mentions words w.name) :
    u.Has w := by
  obtain ⟨attached, member⟩ := mentions
  have switches := switch?_spelled w attached
  induction reads with
  | done => cases member
  | escape form =>
      cases List.mem_singleton.mp member
      rw [form] at switches
      cases switches
  | step takes rest ih =>
      rcases List.mem_append.mp member with first | later
      · exact rest.keeps (takes.has first switches)
      · exact ih later

/-- A value that the words give is selected. -/
theorem supplied (reads : Reads s words u) (supplies : Supplies o value words) :
    (o, value) ∈ u.values := by
  induction reads with
  | done => cases supplies
  | escape form =>
      cases supplies with
      | attached => cases (Word.ofText_spelled (.option o) (some value)).symm.trans form
      | later supplies => cases supplies
  | step takes rest ih =>
      rcases takes.supplied supplies with member | supplies
      · exact rest.values.subset member
      · exact ih supplies

/-- No other value is selected, and none that its option does not take. -/
theorem fromWords (reads : Reads s words u) (member : (o, value) ∈ u.values) :
    (o, value) ∈ s.values ∨
      o.admits value = true ∧ (o.letter? = none → Supplies o value words) := by
  induction reads with
  | done => exact .inl member
  | escape => exact .inl member
  | step takes rest ih =>
      rcases ih member with earlier | ⟨admitted, supplies⟩
      · refine (takes.fromWords o value earlier).imp_right fun new => ⟨new.1, fun unlettered => ?_⟩
        exact new.2 unlettered _
      · exact .inr ⟨admitted, fun unlettered => (supplies unlettered).append _⟩

end Reads

end Selection

end ProfileAudit
