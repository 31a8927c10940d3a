import Mathlib.Data.List.Basic
import ProfileAudit.Proofs.Text.Hex
import ProfileAudit.Url.Reader

/-!
# Paths of URLs

The names in a path have no slash in them, so its text tells where each of them ends
(`Url.noSlash_readPath`). It ends in a slash if its last name is empty, and only then
(`Url.endsInSlash_iff`). A slash that is written at the end of a path adds an empty name, unless
there is one already for the dots at the end (`Url.slashed_readPath`).
-/

namespace ProfileAudit

/-! ## Parts -/

section

variable {separates : Char → Bool} {c : Char} {cs part : List Char}

theorem partsBetween_ne_nil : partsBetween separates cs ≠ [] := by
  cases cs with
  | nil => exact List.cons_ne_nil _ _
  | cons c cs =>
      rw [partsBetween]
      split
      · exact List.cons_ne_nil _ _
      · split <;> exact List.cons_ne_nil _ _

/-- Nothing that separates is part of a part. -/
theorem whole_of_mem_partsBetween (member : part ∈ partsBetween separates cs) :
    ∀ c ∈ part, separates c = false := by
  induction cs generalizing part with
  | nil =>
      cases List.mem_singleton.mp member
      nofun
  | cons c cs ih =>
      rw [partsBetween] at member
      split at member
      · rcases List.mem_cons.mp member with rfl | member
        · nofun
        · exact ih member
      · next stays =>
          have first : separates c = false := Bool.eq_false_iff.mpr stays
          split at member
          · cases List.mem_singleton.mp member
            exact List.forall_mem_singleton.mpr first
          · next part' parts split =>
              rw [split] at ih
              rcases List.mem_cons.mp member with rfl | member
              · exact List.forall_mem_cons.mpr ⟨first, ih List.mem_cons_self⟩
              · exact ih (List.mem_cons_of_mem part' member)

/-- A separator at the end leaves an empty part behind it. -/
theorem partsBetween_concat (ends : separates c = true) :
    partsBetween separates (cs ++ [c]) = partsBetween separates cs ++ [[]] := by
  induction cs with
  | nil => simp [partsBetween, ends]
  | cons d cs ih =>
      rw [List.cons_append, partsBetween, partsBetween, ih]
      split
      · rfl
      · cases parts : partsBetween separates cs with
        | nil => exact absurd parts partsBetween_ne_nil
        | cons part parts => rfl

/-- Without one at the end the last part is not empty. -/
theorem getLast?_partsBetween (some : cs ≠ []) (stays : ∀ c ∈ cs.getLast?, separates c = false) :
    ∃ before part, partsBetween separates cs = before ++ [part] ∧ part ≠ [] := by
  induction cs with
  | nil => exact absurd rfl some
  | cons c cs ih =>
      rw [partsBetween]
      cases cs with
      | nil =>
          rw [if_neg (by rw [stays c rfl]; exact Bool.false_ne_true)]
          exact ⟨[], [c], rfl, List.cons_ne_nil c []⟩
      | cons d cs =>
          obtain ⟨before, part, is, full⟩ := ih (List.cons_ne_nil d cs) stays
          rw [is]
          split
          · exact ⟨[] :: before, part, rfl, full⟩
          · cases before with
            | nil => exact ⟨[], c :: part, rfl, List.cons_ne_nil c part⟩
            | cons first before => exact ⟨(c :: first) :: before, part, rfl, full⟩

end

/-! ## Encoded names -/

namespace Percent

theorem mem_byte {b : UInt8} {c : Char} (member : c ∈ byte b) :
    c = '%' ∨ (Hex.digit? c).isSome = true := by
  rcases List.mem_cons.mp member with is | member
  · exact .inl is
  · exact .inr (Hex.isSome_digit?_of_mem member)

/-- Encoding makes no slashes. -/
theorem noSlash_encode {inSet : Char → Bool} {cs : List Char} (none : '/' ∉ cs) :
    '/' ∉ (encode inSet cs).toList := by
  rw [encode, String.toList_ofList, List.mem_flatMap]
  intro h
  obtain ⟨c, within, member⟩ := h
  unfold character at member
  split at member
  · obtain ⟨b, -, member⟩ := List.mem_flatMap.mp member
    rcases mem_byte member with is | digit
    · cases is
    · cases digit
  · exact none (List.mem_singleton.mp member ▸ within)

theorem encode_ne_empty {inSet : Char → Bool} {cs : List Char} (some : cs ≠ []) :
    encode inSet cs ≠ "" := by
  obtain ⟨c, cs, rfl⟩ := List.exists_cons_of_ne_nil some
  have first : character inSet c ≠ [] := by
    unfold character
    split
    · intro none
      obtain ⟨b, bs, bytes⟩ := List.exists_cons_of_ne_nil (String.utf8EncodeChar_ne_nil (c := c))
      rw [bytes, List.flatMap_cons] at none
      exact List.cons_ne_nil _ _ (List.append_eq_nil_iff.mp none).1
    · exact List.cons_ne_nil c []
  intro none
  have all := String.toList_eq_nil_iff.mpr none
  rw [encode, String.toList_ofList, List.flatMap_cons] at all
  exact first (List.append_eq_nil_iff.mp all).1

end Percent

namespace Url

/-! ## A slash at the end -/

/-- The names with an empty one at the end. -/
def slashed (names : List String) : List String :=
  if names.getLast? = some "" then names else names ++ [""]

variable {names : List String}

theorem slashed_concat (names : List String) : slashed (names ++ [""]) = names ++ [""] :=
  if_pos List.getLast?_concat

theorem slashed_of_full {name : String} (full : name ≠ "") :
    slashed (names ++ [name]) = names ++ [name] ++ [""] := by
  refine if_neg fun last => full ?_
  rw [List.getLast?_concat] at last
  exact Option.some.inj last

theorem exists_slashed (names : List String) : ∃ before, slashed names = before ++ [""] := by
  rcases List.eq_nil_or_concat names with rfl | ⟨before, name, rfl⟩
  · exact ⟨[], rfl⟩
  · rw [List.concat_eq_append]
    by_cases full : name = ""
    · exact ⟨before, full ▸ slashed_concat before⟩
    · exact ⟨before ++ [name], slashed_of_full full⟩

theorem withSlash_segments {u : Url} (path : u.path = .segments names) :
    u.withSlash = { u with path := .segments (slashed names) } := by
  unfold withSlash slashed
  rw [path]
  dsimp only
  split
  · rw [← path]
  · rfl

/-! ## Texts -/

theorem text_segments_append (before after : List String) :
    (UrlPath.segments (before ++ after)).text =
      (UrlPath.segments before).text ++ (UrlPath.segments after).text := by
  simp only [UrlPath.text, List.map_append, String.join_append]

/-- The text of a path ends in a slash if its last name is empty. -/
theorem endsInSlash_iff (whole : ∀ n ∈ names, '/' ∉ n.toList) :
    (UrlPath.segments names).text.toList.getLast? = some '/' ↔ names.getLast? = some "" := by
  rcases List.eq_nil_or_concat names with rfl | ⟨before, name, rfl⟩
  · exact iff_of_false nofun nofun
  · rw [List.concat_eq_append] at whole ⊢
    have last : (UrlPath.segments (before ++ [name])).text.toList =
        (UrlPath.segments before).text.toList ++ '/' :: name.toList := by
      rw [text_segments_append, String.toList_append]
      simp [UrlPath.text]
    rw [last, List.getLast?_append, List.getLast?_cons, Option.some_or, List.getLast?_concat,
      Option.some_inj, Option.some_inj]
    cases ends : name.toList.getLast? with
    | none =>
        exact iff_of_true rfl (String.toList_eq_nil_iff.mp (List.getLast?_eq_none_iff.mp ends))
    | some c =>
        have member : c ∈ name.toList := List.mem_of_getLast? ends
        refine iff_of_false (fun is => ?_) (fun is => ?_)
        · exact whole name (List.mem_append_right _ List.mem_cons_self) (is ▸ member)
        · rw [is] at member
          cases member

/-- What a slash at the end adds to the text. -/
theorem text_slashed (whole : ∀ n ∈ names, '/' ∉ n.toList) :
    (UrlPath.segments (slashed names)).text = (UrlPath.segments names).text ++
      if (UrlPath.segments names).text.toList.getLast? = some '/' then "" else "/" := by
  unfold slashed
  simp only [endsInSlash_iff whole]
  split
  · rw [String.append_empty]
  · rw [text_segments_append]
    rfl

/-! ## Reading -/

/-- The schemes of the web. -/
def WebScheme (scheme : String) : Prop := scheme = "http" ∨ scheme = "https"

theorem WebScheme.isSpecial {scheme : String} (web : WebScheme scheme) :
    isSpecial scheme = true := by
  rcases web with rfl | rfl <;> decide

theorem WebScheme.not_file {scheme : String} (web : WebScheme scheme) :
    (scheme == "file") = false := by
  rcases web with rfl | rfl <;> decide

/-- A segment of dots, by which a path stays or goes up. -/
def isDots (segment : List Char) : Bool := isUp segment || isHere segment

theorem enter_of_isDots {segment : List Char} (dots : isDots segment = true)
    (path : List String) :
    enter false path segment = path ∨ enter false path segment = path.dropLast := by
  unfold enter
  split
  · refine .inr ?_
    unfold goUp
    split <;> rfl
  · next level =>
      rw [isDots, Bool.eq_false_iff.mpr level, Bool.false_or] at dots
      exact .inl (if_pos dots)

theorem enter_of_not_isDots {segment : List Char} (name : isDots segment = false)
    (path : List String) :
    enter false path segment = path ++ [Percent.encode Percent.path segment] := by
  obtain ⟨level, moves⟩ := Bool.or_eq_false_iff.mp name
  unfold enter
  rw [if_neg (by rw [level]; exact Bool.false_ne_true),
    if_neg (by rw [moves]; exact Bool.false_ne_true)]
  cases drive? segment <;> rfl

theorem pathOf_false (segments : List (List Char)) : pathOf false segments =
    if segments.getLast?.any isDots then segments.foldl (enter false) [] ++ [""]
    else segments.foldl (enter false) [] := rfl

theorem noSlash_enter {path : List String} {segment : List Char}
    (whole : ∀ n ∈ path, '/' ∉ n.toList) (none : '/' ∉ segment) :
    ∀ n ∈ enter false path segment, '/' ∉ n.toList := by
  intro n member
  cases dots : isDots segment with
  | true =>
      rcases enter_of_isDots dots path with is | is
      · exact whole n (is ▸ member)
      · exact whole n ((List.dropLast_subset path) (is ▸ member))
  | false =>
      rw [enter_of_not_isDots dots] at member
      rcases List.mem_append.mp member with member | member
      · exact whole n member
      · rw [List.mem_singleton.mp member]
        exact Percent.noSlash_encode none

theorem noSlash_foldl {segments : List (List Char)} (none : ∀ s ∈ segments, '/' ∉ s)
    {path : List String} (whole : ∀ n ∈ path, '/' ∉ n.toList) :
    ∀ n ∈ segments.foldl (enter false) path, '/' ∉ n.toList := by
  induction segments generalizing path with
  | nil => exact whole
  | cons segment segments ih =>
      obtain ⟨first, none⟩ := List.forall_mem_cons.mp none
      exact ih none (noSlash_enter whole first)

theorem noSlash_pathOf {segments : List (List Char)} (none : ∀ s ∈ segments, '/' ∉ s) :
    ∀ n ∈ pathOf false segments, '/' ∉ n.toList := by
  have whole : ∀ n ∈ segments.foldl (enter false) [], '/' ∉ n.toList := noSlash_foldl none nofun
  intro n member
  rw [pathOf_false] at member
  split at member
  · rcases List.mem_append.mp member with member | member
    · exact whole n member
    · rw [List.mem_singleton.mp member]
      exact List.not_mem_nil
  · exact whole n member

/-- An empty segment at the end is an empty name. -/
theorem pathOf_concat (segments : List (List Char)) :
    pathOf false (segments ++ [[]]) = segments.foldl (enter false) [] ++ [""] := by
  have none : isDots [] = false := by decide
  rw [pathOf_false, List.getLast?_concat, List.foldl_append]
  exact enter_of_not_isDots none _

/-- Behind another one it makes no difference but the slash. -/
theorem slashed_pathOf_concat {before : List (List Char)} {last : List Char} (full : last ≠ []) :
    slashed (pathOf false (before ++ [last] ++ [[]])) =
      slashed (pathOf false (before ++ [last])) := by
  rw [pathOf_concat, slashed_concat, pathOf_false, List.getLast?_concat]
  cases dots : isDots last with
  | true =>
      rw [if_pos (by rw [Option.any_some, dots]), slashed_concat]
  | false =>
      rw [if_neg (by rw [Option.any_some, dots]; exact Bool.false_ne_true), List.foldl_append,
        List.foldl_cons, List.foldl_nil, enter_of_not_isDots dots,
        slashed_of_full (Percent.encode_ne_empty full)]

variable {scheme : String} {place : List Char}

theorem readPath_cons (web : WebScheme scheme) {c : Char} (slash : isSlash true c = true)
    (cs : List Char) :
    readPath scheme (c :: cs) = pathOf false (partsBetween (isSlash true) cs) := by
  unfold readPath
  rw [web.isSpecial, web.not_file]
  dsimp only
  rw [if_pos slash]

theorem readPath_nil (web : WebScheme scheme) : readPath scheme [] = [""] := by
  unfold readPath
  rw [web.isSpecial, web.not_file]
  decide

/-- The names of a path are free of slashes. -/
theorem noSlash_readPath (web : WebScheme scheme) (cs : List Char) :
    ∀ n ∈ readPath scheme cs, '/' ∉ n.toList := by
  unfold readPath
  rw [web.isSpecial, web.not_file]
  refine noSlash_pathOf fun s member slash => ?_
  cases whole_of_mem_partsBetween member '/' slash

/-- A path whose text ends in a slash has an empty name at its end. -/
theorem getLast?_readPath (web : WebScheme scheme) {c : Char} (slash : isSlash true c = true)
    (begins : ∀ d ∈ (place ++ [c]).head?, isSlash true d = true) :
    (readPath scheme (place ++ [c])).getLast? = some "" := by
  cases place with
  | nil =>
      rw [List.nil_append, readPath_cons web slash]
      rfl
  | cons d place =>
      rw [List.cons_append, readPath_cons web (begins d rfl), partsBetween_concat slash,
        pathOf_concat, List.getLast?_concat]

/-- **A slash that is written at the end of a path** makes no difference but this slash. -/
theorem slashed_readPath (web : WebScheme scheme)
    (begins : ∀ c ∈ place.head?, isSlash true c = true)
    (bare : ∀ c ∈ place.getLast?, isSlash true c = false) :
    slashed (readPath scheme (place ++ ['/'])) = slashed (readPath scheme place) := by
  cases place with
  | nil =>
      rw [List.nil_append, readPath_cons web rfl, readPath_nil web]
      rfl
  | cons c cs =>
      have slash := begins c rfl
      have more : cs ≠ [] := by
        rintro rfl
        cases slash.symm.trans (bare c rfl)
      have stays : ∀ d ∈ cs.getLast?, isSlash true d = false := by
        intro d last
        refine bare d ?_
        rw [List.getLast?_cons, Option.mem_def.mp last]
        rfl
      obtain ⟨before, last, parts, full⟩ := getLast?_partsBetween more stays
      rw [List.cons_append, readPath_cons web slash, readPath_cons web slash,
        partsBetween_concat rfl, parts, slashed_pathOf_concat full]

end Url

end ProfileAudit
