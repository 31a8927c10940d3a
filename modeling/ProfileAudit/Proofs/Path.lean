import Mathlib.Data.List.TakeWhile
import ProfileAudit.Path

/-!
# Paths of files in a directory

A name behind the path of a directory adds one component to it, and the directory of the joined path
leads where the path of the directory does (`parent?_join`). It may be written in another way: dots
and repeated slashes at its end are gone. The directory of any path leads where the path does
without its last component (`parent?_cases`).
-/

namespace ProfileAudit.Path

/-! ## Pieces and components -/

theorem go_cons (piece : List Char) (c : Char) (s : List Char) : pieces.go piece (c :: s) =
    if c = '/' then piece.reverse :: pieces.go [] s else pieces.go (c :: piece) s := rfl

theorem go_append_slash (piece s t : List Char) :
    pieces.go piece (s ++ '/' :: t) = pieces.go piece s ++ pieces.go [] t := by
  induction s generalizing piece with
  | nil => rfl
  | cons c s ih =>
      rw [List.cons_append, go_cons, go_cons, ih, ih]
      split <;> rfl

theorem go_of_whole {s : List Char} (whole : '/' ∉ s) (piece : List Char) :
    pieces.go piece s = [piece.reverse ++ s] := by
  induction s generalizing piece with
  | nil => rw [List.append_nil]; rfl
  | cons c s ih =>
      obtain ⟨other, whole⟩ := not_or.mp (mt List.mem_cons.mpr whole)
      rw [go_cons, if_neg (Ne.symm other), ih whole, List.reverse_cons, List.append_assoc]
      rfl

theorem go_ne_nil (piece s : List Char) : pieces.go piece s ≠ [] := by
  induction s generalizing piece with
  | nil => exact List.cons_ne_nil _ _
  | cons c s ih =>
      rw [go_cons]
      split
      · exact List.cons_ne_nil _ _
      · exact ih _

theorem pieces_append_slash (a b : String) : pieces (a ++ "/" ++ b) = pieces a ++ pieces b := by
  have text : (a ++ "/" ++ b).toList = a.toList ++ '/' :: b.toList := by simp
  rw [pieces, text, go_append_slash, List.map_append]
  rfl

theorem components_append_slash (a b : String) :
    components (a ++ "/" ++ b) = components a ++ components b := by
  rw [components, pieces_append_slash, List.filter_append]
  rfl

theorem pieces_of_whole {piece : String} (whole : '/' ∉ piece.toList) : pieces piece = [piece] := by
  rw [pieces, go_of_whole whole]
  simp

/-- A piece leads somewhere if it has something in it and is no dot. -/
theorem components_of_whole {piece : String} (whole : '/' ∉ piece.toList) :
    components piece = if piece = "" ∨ piece = "." then [] else [piece] := by
  rw [components, pieces_of_whole whole]
  by_cases nowhere : piece = "" ∨ piece = "."
  · rw [if_pos nowhere]
    rcases nowhere with rfl | rfl <;> rfl
  · rw [if_neg nowhere]
    simpa [not_or] using nowhere

/-! ## Names -/

/-- A name that a file in a directory can have. -/
structure IsName (name : String) : Prop where
  whole : '/' ∉ name.toList
  named : name ≠ ""
  not_here : name ≠ "."
  not_above : name ≠ ".."

variable {dir name : String}

theorem IsName.pieces_eq (is : IsName name) : pieces name = [name] := pieces_of_whole is.whole

theorem IsName.components_eq (is : IsName name) : components name = [name] := by
  rw [components_of_whole is.whole, if_neg]
  exact not_or.mpr ⟨is.named, is.not_here⟩

theorem IsName.not_isAbsolute (is : IsName name) : isAbsolute name = false := by
  unfold isAbsolute
  cases text : name.toList with
  | nil => rfl
  | cons c s =>
      have other : '/' ≠ c := fun same => is.whole (by rw [text, same]; exact List.mem_cons_self)
      exact beq_false_of_ne fun same => other (Option.some.inj same).symm

/-! ## Joining -/

/-- A path is absolute whatever is behind it. -/
theorem isAbsolute_append (some : dir ≠ "") (rest : String) :
    isAbsolute (dir ++ rest) = isAbsolute dir := by
  unfold isAbsolute
  rw [String.toList_append]
  cases text : dir.toList with
  | nil => exact absurd (String.toList_eq_nil_iff.mp text) some
  | cons c s => rfl

/-- A name behind a path: there is a slash between them, be it the last one of the path or not. -/
theorem IsName.exists_base (is : IsName name) (some : dir ≠ "") : ∃ base,
    join dir name = base ++ "/" ++ name ∧ components base = components dir ∧
      isAbsolute (base ++ "/") = isAbsolute dir := by
  have relative : isAbsolute name = false := is.not_isAbsolute
  by_cases last : dir.toList.getLast? = Option.some '/'
  · obtain ⟨s, text⟩ := List.getLast?_eq_some_iff.mp last
    have closed : dir = String.ofList s ++ "/" := by
      apply String.toList_injective
      simp [text]
    refine ⟨String.ofList s, ?_, ?_, ?_⟩
    · rw [join, relative, ← closed]
      simp [last]
    · have above := components_append_slash (String.ofList s) ""
      rw [String.append_empty, ← closed] at above
      rw [above]
      exact (List.append_nil _).symm
    · rw [← closed]
  · refine ⟨dir, ?_, rfl, isAbsolute_append some "/"⟩
    rw [join, relative]
    simp [last, some]

theorem IsName.join_empty (is : IsName name) : join "" name = name := by
  rw [join, is.not_isAbsolute]
  simp

/-- The name is one more component. -/
theorem IsName.components_join (is : IsName name) (dir : String) :
    components (join dir name) = components dir ++ [name] := by
  by_cases none : dir = ""
  · subst none
    rw [is.join_empty, is.components_eq]
    rfl
  · obtain ⟨base, joined, same, -⟩ := is.exists_base none
    rw [joined, components_append_slash, same, is.components_eq]

theorem IsName.isAbsolute_join (is : IsName name) (dir : String) :
    isAbsolute (join dir name) = isAbsolute dir := by
  by_cases none : dir = ""
  · subst none
    rw [is.join_empty, is.not_isAbsolute]
    rfl
  · obtain ⟨base, joined, -, absolute⟩ := is.exists_base none
    rw [joined, isAbsolute_append (by simp), absolute]

theorem IsName.not_endsInDirectory_join (is : IsName name) (dir : String) :
    endsInDirectory (join dir name) = false := by
  have last : (pieces (join dir name)).getLast? = some name := by
    by_cases none : dir = ""
    · subst none
      rw [is.join_empty, is.pieces_eq]
      rfl
    · obtain ⟨base, joined, -⟩ := is.exists_base none
      rw [joined, pieces_append_slash, is.pieces_eq, List.getLast?_concat]
  rw [endsInDirectory, last]
  simp [is.named, is.not_here, is.not_above]

theorem IsName.join_ne_empty (is : IsName name) (dir : String) : join dir name ≠ "" := by
  intro empty
  have none := is.components_join dir
  rw [empty] at none
  exact List.append_ne_nil_of_right_ne_nil _ (List.cons_ne_nil name []) none.symm

/-! ## The directory of a joined path -/

/-- A slash at the end of a path, or one before a dot, leads nowhere else. -/
theorem components_append_of_none {b : String} (none : components b = []) (a : String) :
    components (a ++ "/" ++ b) = components a := by
  rw [components_append_slash, none, List.append_nil]

theorem components_slash (s : List Char) : components (String.ofList ('/' :: s).reverse) =
    components (String.ofList s.reverse) := by
  have above := components_append_of_none (b := "") rfl (String.ofList s.reverse)
  simpa using above

theorem isAbsolute_ofList_reverse (s : List Char) :
    isAbsolute (String.ofList s.reverse) = (s.getLast? == some '/') := by
  rw [isAbsolute, String.toList_ofList, List.head?_reverse]

/-- Dropping slashes and dots from the end of a path makes no difference to where it leads. -/
theorem dropEnd_cases (fuel : Nat) (s : List Char) : ∃ dropped, s = dropped ++ dropEnd fuel s ∧
    (dropped = [] ∨ dropped.getLast? = some '/') ∧
    components (String.ofList (dropEnd fuel s).reverse) = components (String.ofList s.reverse) := by
  induction fuel, s using dropEnd.induct with
  | case1 fuel s ih =>
      obtain ⟨dropped, text, last, same⟩ := ih
      refine ⟨'/' :: dropped, congrArg _ text, .inr ?_, same.trans (components_slash s).symm⟩
      rcases last with rfl | last
      · rfl
      · rw [List.getLast?_cons, last]
        rfl
  | case2 fuel s ih =>
      obtain ⟨dropped, text, last, same⟩ := ih
      have above := components_append_of_none (b := ".") rfl (String.ofList s.reverse)
      refine ⟨'.' :: '/' :: dropped, congrArg _ (congrArg _ text), .inr ?_, same.trans ?_⟩
      · rcases last with rfl | last
        · rfl
        · rw [List.getLast?_cons, List.getLast?_cons, last]
          rfl
      · simpa [String.append_assoc] using above.symm
  | case3 fuel s slash dot =>
      rw [dropEnd.eq_3 fuel s slash dot]
      exact ⟨[], rfl, .inl rfl, rfl⟩

/-- A path is absolute if all of it can be dropped. -/
theorem isAbsolute_of_dropEnd_nil {fuel : Nat} {s : List Char} (some : s ≠ [])
    (nothing : dropEnd fuel s = []) : isAbsolute (String.ofList s.reverse) = true := by
  obtain ⟨dropped, text, last, -⟩ := dropEnd_cases fuel s
  rw [nothing, List.append_nil] at text
  rcases last with none | slash
  · exact absurd (text.trans none) some
  · rw [isAbsolute_ofList_reverse, text, slash]
    rfl

/-- What can be dropped from the end of a path is behind its first character. -/
theorem isAbsolute_dropEnd {fuel : Nat} {s : List Char} (left : dropEnd fuel s ≠ []) :
    isAbsolute (String.ofList (dropEnd fuel s).reverse) = isAbsolute (String.ofList s.reverse) := by
  obtain ⟨dropped, text, -⟩ := dropEnd_cases fuel s
  obtain ⟨first, is⟩ := Option.ne_none_iff_exists'.mp (mt List.getLast?_eq_none_iff.mp left)
  have same : s.getLast? = some first := by
    rw [text, List.getLast?_append, is]
    rfl
  rw [isAbsolute_ofList_reverse, isAbsolute_ofList_reverse, is, same]

/-- The directory of a path, from what is before its last piece. -/
theorem exists_above (s : List Char) : ∃ above,
    (match dropEnd ('/' :: s).length ('/' :: s) with
      | [] => some "/"
      | rest => some (String.ofList rest.reverse)) = some above ∧ above ≠ "" ∧
    components above = components (String.ofList s.reverse) ∧
    isAbsolute above = isAbsolute (String.ofList ('/' :: s).reverse) := by
  obtain ⟨-, -, -, leads⟩ := dropEnd_cases ('/' :: s).length ('/' :: s)
  rw [components_slash] at leads
  split
  · next nothing =>
      rw [nothing] at leads
      refine ⟨"/", rfl, nofun, leads, ?_⟩
      rw [isAbsolute_of_dropEnd_nil (List.cons_ne_nil _ _) nothing]
      rfl
  · next left =>
      refine ⟨_, rfl, fun empty => left ?_, leads, isAbsolute_dropEnd left⟩
      exact List.reverse_eq_nil_iff.mp (String.ofList_eq_empty_iff.mp empty)

/-- Nothing is dropped from the end of a name. -/
theorem IsName.dropEnd_eq (is : IsName name) (fuel : Nat) (s : List Char) :
    dropEnd fuel (name.toList.reverse ++ s) = name.toList.reverse ++ s := by
  have whole : '/' ∉ name.toList.reverse := mt List.mem_reverse.mp is.whole
  have named : name.toList.reverse ≠ [] := by simpa using is.named
  have not_here : name.toList.reverse ≠ ['.'] := fun same => is.not_here (by
    rw [List.reverse_eq_iff] at same
    exact String.toList_injective same)
  generalize name.toList.reverse = cs at whole named not_here
  apply dropEnd.eq_3
  · intro _ _ _ text
    cases cs with
    | nil => exact named rfl
    | cons c cs =>
        cases text
        exact whole List.mem_cons_self
  · intro _ _ _ text
    match cs with
    | [] => exact named rfl
    | [c] =>
        cases text
        exact not_here rfl
    | c :: d :: cs =>
        cases text
        exact whole (List.mem_cons_of_mem _ List.mem_cons_self)

/-- The directory of a joined path leads where the path of the directory does. -/
theorem IsName.parent?_join (is : IsName name) (dir : String) :
    ∃ above, parent? (join dir name) = some above ∧ (above = "" → dir = "") ∧
      components above = components dir ∧ isAbsolute above = isAbsolute dir := by
  have kept : ∀ c ∈ name.toList.reverse, (c != '/') = true := fun c member =>
    bne_iff_ne.mpr fun same => is.whole (same ▸ List.mem_reverse.mp member)
  by_cases none : dir = ""
  · subst none
    refine ⟨"", ?_, fun _ => rfl, rfl, rfl⟩
    have drops := is.dropEnd_eq name.length []
    rw [List.append_nil] at drops
    have without : name.toList.reverse.dropWhile (· != '/') = [] :=
      List.dropWhile_eq_nil_iff.mpr kept
    rw [is.join_empty, parent?, drops]
    simp [is.named, without]
  · obtain ⟨base, joined, same, absolute⟩ := is.exists_base none
    have text : (join dir name).toList.reverse =
        name.toList.reverse ++ '/' :: base.toList.reverse := by
      rw [joined]
      simp
    have before : (name.toList.reverse ++ '/' :: base.toList.reverse).dropWhile (· != '/') =
        '/' :: base.toList.reverse := by
      rw [List.dropWhile_append_of_pos kept]
      rfl
    obtain ⟨above, is_above, named, leads, begins⟩ := exists_above base.toList.reverse
    have closed : String.ofList ('/' :: base.toList.reverse).reverse = base ++ "/" := by simp
    rw [List.reverse_reverse, String.ofList_toList, same] at leads
    rw [closed, absolute] at begins
    refine ⟨above, ?_, fun empty => absurd empty named, leads, begins⟩
    rw [parent?, text, is.dropEnd_eq]
    simp only [before]
    rw [if_neg (by simp [is.named])]
    exact is_above

/-! ## The directory of any path -/

/-- With fuel for every character nothing is left at the end that could be dropped. -/
theorem dropEnd_stops {fuel : Nat} {s : List Char} (enough : s.length ≤ fuel) (rest : List Char) :
    dropEnd fuel s ≠ '/' :: rest ∧ dropEnd fuel s ≠ '.' :: '/' :: rest := by
  induction fuel, s using dropEnd.induct with
  | case1 fuel s ih => exact ih (Nat.le_of_succ_le_succ enough)
  | case2 fuel s ih =>
      apply ih
      rw [List.length_cons, List.length_cons] at enough
      omega
  | case3 fuel s slash dot =>
      rw [dropEnd.eq_3 fuel s slash dot]
      cases fuel with
      | zero =>
          rw [List.eq_nil_of_length_eq_zero (Nat.le_zero.mp enough)]
          exact ⟨nofun, nofun⟩
      | succ fuel => exact ⟨slash fuel rest rfl, dot fuel rest rfl⟩

/-- A text has no slash, or it is cut at its first one. -/
theorem cut_cases (s : List Char) : ('/' ∉ s ∧ s.dropWhile (· != '/') = []) ∨
    ∃ last before, s = last ++ '/' :: before ∧ '/' ∉ last ∧
      s.dropWhile (· != '/') = '/' :: before := by
  have text : s.takeWhile (· != '/') ++ s.dropWhile (· != '/') = s :=
    List.takeWhile_append_dropWhile
  have whole : '/' ∉ s.takeWhile (· != '/') := fun slash => by
    simpa using List.mem_takeWhile_imp slash
  have first := List.head?_dropWhile_not (· != '/') s
  cases onward : s.dropWhile (· != '/') with
  | nil =>
      rw [onward, List.append_nil] at text
      exact .inl ⟨text ▸ whole, rfl⟩
  | cons c before =>
      rw [onward] at text first
      have slash : c = '/' := by simpa using first
      exact .inr ⟨_, before, slash ▸ text.symm, whole, slash ▸ rfl⟩

theorem whole_ofList {s : List Char} (whole : '/' ∉ s) :
    '/' ∉ (String.ofList s.reverse).toList := by
  rw [String.toList_ofList, List.mem_reverse]
  exact whole

/-- A text whose end cannot be dropped ends in a component. -/
theorem components_of_stopped {last before : List Char} (whole : '/' ∉ last)
    (named : last ≠ []) (not_here : last ≠ ['.']) :
    components (String.ofList (last ++ '/' :: before).reverse) =
      components (String.ofList before.reverse) ++ [String.ofList last.reverse] := by
  have text : String.ofList (last ++ '/' :: before).reverse =
      String.ofList before.reverse ++ "/" ++ String.ofList last.reverse := by
    apply String.toList_injective
    simp
  rw [text, components_append_slash, components_of_whole (whole_ofList whole), if_neg]
  intro nowhere
  rcases nowhere with empty | dot
  · exact named (List.reverse_eq_nil_iff.mp (String.ofList_eq_empty_iff.mp empty))
  · have same := congrArg String.toList dot
    rw [String.toList_ofList, List.reverse_eq_iff] at same
    exact not_here same

/-- A path without components has no directory; that of another path leads where the path does
without its last component. -/
theorem parent?_cases (path : String) : (parent? path = none ∧ components path = []) ∨
    ∃ dir, parent? path = some dir ∧ components dir = (components path).dropLast ∧
      isAbsolute dir = isAbsolute path := by
  obtain ⟨-, -, -, leads⟩ := dropEnd_cases path.length path.toList.reverse
  have enough : path.toList.reverse.length ≤ path.length :=
    Nat.le_of_eq (List.length_reverse.trans String.length_toList)
  have stops := dropEnd_stops enough
  have begins := @isAbsolute_dropEnd path.length path.toList.reverse
  rw [List.reverse_reverse, String.ofList_toList] at leads begins
  unfold parent?
  dsimp only
  generalize dropEnd path.length path.toList.reverse = s at leads stops begins ⊢
  by_cases empty : s = []
  · subst empty
    exact .inl ⟨rfl, leads.symm⟩
  · right
    rw [if_neg (mt List.isEmpty_iff.mp empty), ← leads, ← begins empty]
    rcases cut_cases s with ⟨whole, nothing⟩ | ⟨last, before, rfl, whole, onward⟩
    · rw [nothing, components_of_whole (whole_ofList whole)]
      refine ⟨"", rfl, ?_, ?_⟩
      · split <;> rfl
      · rw [isAbsolute_ofList_reverse]
        exact (beq_false_of_ne fun slash => whole (List.mem_of_getLast? slash)).symm
    · have named : last ≠ [] := fun none => (stops before).1 (by rw [none]; rfl)
      have not_here : last ≠ ['.'] := fun dot => (stops before).2 (by rw [dot]; rfl)
      have first : isAbsolute (String.ofList (last ++ '/' :: before).reverse) =
          isAbsolute (String.ofList ('/' :: before).reverse) := by
        rw [isAbsolute_ofList_reverse, isAbsolute_ofList_reverse, List.getLast?_append,
          List.getLast?_cons]
        rfl
      obtain ⟨dir, above, -, leads, begins⟩ := exists_above before
      rw [onward, components_of_stopped whole named not_here, List.dropLast_concat, first]
      exact ⟨dir, above, leads, begins⟩

/-- A path that does not end in a directory ends in a name. -/
theorem exists_last_component {path : String} (file : endsInDirectory path = false) :
    ∃ front name, components path = front ++ [name] ∧ name ≠ ".." := by
  have some : pieces path ≠ [] := mt List.map_eq_nil_iff.mp (go_ne_nil [] path.toList)
  obtain ⟨name, last⟩ := Option.ne_none_iff_exists'.mp (mt List.getLast?_eq_none_iff.mp some)
  obtain ⟨front, all⟩ := List.getLast?_eq_some_iff.mp last
  rw [endsInDirectory, last] at file
  simp only [Bool.or_eq_false_iff, beq_eq_false_iff_ne] at file
  obtain ⟨⟨named, not_here⟩, not_above⟩ := file
  refine ⟨front.filter fun p => p != "" && p != ".", name, ?_, not_above⟩
  rw [components, all, List.filter_append]
  simp [named, not_here]

end ProfileAudit.Path
