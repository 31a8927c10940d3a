import Mathlib.Data.List.TakeWhile
import ProfileAudit.Http.Request
import ProfileAudit.Proofs.Result
import ProfileAudit.Proofs.Url.Path

/-!
# Addresses on the web

The text of an address on the web is cut into a scheme, an authority, a path and what follows
(`Url.Cut`), and what is read of it is read part by part (`Url.Cut.ofText_eq_ok_iff`). So a slash
that is put at the end of the path, wherever in the text that is (`Url.Slashed`), changes nothing
but the path, and there nothing but the slash (`Url.exists_of_slashed`).
-/

namespace ProfileAudit.Url

variable {u : Url} {scheme : String} {cs : List Char}

theorem drop_takeWhile (p : Char → Bool) (cs : List Char) :
    cs.drop (cs.takeWhile p).length = cs.dropWhile p := by
  have whole := List.takeWhile_append_dropWhile (p := p) (l := cs)
  calc cs.drop (cs.takeWhile p).length
    _ = (cs.takeWhile p ++ cs.dropWhile p).drop (cs.takeWhile p).length := by rw [whole]
    _ = cs.dropWhile p := List.drop_left

/-! ## Schemes -/

/-- A character of a scheme. -/
def isSchemeChar (c : Char) : Bool := c.isAlphanum || c == '+' || c == '-' || c == '.'

/-- The text of a scheme, in letters of any case. -/
structure IsScheme (scheme : String) (name : List Char) : Prop where
  chars : ∀ c ∈ name, isSchemeChar c = true
  first : name.head?.any Char.isAlpha = true
  lower : scheme = String.ofList (name.map LetterCase.plainLower)

theorem readScheme_colon {name : List Char} (is : IsScheme scheme name) (rest : List Char) :
    readScheme (name ++ ':' :: rest) = some (scheme, rest) := by
  have taken : (name ++ ':' :: rest).takeWhile isSchemeChar = name := by
    rw [List.takeWhile_append_of_pos is.chars, List.takeWhile_cons_of_neg (by decide),
      List.append_nil]
  unfold readScheme
  simp only [← isSchemeChar.eq_def, taken, List.drop_left, is.first, is.lower, if_true]

theorem exists_of_readScheme {rest : List Char} (read : readScheme cs = some (scheme, rest)) :
    ∃ name, IsScheme scheme name ∧ cs = name ++ ':' :: rest := by
  unfold readScheme at read
  simp only [drop_takeWhile] at read
  split at read
  · next rest' colon =>
      split at read
      · next first =>
          cases read
          refine ⟨cs.takeWhile isSchemeChar, ⟨fun c => List.mem_takeWhile_imp, first, rfl⟩, ?_⟩
          rw [← colon]
          exact List.takeWhile_append_dropWhile.symm
      · cases read
  · cases read

/-! ## Authorities -/

theorem drop_hostLength (inside : Bool) (cs : List Char) :
    cs.drop (hostLength inside cs) = [] ∨ ∃ rest, cs.drop (hostLength inside cs) = ':' :: rest := by
  induction cs generalizing inside with
  | nil => exact .inl List.drop_nil
  | cons c cs ih =>
      cases inside with
      | true =>
          rw [hostLength, Nat.add_comm, List.drop_succ_cons]
          exact ih _
      | false =>
          rw [hostLength]
          split
          · next colon => exact .inr ⟨cs, by rw [beq_iff_eq.mp colon]; rfl⟩
          · rw [Nat.add_comm, List.drop_succ_cons]
            exact ih _

/-- Only a backslash may stand behind a port. -/
theorem rest_of_readPort {port : Option Nat} {rest : List Char} (none : '\\' ∉ cs)
    (read : readPort scheme cs = .ok (port, rest)) : rest = [] := by
  unfold readPort at read
  dsimp only at read
  split at read
  · cases read
  · next fine =>
      cases read
      rw [Bool.not_eq_true, Bool.or_eq_false_iff] at fine
      cases ends : cs.drop (cs.takeWhile Char.isDigit).length with
      | nil => rfl
      | cons c rest =>
          rw [ends] at fine
          have is : c = '\\' := by simpa using fine.2
          have member : c ∈ cs := List.mem_of_mem_drop (ends ▸ List.mem_cons_self)
          exact absurd (is ▸ member) none

theorem rest_of_readHost (web : WebScheme scheme) {host : Host} {port : Option Nat}
    {rest : List Char} (none : '\\' ∉ cs) (read : readHost scheme cs = .ok (host, port, rest)) :
    rest = [] ∧ cs ≠ [] := by
  unfold readHost at read
  simp only [web.isSpecial, Bool.true_or, Bool.and_true, if_true] at read
  split at read
  · cases read
  next some =>
  obtain ⟨h, -, read⟩ := bind_eq_ok_iff.mp read
  refine ⟨?_, fun empty => some (by rw [empty]; rfl)⟩
  rcases drop_hostLength false cs with behind | ⟨more, behind⟩
  · simp only [behind] at read
    cases read
    rfl
  · simp only [behind] at read
    obtain ⟨⟨p, left⟩, port, is⟩ := bind_eq_ok_iff.mp read
    cases is
    refine rest_of_readPort (fun member => none ?_) port
    exact List.mem_of_mem_drop (behind ▸ List.mem_cons_of_mem ':' member)

/-- Nothing is left of the text of an authority, and there is a host in it. -/
theorem rest_of_readAuthority (web : WebScheme scheme) {a : Authority} {rest : List Char}
    (none : '\\' ∉ cs) (read : readAuthority scheme cs = .ok (a, rest)) :
    rest = [] ∧ cs ≠ [] ∧ cs ≠ ['@'] := by
  obtain ⟨⟨host, port, left⟩, hosted, read⟩ := bind_eq_ok_iff.mp read
  dsimp only at read
  split at read
  · cases read
  cases read
  have within : ∀ c ∈ (cs.reverse.takeWhile (· != '@')).reverse, c ∈ cs := fun c member =>
    List.mem_reverse.mp ((List.takeWhile_subset _) (List.mem_reverse.mp member))
  obtain ⟨done, some⟩ := rest_of_readHost web (fun member => none (within _ member)) hosted
  refine ⟨done, fun empty => some ?_, fun at' => some ?_⟩
  · rw [empty]
    rfl
  · rw [at']
    rfl

/-! ## Parts -/

/-- The URL of a host with some names in its path. -/
def located (scheme : String) (a : Authority) (names : List String) : Url where
  scheme
  authority := some a
  path := .segments names

/-- How the text of an address on the web is cut: its scheme and the slashes behind it, the
authority, the path, and what follows. -/
structure Cut (cs : List Char) (scheme : String) (before within place tail : List Char) : Prop where
  web : WebScheme scheme
  text : cs = before ++ (within ++ (place ++ tail))
  opens : ∃ name slashes, before = name ++ ':' :: slashes ∧ IsScheme scheme name ∧
    ∀ c ∈ slashes, isSlash true c = true
  hosted : within ≠ []
  inside : ∀ c ∈ within, isSlash true c = false ∧ endsPath c = false
  begins : ∀ c ∈ place.head?, isSlash true c = true
  stays : ∀ c ∈ place, endsPath c = false
  ends : ∀ c ∈ tail.head?, endsPath c = true

/-- What follows a path makes no difference to what stands before it. -/
theorem withRest_eq (u : Url) (cs : List Char) : ∃ query fragment, withRest u cs =
    { u with query, fragment } := by
  unfold withRest
  dsimp only
  split
  · exact ⟨_, _, rfl⟩
  · exact ⟨u.query, _, rfl⟩

theorem withRest_path (u : Url) (path : UrlPath) (cs : List Char) :
    withRest { u with path } cs = { withRest u cs with path } := by
  unfold withRest
  dsimp only
  split <;> rfl

theorem scheme_withRest (u : Url) (cs : List Char) : (withRest u cs).scheme = u.scheme := by
  obtain ⟨query, fragment, rest⟩ := withRest_eq u cs
  rw [rest]

variable {before within place tail : List Char}

theorem takeWhile_of_head? {p : Char → Bool} (all : ∀ c ∈ within, p c = true)
    (stops : ∀ c ∈ tail.head?, p c = false) : (within ++ tail).takeWhile p = within ∧
      (within ++ tail).dropWhile p = tail := by
  have none : tail.takeWhile p = [] ∧ tail.dropWhile p = tail := by
    cases tail with
    | nil => exact ⟨rfl, rfl⟩
    | cons c tail =>
        have stop : ¬ p c = true := by
          rw [stops c rfl]
          exact Bool.false_ne_true
        exact ⟨List.takeWhile_cons_of_neg stop, List.dropWhile_cons_of_neg stop⟩
  rw [List.takeWhile_append_of_pos all, List.dropWhile_append_of_pos all, none.1, none.2,
    List.append_nil]
  exact ⟨rfl, rfl⟩

namespace Cut

variable (cut : Cut cs scheme before within place tail)
include cut

theorem readScheme_eq : ∃ slashes, readScheme cs =
    some (scheme, slashes ++ (within ++ (place ++ tail))) ∧
      ∀ c ∈ slashes, isSlash true c = true := by
  obtain ⟨name, slashes, opens, is, all⟩ := cut.opens
  refine ⟨slashes, ?_, all⟩
  rw [cut.text, opens, List.append_assoc, List.cons_append, readScheme_colon is]

/-- The first end of a path is that of the tail. -/
theorem takeWhile_append_tail {front : List Char} (stays : ∀ c ∈ front, endsPath c = false) :
    (front ++ tail).takeWhile (!endsPath ·) = front ∧
      (front ++ tail).dropWhile (!endsPath ·) = tail := by
  refine takeWhile_of_head? (fun c member => ?_) (fun c first => ?_)
  · rw [stays c member]
    rfl
  · rw [cut.ends c first]
    rfl

/-- The first end of an authority is where the path begins. -/
theorem takeWhile_within : (within ++ (place ++ tail)).takeWhile
    (fun c => !isSlash true c && !endsPath c) = within := by
  refine (takeWhile_of_head? (fun c member => ?_) (fun c first => ?_)).1
  · rw [(cut.inside c member).1, (cut.inside c member).2]
    rfl
  · cases place with
    | nil => rw [cut.ends c first, Bool.not_true, Bool.and_false]
    | cons d place => rw [cut.begins c first, Bool.not_true, Bool.false_and]

theorem ofText_eq {s : String} (text : meaningful s = cs) :
    ofText s = afterSlashes scheme (within ++ (place ++ tail)) := by
  obtain ⟨slashes, read, all⟩ := cut.readScheme_eq
  have stops : ∀ c ∈ (within ++ (place ++ tail)).head?, isSlash true c = false := by
    obtain ⟨c, more, rfl⟩ := List.exists_cons_of_ne_nil cut.hosted
    intro d first
    cases first
    exact (cut.inside c List.mem_cons_self).1
  unfold ofText
  rw [text, read]
  have dropped := (takeWhile_of_head? all stops).2
  rcases cut.web with rfl | rfl
  · exact congrArg (afterSlashes "http") dropped
  · exact congrArg (afterSlashes "https") dropped

/-- **An address is read part by part.** -/
theorem ofText_eq_ok_iff {s : String} (text : meaningful s = cs) : ofText s = .ok u ↔
    ∃ a, readAuthority scheme within = .ok (a, []) ∧
      u = withRest (located scheme a (readPath scheme place)) tail := by
  have none : '\\' ∉ within := fun member => by cases (cut.inside _ member).1
  have taken := (cut.takeWhile_append_tail cut.stays).1
  rw [cut.ofText_eq text]
  unfold afterSlashes
  simp only [cut.web.isSpecial, cut.takeWhile_within, List.drop_left]
  split
  · next at' =>
      refine iff_of_false nofun fun read => ?_
      obtain ⟨a, read, -⟩ := read
      rw [beq_iff_eq.mp (Bool.and_eq_true_iff.mp at').1] at read
      exact (rest_of_readAuthority cut.web (by decide) read).2.2 rfl
  · rw [bind_eq_ok_iff]
    constructor
    · intro read
      obtain ⟨⟨a, rest⟩, read, is⟩ := read
      cases (rest_of_readAuthority cut.web none read).1
      refine ⟨a, read, ?_⟩
      simp only [List.nil_append, taken, List.drop_left,
        Bool.not_true, Bool.and_false, Bool.false_eq_true, if_false] at is
      exact (Except.ok.inj is).symm
    · intro read
      obtain ⟨a, read, is⟩ := read
      refine ⟨(a, []), read, ?_⟩
      simp only [List.nil_append, taken, List.drop_left,
        Bool.not_true, Bool.and_false, Bool.false_eq_true, if_false]
      rw [is]
      rfl

end Cut

/-! ## Every address on the web is cut so -/

theorem scheme_of_afterSlashes (read : afterSlashes scheme cs = .ok u) : u.scheme = scheme := by
  unfold afterSlashes at read
  dsimp only at read
  split at read
  · cases read
  · obtain ⟨⟨a, rest⟩, -, is⟩ := bind_eq_ok_iff.mp read
    rw [← Except.ok.inj is, scheme_withRest]

theorem scheme_of_afterScheme (read : afterScheme scheme cs = .ok u) : u.scheme = scheme := by
  unfold afterScheme at read
  split at read
  · exact scheme_of_afterSlashes read
  · rw [← Except.ok.inj read, scheme_withRest]

theorem scheme_of_readFile (read : readFile cs = .ok u) : u.scheme = "file" := by
  have done {hosted : Except UrlFault (Host × List Char)} {f : Host × List Char → Url}
      (read : (hosted >>= fun x => .ok (f x)) = .ok u) (file : ∀ x, (f x).scheme = "file") :
      u.scheme = "file" := by
    obtain ⟨x, -, is⟩ := bind_eq_ok_iff.mp read
    rw [← Except.ok.inj is, file]
  unfold readFile at read
  dsimp only at read
  split at read
  · split at read
    · exact done read fun _ => scheme_withRest _ _
    · exact done read fun _ => scheme_withRest _ _
  · exact done read fun _ => scheme_withRest _ _

theorem webScheme_of_isWeb (web : u.isWeb = true) : WebScheme u.scheme :=
  (Bool.or_eq_true_iff.mp web).imp beq_iff_eq.mp beq_iff_eq.mp

/-- What is read is an address on the web only if its scheme is one. -/
theorem exists_afterSlashes {s : String} (read : ofText s = .ok u) (web : WebScheme u.scheme) :
    ∃ rest, readScheme (meaningful s) = some (u.scheme, rest) ∧
      afterSlashes u.scheme (rest.dropWhile (isSlash true)) = .ok u := by
  unfold ofText at read
  split at read
  · cases read
  · have other := web.not_file
    rw [scheme_of_readFile read] at other
    cases other
  · next scheme rest _ found =>
      split at read
      · cases scheme_of_afterSlashes read
        exact ⟨rest, found, read⟩
      · next plain =>
          cases scheme_of_afterScheme read
          exact absurd web.isSpecial plain

theorem hosted_of_afterSlashes (web : WebScheme scheme) (read : afterSlashes scheme cs = .ok u) :
    cs.takeWhile (fun c => !isSlash true c && !endsPath c) ≠ [] := by
  unfold afterSlashes at read
  simp only [web.isSpecial] at read
  split at read
  · cases read
  · obtain ⟨⟨a, rest⟩, read, -⟩ := bind_eq_ok_iff.mp read
    refine (rest_of_readAuthority web (fun member => ?_) read).2.1
    have inside := List.mem_takeWhile_imp member
    cases inside

theorem head?_dropWhile {p : Char → Bool} : ∀ c ∈ (cs.dropWhile p).head?, p c = false := by
  intro c first
  cases rest : cs.dropWhile p with
  | nil =>
      rw [rest] at first
      cases first
  | cons d more =>
      have stops := List.head_dropWhile_not p (l := cs) (by simp [rest])
      rw [rest] at first
      cases first
      simpa [rest] using stops

theorem exists_cut {s : String} (read : ofText s = .ok u) (web : u.isWeb = true) :
    ∃ before within place tail, Cut (meaningful s) u.scheme before within place tail := by
  have web := webScheme_of_isWeb web
  obtain ⟨rest, found, read⟩ := exists_afterSlashes read web
  obtain ⟨name, is, text⟩ := exists_of_readScheme found
  have hosted := hosted_of_afterSlashes web read
  generalize onward : rest.dropWhile (isSlash true) = cs at hosted read
  refine ⟨name ++ ':' :: rest.takeWhile (isSlash true),
    cs.takeWhile fun c => !isSlash true c && !endsPath c,
    (cs.dropWhile fun c => !isSlash true c && !endsPath c).takeWhile (!endsPath ·),
    (cs.dropWhile fun c => !isSlash true c && !endsPath c).dropWhile (!endsPath ·),
    web, ?_, ⟨name, _, rfl, is, fun c => List.mem_takeWhile_imp⟩, hosted, ?_, ?_, ?_, ?_⟩
  · rw [List.takeWhile_append_dropWhile, List.takeWhile_append_dropWhile, text, ← onward,
      List.append_assoc, List.cons_append, List.takeWhile_append_dropWhile]
  · intro c member
    simpa using List.mem_takeWhile_imp member
  · intro c first
    rw [List.head?_takeWhile, Option.mem_filter_iff] at first
    have stops := head?_dropWhile c first.1
    rw [first.2, Bool.and_true] at stops
    simpa using stops
  · intro c member
    simpa using List.mem_takeWhile_imp member
  · intro c first
    simpa using head?_dropWhile c first

/-! ## A slash at the end of a path -/

/-- What counts of the text up to the end of the path. -/
def upToPath (address : String) : List Char := (meaningful address).takeWhile (!endsPath ·)

/-- What counts of the text behind the path. -/
def behindPath (address : String) : List Char := (meaningful address).dropWhile (!endsPath ·)

/-- The second address is the first one with a slash at the end of its path, where there is none.
What does not count of their texts may differ. -/
structure Slashed (address address' : String) : Prop where
  put : meaningful address' = upToPath address ++ '/' :: behindPath address
  bare : ∀ c ∈ (upToPath address).getLast?, isSlash true c = false

/-- A character is no end of a path if it has a property that these ends have not. -/
theorem not_endsPath_of {p : Char → Bool} {c : Char} (holds : p c = true)
    (query : p '?' = false) (fragment : p '#' = false) : endsPath c = false := by
  rw [endsPath, Bool.or_eq_false_iff]
  constructor
  · refine beq_false_of_ne fun is => ?_
    cases (is ▸ holds).symm.trans query
  · refine beq_false_of_ne fun is => ?_
    cases (is ▸ holds).symm.trans fragment

variable {address address' : String}

namespace Cut

variable (cut : Cut (meaningful address) scheme before within place tail)
include cut

theorem upToPath_eq :
    upToPath address = before ++ (within ++ place) ∧ behindPath address = tail := by
  have stays : ∀ c ∈ before ++ (within ++ place), endsPath c = false := by
    obtain ⟨name, slashes, opens, is, all⟩ := cut.opens
    intro c member
    simp only [opens, List.mem_append, List.mem_cons] at member
    rcases member with (member | rfl | member) | member | member
    · exact not_endsPath_of (is.chars c member) rfl rfl
    · decide
    · exact not_endsPath_of (all c member) rfl rfl
    · exact (cut.inside c member).2
    · exact cut.stays c member
  rw [upToPath, behindPath, cut.text, ← List.append_assoc within, ← List.append_assoc before]
  exact cut.takeWhile_append_tail stays

/-- What the text of the path ends in. -/
theorem getLast?_upToPath : (upToPath address).getLast? = (place.getLast?).or within.getLast? := by
  obtain ⟨c, last⟩ := Option.isSome_iff_exists.mp (List.getLast?_isSome.mpr cut.hosted)
  rw [cut.upToPath_eq.1, List.getLast?_append, List.getLast?_append, last]
  cases place.getLast? <;> rfl

/-- The path of the other address has the slash. -/
theorem slashed (slashed : Slashed address address') :
    Cut (meaningful address') scheme before within (place ++ ['/']) tail ∧
      ∀ c ∈ place.getLast?, isSlash true c = false := by
  refine ⟨⟨cut.web, ?_, cut.opens, cut.hosted, cut.inside, fun c first => ?_, fun c member => ?_,
    cut.ends⟩, fun c last => slashed.bare c ?_⟩
  · rw [slashed.put, cut.upToPath_eq.1, cut.upToPath_eq.2]
    simp only [List.append_assoc, List.singleton_append]
  · cases place with
    | nil => cases first; rfl
    | cons d place => exact cut.begins c first
  · rcases List.mem_append.mp member with member | member
    · exact cut.stays c member
    · cases List.mem_singleton.mp member
      rfl
  · rw [cut.getLast?_upToPath, Option.mem_def.mp last]
    rfl

end Cut

/-- What is read of an address on the web: a host, and the names of the path in its text. -/
theorem exists_read {u : Url} (read : ofText address = .ok u) (web : u.isWeb = true) :
    ∃ before within place tail a, Cut (meaningful address) u.scheme before within place tail ∧
      readAuthority u.scheme within = .ok (a, []) ∧
      u = withRest (located u.scheme a (readPath u.scheme place)) tail ∧
      u.authority = some a ∧ u.path = .segments (readPath u.scheme place) := by
  obtain ⟨before, within, place, tail, cut⟩ := exists_cut read web
  obtain ⟨a, hosted, is⟩ := (cut.ofText_eq_ok_iff rfl).mp read
  obtain ⟨query, fragment, rest⟩ := withRest_eq (located u.scheme a (readPath u.scheme place)) tail
  have parts := is.trans rest
  exact ⟨before, within, place, tail, a, cut, hosted, is, congrArg Url.authority parts,
    congrArg Url.path parts⟩

/-- An address on the web has a host, and names in its path that are free of slashes. -/
theorem exists_of_ofText {u : Url} (read : ofText address = .ok u) (web : u.isWeb = true) :
    ∃ a names, u.authority = some a ∧ u.path = .segments names ∧ ∀ n ∈ names, '/' ∉ n.toList := by
  obtain ⟨before, within, place, tail, a, cut, -, -, hosted, path⟩ := exists_read read web
  exact ⟨a, _, hosted, path, noSlash_readPath cut.web place⟩

/-- If no slash ends the path, then none ends its text. -/
theorem bare_of_text {u : Url} (read : ofText address = .ok u) (web : u.isWeb = true)
    (bare : u.path.text.toList.getLast? ≠ some '/') :
    ∀ c ∈ (upToPath address).getLast?, isSlash true c = false := by
  obtain ⟨before, within, place, tail, a, cut, -, -, -, path⟩ := exists_read read web
  intro c last
  rw [cut.getLast?_upToPath] at last
  rcases List.eq_nil_or_concat place with rfl | ⟨init, d, rfl⟩
  · exact (cut.inside c (List.mem_of_getLast? last)).1
  · rw [List.concat_eq_append] at cut path last
    rw [List.getLast?_concat] at last
    cases last
    refine Bool.eq_false_iff.mpr fun slash => bare ?_
    rw [path, endsInSlash_iff (noSlash_readPath cut.web _)]
    exact getLast?_readPath cut.web slash cut.begins

/-- **An address and the same one with a slash** at the end of its path are the same but for the
path, and with a slash at its end the path is the same, too. -/
theorem exists_of_slashed {u : Url} (read : ofText address = .ok u) (web : u.isWeb = true)
    (slashed : Slashed address address') : ∃ names names', u.path = .segments names ∧
      ofText address' = .ok { u with path := .segments names' } ∧
      Url.slashed names' = Url.slashed names := by
  obtain ⟨before, within, place, tail, a, cut, hosted, is, -, path⟩ := exists_read read web
  obtain ⟨cut', bare⟩ := cut.slashed slashed
  have other := withRest_path (located u.scheme a (readPath u.scheme place))
    (.segments (readPath u.scheme (place ++ ['/']))) tail
  have same := congrArg
    (fun v : Url => { v with path := .segments (readPath u.scheme (place ++ ['/'])) }) is
  exact ⟨_, _, path, (cut'.ofText_eq_ok_iff rfl).mpr ⟨a, hosted, same.trans other.symm⟩,
    slashed_readPath cut.web cut.begins bare⟩

end ProfileAudit.Url
