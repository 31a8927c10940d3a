import ProfileAudit.Proofs.Result
import ProfileAudit.Proofs.Text.Quoted
import ProfileAudit.Query.Parser

/-!
# The words of a query

What a query is made of stems from its text: the names and the values in its tree, and all that is
shown in the complaint about a fault, but for the plain characters of the complaint itself. A
`Wording` says what is known of them. It is stated for tokens first (`Worded`), since labels stand
inside braces and names of metrics outside of them.
-/

namespace ProfileAudit.Query

/-- What is known of the characters of a query, of the names of metrics outside its braces, and of
the values of its strings. Names are plain. -/
structure Wording where
  char : Char → Prop
  name : String → Prop
  value : String → Prop
  plain_of_name : ∀ {text : String}, name text → ∀ c ∈ text.toList, isPlain c = true
  char_of_value : ∀ {text : String}, value text → ∀ c ∈ text.toList, char c

variable {w : Wording} {text other : String}

/-- Every character of the text is plain, or it is one of the query. -/
def Wording.Shows (w : Wording) (text : String) : Prop :=
  ∀ c ∈ text.toList, isPlain c = true ∨ w.char c

namespace Wording.Shows

theorem of_plain {cs : List Char} (plain : cs.all isPlain = true) : w.Shows (String.ofList cs) :=
  fun _ member => .inl (Quoted.isPlain_of_mem_ofList plain member)

theorem of_chars (chars : ∀ c ∈ text.toList, w.char c) : w.Shows text :=
  fun c member => .inr (chars c member)

theorem of_char {c : Char} (char : w.char c) : w.Shows c.toString := by
  apply of_chars
  intro d member
  rw [Char.toString_eq_singleton, String.toList_singleton, List.mem_singleton] at member
  exact member ▸ char

theorem of_name (named : w.name text) : w.Shows text :=
  fun c member => .inl (w.plain_of_name named c member)

theorem of_value (own : w.value text) : w.Shows text := of_chars (w.char_of_value own)

theorem append (first : w.Shows text) (second : w.Shows other) : w.Shows (text ++ other) := by
  intro c member
  rw [String.toList_append] at member
  rcases List.mem_append.mp member with inFirst | inSecond
  · exact first c inFirst
  · exact second c inSecond

theorem number (n : Nat) : w.Shows n.repr := by
  intro c member
  rw [Nat.repr, String.toList_ofList] at member
  exact .inl (isPlain_of_mem_toDigits (by omega) member)

end Wording.Shows

/-! ## Complaints -/

/-- The texts that the complaint about a fault quotes. -/
def Fault.texts : Fault → List String
  | unexpectedAfter first c => [first.toString, c.toString]
  | unexpectedAfterBang c | unexpected c | unexpectedInside _ c | unknownEscape c
  | openString c => [c.toString]
  | badNumber text | integerRange text | floatSyntax text | badDuration text
  | timeOutOfBounds text | missingOperator text | unquoted text | repeatedOperator text
  | badPattern text | badGroupingLabel text | lonelyGrouping text | labelClash text
  | setOperatorOnScalar text | groupingOnSetOperator text | noArguments text
  | unknownFunction text | arity text _ _ | tooFew text _ _ | tooMany text _ _
  | argumentType text _ _ => [text]
  | nameTwice name value => [name, value]
  | _ => []

/-- What the complaint quotes is plain, or it stems from the query. -/
def Fault.Meets (w : Wording) (f : Fault) : Prop := ∀ text ∈ f.texts, w.Shows text

theorem Fault.Meets.of_silent {f : Fault} (silent : f.texts = []) : f.Meets w := by
  intro text member
  rw [silent] at member
  cases member

theorem Fault.Meets.of_text {f : Fault} (quotes : f.texts = [text]) (shows : w.Shows text) :
    f.Meets w := by
  intro other member
  rw [quotes, List.mem_singleton] at member
  exact member ▸ shows

theorem shows_inQuotes {c : Char} (shows : w.Shows c.toString) : w.Shows (inQuotes c) :=
  .append (.append (.of_plain rfl) shows) (.of_plain rfl)

theorem shows_quoted {c : Char} (shows : w.Shows c.toString) : w.Shows (Quoted.char c) := by
  intro d member
  rcases Quoted.mem_char member with plain | rfl
  · exact .inl plain
  · exact shows d (by simp)

theorem Enclosure.shows_name (e : Enclosure) : w.Shows e.name := by
  cases e <;> exact .of_plain rfl

theorem Enclosure.shows_opening (e : Enclosure) : w.Shows e.opening := by
  cases e <;> exact .of_plain rfl

theorem ValueType.shows_name (t : ValueType) : w.Shows t.name := by
  cases t <;> exact .of_plain rfl

/-- A complaint consists of plain characters and of what it quotes. -/
theorem Fault.Meets.shows_message {f : Fault} (meets : f.Meets w) : w.Shows f.message := by
  cases f
  all_goals
    delta Fault.message
    delta Fault.Meets Fault.texts at meets
    dsimp only [toString] at meets ⊢
    repeat' with_reducible apply Wording.Shows.append
  all_goals
    first
    | with_reducible exact .of_plain (by decide +kernel)
    | with_reducible exact meets _ List.mem_cons_self
    | with_reducible exact meets _ (List.mem_cons_of_mem _ List.mem_cons_self)
    | with_reducible exact shows_inQuotes (meets _ List.mem_cons_self)
    | with_reducible exact shows_inQuotes (meets _ (List.mem_cons_of_mem _ List.mem_cons_self))
    | with_reducible exact shows_quoted (meets _ List.mem_cons_self)
    | with_reducible exact Enclosure.shows_name _
    | with_reducible exact Enclosure.shows_opening _
    | with_reducible exact ValueType.shows_name _
    | with_reducible exact .number _

/-! ## Reading -/

/-- Something that is read has a property, or it has a fault that meets the wording. -/
def Yields {α : Type} (w : Wording) (x : Except Fault α) (P : α → Prop) : Prop :=
  match x with
  | .ok a => P a
  | .error f => f.Meets w

namespace Yields

variable {α β : Type} {P : α → Prop} {Q : β → Prop} {x : Except Fault α}

theorem silent {f : Fault} (silent : f.texts = []) : Yields w (.error f : Except Fault α) P :=
  Fault.Meets.of_silent silent

theorem quoting {f : Fault} (quotes : f.texts = [text]) (shows : w.Shows text) :
    Yields w (.error f : Except Fault α) P :=
  Fault.Meets.of_text quotes shows

theorem bind {f : α → Except Fault β} (first : Yields w x P)
    (rest : ∀ a, P a → Yields w (f a) Q) : Yields w (x >>= f) Q := by
  cases x with
  | error f => exact first
  | ok a => exact rest a first

theorem map {f : α → β} (yields : Yields w x P) (keeps : ∀ a, P a → Q (f a)) :
    Yields w (x.map f) Q := by
  cases x with
  | error f => exact yields
  | ok a => exact keeps a yields

end Yields

/-! ## Tokens -/

/-- What a token is written as, but for marks and operators; of a string, its value. -/
def Token.written : Token → String
  | word text | metric text | keyword _ text | number text | duration text => text
  | string value => value
  | operator _ | mark _ | finish => ""

/-- A token's text is plain, unless it is a string, whose value is then one of the query's. -/
structure Token.Meets (w : Wording) (t : Token) : Prop where
  plain : (∀ text, t ≠ .string text) → ∀ c ∈ t.written.toList, isPlain c = true
  value : ∀ text, t = .string text → w.value text

/-- Whether the text after a token stands inside braces. -/
def Token.leads (inside : Bool) : Token → Bool
  | .mark .openBrace => true
  | .mark .closeBrace => false
  | _ => inside

/-- The tokens meet the wording, and those outside braces that can be names of metrics are. -/
def Worded (w : Wording) (inside : Bool) : List Token → Prop
  | [] => True
  | t :: ts => (t.Meets w ∧ (inside = false → ∀ n, t.metricName? = some n → w.name n)) ∧
    Worded w (t.leads inside) ts

/-- Words meet any wording that knows their names, and their strings' values. -/
theorem Worded.imp {w' : Wording} {inside : Bool} {ts : List Token} (worded : Worded w inside ts)
    (names : ∀ n, w.name n → w'.name n) (values : ∀ value, .string value ∈ ts → w'.value value) :
    Worded w' inside ts := by
  induction ts generalizing inside with
  | nil => trivial
  | cons t ts ih =>
      obtain ⟨⟨meets, named⟩, rest⟩ := worded
      refine ⟨⟨⟨meets.plain, ?_⟩, fun outside n is => names n (named outside n is)⟩, ?_⟩
      · rintro value rfl
        exact values value List.mem_cons_self
      · exact ih rest fun value member => values value (List.mem_cons_of_mem t member)

theorem Token.Meets.shows {t : Token} (meets : t.Meets w) : w.Shows t.written := by
  by_cases string : ∃ text, t = .string text
  · obtain ⟨text, rfl⟩ := string
    exact .of_value (meets.value text rfl)
  · exact fun c member => .inl (meets.plain (fun text is => string ⟨text, is⟩) c member)

/-- Nothing but a mark leads inside braces or out of them. -/
theorem Token.leads_of_text {t : Token} {inside : Bool} (other : ∀ m, t ≠ .mark m) :
    t.leads inside = inside := by
  unfold leads
  split
  · exact absurd rfl (other _)
  · exact absurd rfl (other _)
  · rfl

/-- A token without text meets any wording. -/
theorem Token.meets_mark (m : Mark) : (Token.mark m).Meets w := ⟨fun _ => nofun, nofun⟩

theorem Token.meets_operator (op : BinaryOp) : (Token.operator op).Meets w :=
  ⟨fun _ => nofun, nofun⟩

end ProfileAudit.Query
