import ProfileAudit.Cardinality
import ProfileAudit.Proofs.Profile.Sources
import ProfileAudit.Proofs.Query.Metrics

/-!
# Whose series a count counts

The query for the number of a metric's series takes the metric's name as it is. It counts the
metric's own series exactly for a name that stands for its metric anywhere
(`countQuery_refers_iff`): such a name is read as one token up to the parenthesis that follows it
(`ofText_countQuery`), and any other one would have to stand between quotes, for which the query has
no room (`not_encloses_countQuery`). Extraction gives other names as well: those of a list and those
that the backend tells are taken over unread, and so is what a rule puts between quotes
(`extracted_counts_iff`).
-/

namespace ProfileAudit

open Query

namespace Query

/-! ## Reading a name -/

theorem scanOutside_of_isNameStart {c : Char} (start : isNameStart c = true) (st : Scan)
    (s : List Char) : scanOutside st c s =
      .ok ⟨some (.ofName (c :: s.takeWhile isNameChar)), st, s.dropWhile isNameChar⟩ := by
  have notSpace : ¬ isSpace c = true := by
    intro space
    simp only [isSpace, Bool.or_eq_true, beq_iff_eq] at space
    rcases space with (((rfl | rfl) | rfl) | rfl) | rfl <;> cases start
  have notQuote : ¬ (c = '"' ∨ c = '\x27' ∨ c = '\x60') := by
    rintro (rfl | rfl | rfl) <;> cases start
  have notDigit : ¬ c.isDigit = true := by
    intro digit
    simp only [isNameStart, isAlpha, Char.isAlpha, Char.isUpper, Char.isLower, Char.isDigit,
      Bool.or_eq_true, Bool.and_eq_true, decide_eq_true_eq, beq_iff_eq] at start digit
    rcases start with ((upper | lower) | rfl) | rfl
    · grind
    · grind
    · revert digit
      decide
    · revert digit
      decide
  unfold scanOutside
  dsimp only
  split
  -- no character of a name is a mark
  all_goals try cases start
  rw [if_neg notSpace, if_neg notQuote, if_neg notDigit, if_pos start]

theorem scanFrom_step {st : Scan} {c : Char} {s : List Char} {found : Found}
    (step : scanAt st c s = .ok found) (shorter : found.rest.length < s.length + 1) :
    scanFrom st (c :: s) = (scanFrom found.scan found.rest).map (found.token.toList ++ ·) := by
  rw [scanFrom, step]
  dsimp only
  rw [if_pos shorter]
  cases scanFrom found.scan found.rest <;> rfl

/-- A name is read up to the first character that is not of a name. -/
theorem scanFrom_name {st : Scan} (outside : st.place = .outside) {c : Char}
    (start : isNameStart c = true) (s : List Char) : scanFrom st (c :: s) =
      (scanFrom st (s.dropWhile isNameChar)).map
        (.ofName (c :: s.takeWhile isNameChar) :: ·) := by
  have step : scanAt st c s =
      .ok ⟨some (.ofName (c :: s.takeWhile isNameChar)), st, s.dropWhile isNameChar⟩ := by
    rw [scanAt, outside]
    exact scanOutside_of_isNameStart start st s
  have shorter := (List.dropWhile_suffix isNameChar (l := s)).length_le
  exact scanFrom_step step (Nat.lt_succ_of_le shorter)

theorem ofTokens_count {t : Token} {n : String} (is : t.metricName? = some n) :
    Expr.ofTokens [.keyword (.aggregation .count) "count", .mark .openParen, t,
      .mark .closeParen, .finish] =
      .ok (.aggregation .count none none (.selector { name := some n })) := by
  unfold Token.metricName? at is
  split at is
  · cases is
    rfl
  · cases is
    rfl
  · cases is
    rfl
  · cases is
  · next op text other =>
      cases is
      cases op
      case atan2 => exact (other rfl).elim
      all_goals rfl
  all_goals
    cases is
    try rfl

end Query

variable {m : String}

theorem toList_countQuery (m : String) :
    (countQuery m).toList = 'c' :: (['o', 'u', 'n', 't', '('] ++ (m.toList ++ [')'])) := by
  simp [countQuery, toString]

/-- There are no quotes before the name in the query for its count, nor is there room for them. -/
theorem not_encloses_countQuery (m : String) : ¬ Encloses (countQuery m).toList m := by
  rintro ⟨quote, quotes, before, behind, split⟩
  have opening : (countQuery m).toList = ['c', 'o', 'u', 'n', 't', '('] ++ (m.toList ++ [')']) :=
    toList_countQuery m
  rw [opening] at split
  have lengths := congrArg List.length split
  simp only [List.length_append, List.length_cons, List.length_nil] at lengths
  have here : (['c', 'o', 'u', 'n', 't', '('] ++ (m.toList ++ [')']))[before.length]? =
      some quote := by
    rw [← split, List.append_assoc, List.getElem?_append_right (Nat.le_refl _), Nat.sub_self]
    rfl
  rw [List.getElem?_append_left (by simp only [List.length_cons, List.length_nil]; omega)] at here
  have member := List.mem_of_getElem? here
  simp only [List.mem_cons, List.not_mem_nil, or_false] at quotes
  rcases quotes with rfl | rfl | rfl
  · exact absurd member (by decide)
  · exact absurd member (by decide)
  · exact absurd member (by decide)

theorem ofText_countQuery {c : Char} {cs : List Char} (spelled : m.toList = c :: cs)
    (start : isNameStart c = true) (name : cs.all isNameChar = true) :
    Token.ofText (countQuery m) = .ok [.keyword (.aggregation .count) "count", .mark .openParen,
      .ofName m.toList, .mark .closeParen, .finish] := by
  have taken : (cs ++ [')']).takeWhile isNameChar = cs := by
    rw [List.takeWhile_append_of_pos (fun d member => List.all_eq_true.mp name d member)]
    exact List.append_nil cs
  have left : (cs ++ [')']).dropWhile isNameChar = [')'] := by
    rw [List.dropWhile_append_of_pos (fun d member => List.all_eq_true.mp name d member)]
    rfl
  have finish : scanFrom {} [] = .ok [.finish] := by
    rw [scanFrom]
    rfl
  have closing : scanFrom { parens := 1 } [')'] = .ok [.mark .closeParen, .finish] := by
    have step : scanAt { parens := 1 } ')' [] = .ok ⟨some (.mark .closeParen), {}, []⟩ := rfl
    rw [scanFrom_step step Nat.one_pos, finish]
    rfl
  have own : scanFrom { parens := 1 } (c :: (cs ++ [')'])) =
      .ok [.ofName (c :: cs), .mark .closeParen, .finish] := by
    rw [scanFrom_name rfl start, taken, left, closing]
    rfl
  have opening (s : List Char) : scanFrom {} ('(' :: s) =
      (scanFrom { parens := 1 } s).map (.mark .openParen :: ·) := by
    have step : scanAt {} '(' s = .ok ⟨some (.mark .openParen), { parens := 1 }, s⟩ := rfl
    exact scanFrom_step step (Nat.lt_succ_self _)
  rw [Token.ofText, toList_countQuery, spelled, scanFrom_name rfl rfl]
  change (scanFrom {} ('(' :: c :: (cs ++ [')']))).map _ = _
  rw [opening, own]
  rfl

/-- The query counts the series that the name alone selects. -/
theorem ofText_countQuery_of_isMetricName (is : IsMetricName m) : Expr.ofText (countQuery m) =
    .ok (.aggregation .count none none (.selector { name := some m })) := by
  obtain ⟨⟨c, cs, spelled, start, name⟩, free⟩ := is
  have own : (Token.ofName m.toList).metricName? = some m := by
    rw [metricName?_ofName, if_neg free, String.ofList_toList]
  rw [Expr.ofText, ofText_countQuery spelled start name]
  exact ofTokens_count own

theorem countQuery_refers_iff (m : String) :
    referencedMetrics (countQuery m) = .ok (.ofList [m]) ↔ IsMetricName m := by
  constructor
  · intro refers
    have own : m ∈ NameSet.ofList [m] := NameSet.mem_ofList.mpr (List.mem_singleton_self m)
    exact (spelled_or_enclosed refers own).resolve_right (not_encloses_countQuery m)
  · intro is
    rw [referencedMetrics_eq, ofText_countQuery_of_isMetricName is]
    rfl

/-! ## Extracted names -/

namespace ExtractSources

/-- The name is taken over as some source has it. -/
inductive TakesOver (sources : ExtractSources) (b : Backend) (s : Surroundings) (j : Journal)
    (m : String) : Prop
  | listed {path text : String} {names : List String} : path ∈ sources.allowListFile →
    j.files.read path = .ok text → allowListOfText? text = some names → m ∈ names →
    TakesOver sources b s j m
  | enclosed {path : String} {rules : List FileRule} {r : FileRule} : path ∈ sources.ruleFile →
    rulesInFile? j.files path = some rules → r ∈ rules → Encloses r.query.toList m →
    TakesOver sources b s j m
  | told {selector : String} {found : List TargetMetadata} {t : TargetMetadata} :
    selector ∈ sources.targetSelectors → metadata b s j selector = .ok found → t ∈ found →
    t.metric = m → TakesOver sources b s j m

variable {sources : ExtractSources} {b : Backend} {s : Surroundings} {j : Journal}

theorem takesOver_of_allowed {allowed : NameSet}
    (listed : ofFile sources.allowListFile (metricsInAllowList j.files) = .ok allowed)
    (member : m ∈ allowed) : sources.TakesOver b s j m := by
  cases given : sources.allowListFile with
  | none =>
      rw [given] at listed
      cases listed
      exact (List.not_mem_nil member).elim
  | some path =>
      rw [given] at listed
      obtain ⟨text, held, parsed⟩ := bind_eq_ok_iff.mp listed
      obtain ⟨names, listing, rfl⟩ := map_eq_ok_iff.mp parsed
      exact .listed given (readFor_eq_ok_iff.mp held) (orFail_eq_ok_iff.mp listing)
        (NameSet.mem_ofList.mp member)

/-- A rule names a metric outright, or between quotes. -/
theorem takesOver_of_ruled {ruled : NameSet}
    (read : ofFile sources.ruleFile (metricsInRuleFile j.files) = .ok ruled)
    (member : m ∈ ruled) : IsMetricName m ∨ sources.TakesOver b s j m := by
  cases given : sources.ruleFile with
  | none =>
      rw [given] at read
      cases read
      exact (List.not_mem_nil member).elim
  | some path =>
      rw [given] at read
      obtain ⟨rules, held, covers⟩ := covers_of_accepted read
      obtain ⟨r, listed, own, refers, member⟩ := (covers.mem_iff m).mp member
      rcases spelled_or_enclosed refers.references member with is | enclosed
      · exact .inl is
      · exact .inr (.enclosed given held listed enclosed)

theorem takesOver_of_targeted {targeted : NameSet}
    (asked : sources.asking b s j = .ok targeted) (member : m ∈ targeted) :
    sources.TakesOver b s j m := by
  unfold asking at asked
  split at asked
  · next selector given =>
      obtain ⟨found, answered, rfl⟩ := map_eq_ok_iff.mp asked
      obtain ⟨t, listed, named⟩ := List.mem_map.mp (NameSet.mem_ofList.mp member)
      exact .told given answered listed named
  · cases asked
    exact (List.not_mem_nil member).elim

end ExtractSources

open ExtractSources

variable {sources : ExtractSources} {b : Backend} {s : Surroundings} {j : Journal}

/-- **The count of an extracted metric is one of its own series if and only if its name stands for
the metric anywhere.** The query is then the count of what this name alone selects. Any other name
has been taken over: from the list, from between the quotes of some rule, or from what the backend
tells of the targets. -/
theorem extracted_counts_iff {metrics : NameSet}
    (extracted : (extractMetricSet b sources s j).1 = .ok metrics) : ∀ m ∈ metrics,
    (referencedMetrics (countQuery m) = .ok (.ofList [m]) ↔ IsMetricName m) ∧
    (IsMetricName m → Expr.ofText (countQuery m) =
      .ok (.aggregation .count none none (.selector { name := some m }))) ∧
    (IsMetricName m ∨ sources.TakesOver b s j m) := by
  intro m member
  refine ⟨countQuery_refers_iff m, ofText_countQuery_of_isMetricName, ?_⟩
  obtain ⟨-, allowed, listed, ruled, read, targeted, asked, rfl⟩ :=
    extractMetricSet_eq_ok_iff.mp extracted
  simp only [NameSet.mem_union] at member
  rcases member with (member | member) | member
  · exact .inr (takesOver_of_allowed listed member)
  · exact takesOver_of_ruled read member
  · exact .inr (takesOver_of_targeted asked member)

/-- What an extraction takes from a list and from a rule that names a metric between quotes. -/
def takenNames : Except Failure NameSet :=
  (extractMetricSet ⟨fun _ => .never, fun _ _ => .never, fun _ => .never, fun _ _ _ => .never⟩
    { allowListFile := some "allow.yaml", ruleFile := some "rules.yaml" }
    ⟨{ deadline := 9, concurrency := none }, fun now => ⟨2024, 5, 6, 7, 8, now⟩, fun _ => 0⟩
    { files := { nodes := [
      (["allow.yaml"], .file (.text "metrics: [go, foo bar]\n")),
      (["rules.yaml"], .file (.text
        "groups:\n- name: g\n  rules:\n  - record: r\n    expr: '\x7b__name__=\"a-b\"\x7d'\n"))] } }).1

theorem exists_takenNames : ∃ metrics, takenNames = .ok metrics ∧
    metrics.toList = ["a-b", "foo bar", "go"] := by
  have taken : takenNames.toOption.map (·.toList) = some ["a-b", "foo bar", "go"] := by
    decide +kernel
  obtain ⟨metrics, found, members⟩ := Option.map_eq_some_iff.mp taken
  exact ⟨metrics, eq_ok_of_toOption found, members⟩

theorem extracted_counts_go : ∃ metrics, takenNames = .ok metrics ∧ "go" ∈ metrics ∧
    referencedMetrics (countQuery "go") = .ok (.ofList ["go"]) := by
  obtain ⟨metrics, extracted, members⟩ := exists_takenNames
  have member : "go" ∈ metrics.toList := by
    rw [members]
    decide
  have is : IsMetricName "go" := ⟨⟨'g', ['o'], rfl, rfl, rfl⟩, by decide⟩
  obtain ⟨refers, -, -⟩ := extracted_counts_iff extracted "go" member
  exact ⟨metrics, extracted, member, refers.mpr is⟩

/-- For the metric that the rule names the series of two others are counted, and for a name of the
list none are. -/
theorem counts_other_series : ∃ metrics, takenNames = .ok metrics ∧
    "a-b" ∈ metrics ∧
    (referencedMetrics (countQuery "a-b")).toOption.map (·.toList) = some ["a", "b"] ∧
    "foo bar" ∈ metrics ∧
    ∀ refs, referencedMetrics (countQuery "foo bar") ≠ .ok refs := by
  obtain ⟨metrics, extracted, members⟩ := exists_takenNames
  have member (m : String) (taken : m ∈ ["a-b", "foo bar", "go"]) : m ∈ metrics.toList := by
    rwa [members]
  have unparsed : (referencedMetrics (countQuery "foo bar")).toOption = none := by decide +kernel
  refine ⟨metrics, extracted, member _ (by decide), by decide +kernel, member _ (by decide), ?_⟩
  intro refs parsed
  rw [parsed] at unparsed
  cases unparsed

end ProfileAudit
