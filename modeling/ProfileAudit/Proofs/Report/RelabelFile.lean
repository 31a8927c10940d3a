import Mathlib
import ProfileAudit.Proofs.Report.Relabel
import ProfileAudit.Proofs.Yaml.Value

/-!
# Relabelings read back from their documents

The pattern of a relabeling stands between parentheses, so its text begins and ends upright, and is
kept in whatever style it is written. The other members are always the same.
-/

namespace ProfileAudit.KeepRelabelConfig

open Yaml Layout

variable {t : List Char} {i j : Nat} {tokens : List Token}

/-! ## Tokens -/

/-- The tokens before the pattern, the last one first. -/
def labelTokens : List Token :=
  [.value, .scalar "regex" .plain, .key, .scalar "__name__" .plain, .blockEntry, .value,
    .scalar "sourceLabels" .plain, .key, .blockMapping]

/-- The tokens behind the pattern. -/
def actionTokens : List Token :=
  [.key, .scalar "action" .plain, .value, .scalar "keep" .plain, .blockEnd, .streamEnd]

theorem run_sourceLabels (n : Nat) (t : List Char) :
    run (n + 7) { cursor := { rest := "sourceLabels:\n- __name__\nregex: ".toList ++ t } } =
      run (n + 1) (atValue labelTokens (' ' :: t) 31 2 6) := by
  cbv

theorem puts_action : (atEntry tokens ("action".toList ++ ':' :: ' ' :: t) i j).Puts
    (atMark "action" tokens t i j) := by
  apply Puts.of_step
  cbv

/-- What stands behind the pattern. -/
def actionLine : List Char := "action".toList ++ ':' :: ' ' :: ("keep".toList ++ ['\n'])

/-- The document of a relabeling with one label. -/
theorem toList_toYaml {regex : String} (upright : Upright regex.toList) :
    (toYaml ⟨["__name__"], regex, "keep"⟩).toList = "sourceLabels:\n- __name__\nregex: ".toList ++
      ((scalarText regex).toList ++ '\n' :: actionLine) := by
  have label : "sourceLabels:\n" ++ String.join (["__name__"].map fun l => "- " ++ scalarLine l) ++
      "regex: " = "sourceLabels:\n- __name__\nregex: " := rfl
  have action : "\n" ++ ("action: " ++ scalarLine "keep") = "\naction: keep\n" := rfl
  have written : toYaml ⟨["__name__"], regex, "keep"⟩ =
      "sourceLabels:\n- __name__\nregex: " ++ (scalarText regex ++ "\naction: keep\n") := by
    unfold toYaml
    simp only [label, upright.scalarLine_eq, String.append_assoc, action]
  have line : "\naction: keep\n".toList = '\n' :: actionLine := rfl
  simp only [written, String.toList_append, line]

theorem run_actionLine (n : Nat) (tokens : List Token) (i j : Nat) :
    run (n + 4) (atEntry tokens actionLine i j) = some (tokens.reverse ++ actionTokens) := by
  have fits : fitsPlain "keep" = true := rfl
  have upright : Upright "keep".toList := ⟨rfl, rfl⟩
  calc run (n + 4) (atEntry tokens actionLine i j)
    _ = run (n + 3) (atMark "action" tokens ("keep".toList ++ ['\n']) i j) := puts_action.run rfl _
    _ = run (n + 2) _ := (puts_value (by decide) (by decide)).run rfl _
    _ = run (n + 1) _ := (puts_plain (upright.standsPlain fits) rfl rfl _ _ _ _).run rfl _
    _ = some (tokens.reverse ++ actionTokens) := by
        rw [run_end]
        simp [actionTokens]

/-- **The tokens of the document**: the style of the pattern is the only difference. -/
theorem ofText?_toYaml {regex : String} (upright : Upright regex.toList) :
    ∃ style, Token.ofText? (toYaml ⟨["__name__"], regex, "keep"⟩) =
      some (labelTokens.reverse ++ .scalar regex style :: actionTokens) := by
  have allowed : ("sourceLabels:\n- __name__\nregex: ".toList ++
      ((scalarText regex).toList ++ '\n' :: actionLine)).all isAllowed = true := by
    have labels : "sourceLabels:\n- __name__\nregex: ".toList.all isAllowed = true := rfl
    have action : ('\n' :: actionLine).all isAllowed = true := rfl
    rw [List.all_append, List.all_append, labels, action,
      List.all_eq_true.mpr (isAllowed_scalarText regex)]
    rfl
  obtain ⟨n, fuel⟩ : ∃ n, ("sourceLabels:\n- __name__\nregex: ".toList ++
      ((scalarText regex).toList ++ '\n' :: actionLine)).length + 2 = n + 11 := by
    have long : "sourceLabels:\n- __name__\nregex: ".toList.length = 32 := rfl
    rw [List.length_append, long]
    exact ⟨23 + ((scalarText regex).toList ++ '\n' :: actionLine).length, by omega⟩
  obtain ⟨style, i, j, puts⟩ := puts_scalar (t := actionLine) upright (by decide) labelTokens 31 2 6
  refine ⟨style, ?_⟩
  unfold Token.ofText?
  rw [toList_toYaml upright, if_pos allowed, fuel]
  calc run (n + 4 + 7) _
    _ = run (n + 4 + 1) _ := run_sourceLabels (n + 4) _
    _ = run (n + 4) (atEntry (.scalar regex style :: labelTokens) actionLine i j) := puts.run rfl _
    _ = some (labelTokens.reverse ++ .scalar regex style :: actionTokens) := by
        rw [run_actionLine, List.reverse_cons, List.append_assoc]
        rfl

/-! ## Relabelings -/

theorem document_of_tokens {text regex : String} {style : Style}
    (read : Token.ofText? text =
      some (labelTokens.reverse ++ .scalar regex style :: actionTokens)) :
    Document.ofText? text = some ⟨some (.mapping [
      (.scalar ⟨"sourceLabels", true, none⟩, .sequence [.scalar ⟨"__name__", true, none⟩]),
      (.scalar ⟨"regex", true, none⟩, .scalar ⟨regex, style == .plain, none⟩),
      (.scalar ⟨"action", true, none⟩, .scalar ⟨"keep", true, none⟩)]), []⟩ := by
  unfold Document.ofText?
  rw [read]
  rfl

/-- Whatever upright text the pattern is, it is read back. -/
theorem ofYaml?_toYaml {regex : String} (upright : Upright regex.toList) :
    ofYaml? (toYaml ⟨["__name__"], regex, "keep"⟩) = some ⟨["__name__"], regex, "keep"⟩ := by
  obtain ⟨style, read⟩ := ofText?_toYaml upright
  unfold ofYaml?
  rw [document_of_tokens read]
  rfl

theorem upright_regex (metrics : NameSet) : Upright (ofMetrics metrics).regex.toList := by
  have text : (ofMetrics metrics).regex.toList =
      '(' :: ((Pattern.anyOf metrics.toList).toList ++ [')']) := by
    simp [regex_ofMetrics]
  constructor
  · rw [text, List.head?_cons]
    decide
  · rw [text, ← List.cons_append, List.getLast?_concat]
    decide

/-- **The relabeling survives its document**: whatever characters the names of the metrics have, the
document of the relabeling that keeps them is read back, with the same pattern. -/
theorem ofMetrics_survives_document (metrics : NameSet) :
    ofYaml? (ofMetrics metrics).toYaml =
      some { sourceLabels := ["__name__"], regex := (ofMetrics metrics).regex, action := "keep" } :=
  ofYaml?_toYaml (upright_regex metrics)

end ProfileAudit.KeepRelabelConfig
