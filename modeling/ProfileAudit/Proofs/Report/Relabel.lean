import ProfileAudit.Proofs.Names
import ProfileAudit.Proofs.Pattern.Escaped
import ProfileAudit.Report.Relabel

/-!
# Relabelings that keep exactly some metrics

The pattern of a relabeling is one group with the choice between the escaped names in it. So it
is valid whatever characters the names have, and from the start of a name to its end it matches
the names of the set and no others (`ofMetrics_admits`). It is written down in the order of the
set, which the order of the names has no part in.
-/

namespace ProfileAudit.KeepRelabelConfig

open Pattern

theorem regex_ofMetrics (metrics : NameSet) :
    (ofMetrics metrics).regex = "(" ++ anyOf metrics.toList ++ ")" := rfl

/-- Between the anchors the pattern is found in the metrics of the set. If there are none, it is
found in the empty text. -/
theorem exists_pattern_ofMetrics (metrics : NameSet) :
    ∃ p, ofText? (anchored (ofMetrics metrics).regex) = some p ∧
      ∀ name, p.isFoundIn name = true ↔
        name ∈ metrics ∨ metrics.toList = [] ∧ name = "" := by
  obtain ⟨p, chooses⟩ := exists_chooses metrics.toList
  rw [regex_ofMetrics]
  refine ⟨_, chooses.ofText?_anchored_group, fun name => ?_⟩
  rw [chooses.isFoundIn]
  split
  · next none =>
      have absent : ¬ name ∈ metrics := by
        intro member
        exact List.ne_nil_of_mem member none
      simp only [List.mem_singleton, absent, none, true_and, false_or]
  · next some =>
      simp only [some, false_and, or_false]
      exact Iff.rfl

/-- **The relabeling keeps exactly the metrics it is made of**, whatever their names are: its
pattern is valid, and a name is matched from its start to its end if and only if it is one of
theirs. (Made of no metrics at all, it matches the empty name.) The document is the same for all
lists of the same names. -/
theorem ofMetrics_admits (names : List String) :
    isValid (ofMetrics (.ofList names)).regex = true ∧
    (∃ p, ofText? (anchored (ofMetrics (.ofList names)).regex) = some p ∧
      ∀ name, p.isFoundIn name = true ↔ name ∈ names ∨ names = [] ∧ name = "") ∧
    ∀ names', (∀ name, name ∈ names' ↔ name ∈ names) →
      (ofMetrics (.ofList names')).toYaml = (ofMetrics (.ofList names)).toYaml := by
  refine ⟨?_, ?_, fun names' same => ?_⟩
  · obtain ⟨p, chooses⟩ := exists_chooses (NameSet.ofList names).toList
    rw [regex_ofMetrics]
    exact chooses.isValid_group
  · obtain ⟨p, read, found⟩ := exists_pattern_ofMetrics (.ofList names)
    simp only [NameSet.mem_ofList, NameSet.toList_ofList_eq_nil_iff] at found
    exact ⟨p, read, found⟩
  · have sets : NameSet.ofList names' = .ofList names := NameSet.eq_of_mem_iff fun name => by
      rw [NameSet.mem_ofList, NameSet.mem_ofList, same]
    rw [sets]

example : (ofMetrics (.ofList ["up", "a.b|c", "up"])).regex = "(a\\.b\\|c|up)" := by
  decide +kernel

end ProfileAudit.KeepRelabelConfig
