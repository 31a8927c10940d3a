import ProfileAudit.Names
import ProfileAudit.Pattern.Reader
import ProfileAudit.Yaml.Writer

/-!
The relabeling that keeps exactly a set of metrics: one pattern with an alternative for
each name. It is written as a document, and can be read from one.
-/

namespace ProfileAudit

/-- A relabeling that keeps the metrics whose name the pattern spans. -/
structure KeepRelabelConfig where
  sourceLabels : List String
  regex : String
  action : String
  deriving DecidableEq, Inhabited

namespace KeepRelabelConfig

/-- The relabeling that keeps the given metrics. -/
def ofMetrics (metrics : NameSet) : KeepRelabelConfig where
  sourceLabels := ["__name__"]
  regex := "(" ++ "|".intercalate (metrics.toList.map Pattern.escaped) ++ ")"
  action := "keep"

/-- The relabeling as a document. -/
def toYaml (config : KeepRelabelConfig) : String :=
  "sourceLabels:\n" ++ String.join (config.sourceLabels.map fun l => "- " ++ Yaml.scalarLine l) ++
    "regex: " ++ Yaml.scalarLine config.regex ++ "action: " ++ Yaml.scalarLine config.action

open Yaml in
/-- The relabeling that a document holds, if it has all members. Other members are left out. -/
def ofYaml? (text : String) : Option KeepRelabelConfig := do
  let d ← Document.ofText? text
  let members ← d.members? false ["sourceLabels", "regex", "action"] (d.root.getD .blank)
  let sourceLabels ← d.list? d.text? (← members.lookup "sourceLabels")
  let regex ← d.text? (← members.lookup "regex")
  let action ← d.text? (← members.lookup "action")
  return { sourceLabels, regex, action }

end KeepRelabelConfig

end ProfileAudit
