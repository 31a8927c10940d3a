import ProfileAudit.Files
import ProfileAudit.Names
import ProfileAudit.Text.Blank
import ProfileAudit.Yaml.Decode

/-!
Files of rules. A file lists groups, a group has a name and lists rules, and a rule
records a series or raises an alert from the value of an expression. The metrics of a file
are those that the expressions refer to; a file with any rule that is not in order has
none.
-/

namespace ProfileAudit

/-- A rule as a file holds it. -/
structure FileRule where
  record : Option String := none
  alert : Option String := none
  expr : Option String := none
  deriving DecidableEq, Inhabited

/-- A group of rules as a file holds it. -/
structure RuleGroup where
  name : String := ""
  rules : List FileRule := []
  deriving DecidableEq, Inhabited

/-! ## Reading -/

open Yaml in
def FileRule.ofNode? (d : Document) (n : Node) : Option FileRule := do
  let ms ← d.members? false ["record", "alert", "expr"] n
  let record ← member ms "record" none (d.optional? d.text?)
  let alert ← member ms "alert" none (d.optional? d.text?)
  let expr ← member ms "expr" none (d.optional? d.valueText?)
  return { record, alert, expr }

open Yaml in
def RuleGroup.ofNode? (d : Document) (n : Node) : Option RuleGroup := do
  let ms ← d.members? false ["name", "rules"] n
  let name ← member ms "name" "" d.text?
  let rules ← member ms "rules" [] (d.list? (FileRule.ofNode? d))
  return { name, rules }

open Yaml in
/-- The groups of a file; it holds nothing else. -/
def RuleGroup.listOfText? (text : String) : Option (List RuleGroup) := do
  let d ← Document.ofText? text
  let ms ← d.members? true ["groups"] (d.root.getD .blank)
  member ms "groups" [] (d.list? (RuleGroup.ofNode? d))

/-! ## Metrics -/

/-- The name that a rule goes by: what it records, or else the alert that it raises. -/
def FileRule.label? (r : FileRule) (complain : String → Failure) : Except Failure String :=
  match r.record, r.alert with
  | some name, none => .ok name
  | none, some name => .ok name
  | some _, some _ => .error (complain "only one of 'record' and 'alert' may be set")
  | none, none => .error (complain "one of 'record' or 'alert' must be set")

/-- The metrics of the rule at some place of a group, counted from one. -/
def FileRule.metrics (path group : String) (place : Nat) (r : FileRule) :
    Except Failure NameSet := do
  let label ← r.label? fun m => .ofText s!"{path}: group '{group}', rule {place}: {m}"
  let expr := r.expr.getD ""
  if Blank.isAll expr then
    .error (.ofText s!"{path}: group '{group}', rule '{label}': field 'expr' must be set")
  else
    match Query.referencedMetrics expr with
    | .ok metrics => .ok metrics
    | .error fault =>
      .error ⟨.query (.fault fault), [s!"{path}: group '{group}', rule '{label}'"]⟩

/-- The metrics of some rules, of which the first one has the given place. -/
def FileRule.allMetrics (path group : String) : Nat → List FileRule → Except Failure NameSet
  | _, [] => .ok .empty
  | place, r :: rs => do
    let here ← r.metrics path group place
    return here.union (← allMetrics path group (place + 1) rs)

/-- The metrics of some groups, none of which has a name seen before. -/
def RuleGroup.allMetrics (path : String) : List String → List RuleGroup → Except Failure NameSet
  | _, [] => .ok .empty
  | seen, g :: gs => do
    if g.name.isEmpty then .error (.ofText s!"{path}: rule group without a name")
    if seen.contains g.name then
      .error (.ofText s!"{path}: group '{g.name}' is defined more than once")
    let here ← FileRule.allMetrics path g.name 1 g.rules
    return here.union (← allMetrics path (g.name :: seen) gs)

/-- The metrics that the rules of a file refer to. -/
def metricsInRuleFile (files : FileTree) (path : String) : Except Failure NameSet := do
  let text ← files.readFor path "reading rule file"
  let groups ← orFail .yaml s!"parsing rule file '{path}'" (RuleGroup.listOfText? text)
  RuleGroup.allMetrics path [] groups

end ProfileAudit
