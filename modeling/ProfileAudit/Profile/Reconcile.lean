import ProfileAudit.Monitor.Index
import ProfileAudit.Rule

/-!
Reconciling rules with a profile: which metrics a rule needs that the profile's monitors
admit but that are not loaded.
-/

namespace ProfileAudit

/-- What is wrong with a rule. -/
inductive FindingKind where
  /-- A monitor admits the metric, and yet it is not loaded. -/
  | notLoaded
  /-- A monitor has no counterpart for the profile. -/
  | notImplemented
  | parseError (fault : Query.Fault)
  /-- The admission pattern of the monitor is none. -/
  | regexError (regex : String)
  | unknownRuleKind (name : String)

def FindingKind.message : FindingKind → String
  | notLoaded => "not loaded"
  | notImplemented => "not implemented"
  | parseError fault => s!"failed to parse query: {fault.message}"
  | regexError regex => s!"failed to match regex {Quoted.text regex}: "
  | unknownRuleKind name => s!"unknown rule kind {Quoted.text name}"

/-- Something that is wrong with a rule, for a monitor and a metric if it concerns them. -/
structure Finding where
  monitor : Option String
  group : String
  file : String
  rule : String
  query : String
  metric : Option String
  kind : FindingKind

namespace Finding

def ofRule (r : Rule) (monitor metric : Option String) (kind : FindingKind) : Finding where
  monitor := monitor
  group := r.group
  file := r.file
  rule := r.name
  query := r.query
  metric := metric
  kind := kind

/-- The header of a report on a profile. -/
def header (profile : String) : List String :=
  [LetterCase.upper profile ++ " MONITOR", "GROUP", "LOCATION", "RULE", "QUERY", "METRIC",
    "ERROR"]

/-- The row of a report; the query stands on one line. -/
def row (f : Finding) : List String :=
  [f.monitor.getD "", f.group, f.file, f.rule, Blank.onOneLine f.query, f.metric.getD "",
    f.kind.message]

end Finding

/-- A monitor's admission pattern, read once for all rules. -/
structure Admission where
  monitor : String
  regex : String
  pattern : Option Pattern

def Admission.ofEntry (entry : String × String) : Admission :=
  ⟨entry.1, entry.2, Pattern.ofText? (Pattern.anchored entry.2)⟩

/-- What a monitor says of a metric that is not loaded. -/
def Admission.verdict? (a : Admission) (metric : String) : Option FindingKind :=
  match a.pattern with
  | none => some (.regexError a.regex)
  | some p => if p.isFoundIn metric then some .notLoaded else none

/-- The findings on one rule. -/
def Rule.findings (r : Rule) (loaded : NameSet) (admissions : List Admission) : List Finding :=
  match r.kind with
  | .unknown name => [.ofRule r none none (.unknownRuleKind name)]
  | _ =>
    if Blank.isAll r.query then []
    else
      match Query.referencedMetrics r.query with
      | .error fault => [.ofRule r none none (.parseError fault)]
      | .ok metrics =>
        (metrics.toList.filter (!loaded.contains ·)).flatMap fun metric =>
          admissions.filterMap fun a =>
            (a.verdict? metric).map (.ofRule r (some a.monitor) (some metric))

/-- All findings, in the order of the rules, their metrics and the monitors. -/
def reconcile (rules : List Rule) (loaded : NameSet) (index : RegexIndex) : List Finding :=
  let admissions := index.entries.map Admission.ofEntry
  rules.flatMap (·.findings loaded admissions)

end ProfileAudit
