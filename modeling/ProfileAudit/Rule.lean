/-!
What a metrics backend tells about: the rules it has loaded, the metrics of its targets,
and the samples of a query.
-/

namespace ProfileAudit

/-- The kinds of rules. -/
inductive RuleKind where
  | recording
  | alerting
  /-- A kind that is not known, by its name. -/
  | unknown (name : String)
  deriving DecidableEq, Inhabited

def RuleKind.ofName : String → RuleKind
  | "recording" => recording
  | "alerting" => alerting
  | name => unknown name

/-- A rule and the group that it belongs to. -/
structure Rule where
  name : String
  query : String
  kind : RuleKind
  group : String
  /-- The file that the group was read from. -/
  file : String
  deriving DecidableEq, Inhabited

/-- What a target tells about one of its metrics. -/
structure TargetMetadata where
  target : List (String × String) := []
  metric : String
  type : String := ""
  help : String := ""
  unit : String := ""
  deriving DecidableEq, Inhabited

/-- Which metadata is asked for. -/
structure MetadataSelector where
  matchTarget : Option String := none
  metric : Option String := none
  limit : Option Nat := none
  deriving DecidableEq, Inhabited

/-- One element of the result of a query. -/
structure Sample where
  labels : List (String × String) := []
  value : Float
  deriving Inhabited

end ProfileAudit
