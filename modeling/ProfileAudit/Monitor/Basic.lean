import ProfileAudit.Failure
import ProfileAudit.Json.Record
import ProfileAudit.Text.LetterCase

/-!
Monitors: the resources that say which metrics are collected from pods and services.
Of a monitor's specification only the relabelings of its metrics count.
-/

namespace ProfileAudit

/-- The two kinds of monitors, pods first. -/
inductive MonitorKind where
  | pod | service
  deriving DecidableEq, Inhabited

namespace MonitorKind

def all : List MonitorKind := [pod, service]

def name : MonitorKind → String
  | pod => "PodMonitor"
  | service => "ServiceMonitor"

/-- The member of a specification that lists the endpoints. -/
def endpointsKey : MonitorKind → String
  | pod => "podMetricsEndpoints"
  | service => "endpoints"

end MonitorKind

/-- One step of relabeling. -/
structure RelabelRule where
  action : Option String := none
  sourceLabels : List String := []
  regex : Option String := none
  deriving DecidableEq, Inhabited

namespace RelabelRule

/-- The pattern of a relabeling that keeps metrics by their name alone; without one, it
keeps all. -/
def keepRegex? (r : RelabelRule) : Option String :=
  if r.action.any (LetterCase.eqPlain · "keep") && r.sourceLabels == [Query.nameLabel] then
    some (r.regex.getD "(.*)")
  else none

def ofJson? (j : Json) : Option RelabelRule := do
  let r ← j.record? ["action", "sourceLabels", "regex"]
  let action ← r.withDefault "action" none (Json.orNull? Json.string?)
  let sourceLabels ← r.withDefault "sourceLabels" [] (Json.list? Json.string?)
  let regex ← r.withDefault "regex" none (Json.orNull? Json.string?)
  return { action, sourceLabels, regex }

end RelabelRule

/-- An endpoint that metrics are collected from. -/
structure Endpoint where
  relabelings : List RelabelRule := []
  deriving DecidableEq, Inhabited

def Endpoint.ofJson? (j : Json) : Option Endpoint := do
  let r ← j.record? ["metricRelabelings"]
  return ⟨← r.withDefault "metricRelabelings" [] (Json.list? RelabelRule.ofJson?)⟩

/-- A monitor of a cluster. -/
structure Monitor where
  name : String
  kind : MonitorKind
  /-- The value of the label that opts into a collection profile. -/
  profile : Option String := none
  endpoints : List Endpoint := []
  deriving DecidableEq, Inhabited

namespace Monitor

/-- The endpoints of a specification. -/
def endpoints? (kind : MonitorKind) (spec : Json) : Option (List Endpoint) := do
  let r ← spec.record? [kind.endpointsKey]
  r.withDefault kind.endpointsKey [] (Json.list? Endpoint.ofJson?)

/-- The monitor of a specification. -/
def ofSpec (kind : MonitorKind) (name : String) (profile : Option String) (spec : Json) :
    Except Failure Monitor := do
  let endpoints ←
    orFail .json s!"decoding spec of {kind.name} '{name}'" (endpoints? kind spec)
  return { name, kind, profile, endpoints }

/-- The patterns of all relabelings that keep metrics by name, in their order. -/
def keepRegexes (m : Monitor) : List String :=
  (m.endpoints.flatMap (·.relabelings)).filterMap RelabelRule.keepRegex?

end Monitor

end ProfileAudit
