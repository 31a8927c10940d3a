import ProfileAudit.Profile.Basic
import ProfileAudit.Run

/-!
The monitors of a profile: first those of pods and then those of services, each kind by
all selectors of the profile.
-/

namespace ProfileAudit

/-- Lists the monitors of one kind by each selector. -/
def listBySelectors (source : MonitorSource) (what : String) (kind : MonitorKind) :
    List String → Audit (List Monitor)
  | [] => return []
  | selector :: selectors => do
    let found ← Audit.call what (.list kind selector) (source.list kind selector)
    return found ++ (← listBySelectors source what kind selectors)

/-- Lists the monitors of several kinds that implement a profile. -/
def CollectionProfile.listKinds (p : CollectionProfile) (source : MonitorSource)
    (settings : ProfileSettings) : List MonitorKind → Audit (List Monitor)
  | [] => return []
  | kind :: kinds => do
    let what := s!"listing {kind.name}s for the {p.name} profile"
    let found ← listBySelectors source what kind (p.selectors settings.label settings.noisy)
    return found ++ (← p.listKinds source settings kinds)

/-- Lists the monitors that implement a profile. -/
def CollectionProfile.monitors (p : CollectionProfile) (source : MonitorSource)
    (settings : ProfileSettings) : Audit (List Monitor) :=
  p.listKinds source settings MonitorKind.all

end ProfileAudit
