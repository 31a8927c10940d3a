import ProfileAudit.Cluster.Kubeconfig
import ProfileAudit.Json.Reader
import ProfileAudit.Monitor.Selector

/-!
The monitors of a cluster. They are listed by kind and label selector, across all
namespaces.
-/

namespace ProfileAudit

/-- A cluster and how it is asked. -/
structure Cluster where
  server : String
  authorization : Option String := none
  /-- The label that opts a monitor into a profile. -/
  label : String
  deriving DecidableEq, Inhabited

namespace Cluster

/-- The cluster that a file leads to. -/
def ofFile (files : FileTree) (path : String) (label : String) : Except Failure Cluster := do
  let k ← orFail .kubeconfig s!"reading kubeconfig '{path}'"
    ((files.read path).toOption >>= Kubeconfig.ofText?)
  let loading := s!"loading kubeconfig '{path}'"
  let server ← orFail .kubeconfig loading k.server
  let user ← orFail .kubeconfig loading k.user
  if server.isEmpty || server.toList.contains ' ' then .error ⟨.kubeconfig, [loading]⟩
  return { server, authorization := user.authorization, label }

/-- What can be in the way to a cluster that no file is named for. -/
inductive Fault where
  /-- Nothing leads to a cluster. -/
  | unknown
  /-- It is known, but there can be no client for it. -/
  | unusable
  deriving DecidableEq, Inhabited

def Fault.failure : Fault → Failure
  | unknown => ⟨.kubeconfig, ["inferring cluster configuration"]⟩
  | unusable => ⟨.kube, ["creating cluster client"]⟩

/-- The cluster that a file leads to. Without a file it is the one that is inferred. -/
def connect (inferred : FileTree → Except Fault Cluster) (files : FileTree)
    (kubeconfig : Option String) (label : String) : Except Failure Cluster :=
  match kubeconfig with
  | none => do
    let c ← (inferred files).mapError Fault.failure
    return { c with label }
  | some path => ofFile files path label

/-! ## Listing -/

/-- The group and version that monitors belong to. -/
def monitorGroup : List String := ["apis", "monitoring.coreos.com", "v1"]

/-- The name of a kind in paths. -/
def pluralOf (kind : MonitorKind) : String :=
  String.ofList (kind.name.toList.map LetterCase.plainLower) ++ "s"

/-- The request for the monitors of a kind. -/
def request (c : Cluster) (kind : MonitorKind) (selector : String) : Except UrlFault Request := do
  let base ← Url.ofText c.server
  match base.path with
  | .bare _ => .error .relativeToBare
  | .segments names =>
    let above := (names.reverse.dropWhile (·.isEmpty)).reverse
    let url := { base with path := .segments (above ++ monitorGroup ++ [pluralOf kind]) }
    return { url := url.withFields [("labelSelector", selector)], authorization := c.authorization }

/-- An object of a cluster, as far as it matters. -/
structure Object where
  name : String
  labels : List (String × String)
  spec : Json

/-- Reads an object. -/
def object? (j : Json) : Option Object := do
  discard j.object?
  let metadata := (j.get? "metadata").getD (.object [])
  discard metadata.object?
  let member := fun {α : Type} (key : String) (decode : Json → Option α) =>
    Json.orNull? decode (metadata.getD key)
  let name ← member "name" Json.string?
  let labels ← member "labels" Json.texts?
  discard (member "namespace" Json.string?)
  discard (member "annotations" Json.texts?)
  return { name := name.getD "", labels := labels.getD [],
           spec := (j.get? "spec").getD (.object []) }

/-- The objects of a list. -/
def objects? (j : Json) : Option (List Object) := do
  discard j.object?
  discard ((j.get? "metadata").getD (.object [])).object?
  return (← Json.orNull? (Json.list? object?) (← j.get? "items")).getD []

/-- The objects in a response. -/
def objectsOf (r : Response) : Option (List Object) :=
  if 400 ≤ r.status ∧ r.status < 600 then none else Json.ofText? r.body >>= objects?

/-- The monitor that an object describes. -/
def monitor (c : Cluster) (kind : MonitorKind) (o : Object) : Except Failure Monitor :=
  Monitor.ofSpec kind o.name (o.labels.lookup c.label) o.spec

/-- Lists the monitors of a kind that a selector picks. -/
def list (c : Cluster) (network : Network) (kind : MonitorKind) (selector : String) :
    Reaction (List Monitor) := fun m =>
  let listing := s!"listing {kind.name}s matching '{selector}'"
  match c.request kind selector with
  | .error _ => .ready (.error ⟨.kube, [listing]⟩)
  | .ok request => (network request m).map fun result => do
    (← orFail .kube listing (result.toOption >>= objectsOf)).mapM (c.monitor kind)

/-- The cluster as a source of monitors. -/
def source (c : Cluster) (network : Network) : MonitorSource where
  list := c.list network

end Cluster

end ProfileAudit
