import ProfileAudit.Files
import ProfileAudit.Http.Request
import ProfileAudit.Yaml.Decode

/-!
Files that tell how to reach a cluster. A file names clusters, users and contexts; a context
joins a cluster and a user, and one context is the current one.
-/

namespace ProfileAudit

/-- A user of a cluster. -/
structure ClusterUser where
  username : Option String := none
  password : Option String := none
  token : Option String := none
  deriving DecidableEq, Inhabited

/-- What a user presents: a name with a password, or else a token. -/
def ClusterUser.authorization (u : ClusterUser) : Option String :=
  match u.username, u.password with
  | some name, some password => some (basicAuthorization name password)
  | _, _ => u.token.map ("Bearer " ++ ·)

/-- A context: the names of a cluster and of a user. -/
structure ClusterContext where
  cluster : String
  user : Option String := none
  deriving DecidableEq, Inhabited

/-- What a file tells. Something that is named may be missing. -/
structure Kubeconfig where
  currentContext : Option String := none
  contexts : List (String × Option ClusterContext) := []
  /-- The servers of the clusters. -/
  clusters : List (String × Option (Option String)) := []
  users : List (String × Option ClusterUser) := []
  deriving Inhabited

namespace Kubeconfig

open Yaml

/-! ## Reading -/

/-- A text that does not stand for something else. -/
def properText? (d : Document) (n : Node) : Option String :=
  match d.follow n with
  | .scalar s =>
    if s.plain && s.tag.isNone then
      match Plain.ofText s.text with
      | .text t => some t
      | _ => none
    else some s.text
  | _ => none

/-- A member of a record that may be missing or `null`. -/
def text? (d : Document) (ms : List (String × Node)) (name : String) : Option (Option String) :=
  member ms name none (d.optional? (properText? d))

/-- A list of values under names. -/
def named? {α : Type} (d : Document) (key : String) (decode : Node → Option α) (n : Node) :
    Option (List (String × Option α)) := do
  let items ← d.optional? (d.list? fun item => do
    let ms ← d.members? false ["name", key] item
    let name ← ms.lookup "name" >>= properText? d
    return (name, ← member ms key none (d.optional? decode))) n
  return items.getD []

def context? (d : Document) (n : Node) : Option ClusterContext := do
  let ms ← d.members? false ["cluster", "user"] n
  return { cluster := ← ms.lookup "cluster" >>= properText? d, user := ← text? d ms "user" }

def server? (d : Document) (n : Node) : Option (Option String) := do
  text? d (← d.members? false ["server"] n) "server"

def user? (d : Document) (n : Node) : Option ClusterUser := do
  let ms ← d.members? false ["username", "password", "token"] n
  return { username := ← text? d ms "username", password := ← text? d ms "password",
           token := ← text? d ms "token" }

/-- What the text of a file tells; an empty one tells nothing. -/
def ofText? (text : String) : Option Kubeconfig := do
  let d ← Document.ofText? text
  match d.root with
  | none => return {}
  | some root =>
    if (d.optional? some root).join.isNone then none
    let ms ← d.members? false
      ["current-context", "contexts", "clusters", "users", "kind", "apiVersion"] root
    discard (text? d ms "kind")
    discard (text? d ms "apiVersion")
    let currentContext ← text? d ms "current-context"
    let contexts ← member ms "contexts" [] (named? d "context" (context? d))
    let clusters ← member ms "clusters" [] (named? d "cluster" (server? d))
    let users ← member ms "users" [] (named? d "user" (user? d))
    return { currentContext, contexts, clusters, users }

/-! ## The current context -/

/-- The server of the current context. -/
def server (k : Kubeconfig) : Option String := do
  let context ← (k.contexts.lookup (← k.currentContext)).join
  ((k.clusters.lookup context.cluster).join).join

/-- The user of the current context; one without a user is anonymous. -/
def user (k : Kubeconfig) : Option ClusterUser := do
  let context ← (k.contexts.lookup (← k.currentContext)).join
  match context.user with
  | none => some {}
  | some name => (k.users.lookup name).join

end Kubeconfig

end ProfileAudit
