import ProfileAudit.Command.Program
import ProfileAudit.Http.Message
import Std.Async.DNS
import Std.Async.TCP
import Std.Async.Timer
import Std.Time

/-!
The program as a process. A run is a function of what the network answers: it is carried out
with the answers that are known, and if it makes a call beyond these, the call's request is
sent and the run is carried out again with one answer more.
-/

namespace ProfileAudit

open Std.Async Std.Net

/-! ## The network -/

/-- The answers to the calls of a run, in their order. A call beyond them does not end. -/
def answered (answers : List (Behaviour Response)) : Network := fun _ m =>
  answers[m.calls.length]?.getD .never

/-- Receives what comes until the connection ends. -/
partial def receiveAll (socket : TCP.Socket.Client) (bytes : ByteArray) : Async ByteArray := do
  match ← socket.recv? 65536 with
  | some more => receiveAll socket (bytes ++ more)
  | none => return bytes

def socketAddress (port : Nat) : IPAddr → SocketAddress
  | .v4 addr => .v4 ⟨addr, port.toUInt16⟩
  | .v6 addr => .v6 ⟨addr, port.toUInt16⟩

/-- Sends a request to its server and receives the answer. Only plain connections are made. -/
def exchange (r : Request) : Async Response := do
  let some (host, port) := if r.url.scheme == "http" then r.server? else none
    | throw (.userError "unsupported URL")
  let some addr := (← DNS.getAddrInfo host (toString port))[0]?
    | throw (.userError "unknown host")
  let socket ← TCP.Socket.Client.mk
  socket.connect (socketAddress port addr)
  socket.sendAll #[r.message.toUTF8]
  let bytes ← receiveAll socket .empty
  let some response := String.fromUTF8? bytes >>= Response.ofMessage?
    | throw (.userError "malformed response")
  return response

/-- Sends a request, and tells how long the answer took. An answer that takes longer than the
limit is not waited for. -/
def ask (limit : Nat) (r : Request) : IO (Behaviour Response) := do
  let start ← IO.monoNanosNow
  let late : Async (Option Response) := do
    Std.Async.sleep (.ofNat (limit / Nat.pow 10 6))
    return none
  let answer ← (Async.race (some <$> exchange r) late).block.toBaseIO
  let delay := (← IO.monoNanosNow) - start
  return match answer with
    | .ok (some response) => .after delay (.ok response)
    | .ok none => .never
    | .error _ => .after delay (.error ⟨.http, []⟩)

/-- Carries out a run with more and more answers, until it makes no call beyond them. -/
partial def converse (run : Network → Except Failure Unit × Journal)
    (ask : Call → IO (Behaviour Response)) (answers : List (Behaviour Response)) :
    IO (Except Failure Unit × Journal) := do
  let (result, j) := run (answered answers)
  match j.calls[answers.length]? with
  | none => return (result, j)
  | some call => converse run ask (answers ++ [← ask call])

/-! ## Files -/

/-- The place of a path, given the place that relative ones start from. -/
def placeOf (here : List String) (path : String) : List String :=
  (Path.components path).foldl (fun place c => if c = ".." then place.dropLast else place ++ [c])
    (if Path.isAbsolute path then [] else here)

/-- The path of a place. -/
def placePath (place : List String) : String := "/" ++ "/".intercalate place

/-- Takes what is at a place into a tree. -/
def takeIn (t : FileTree) (place : List String) : IO FileTree := do
  let path := (← IO.currentDir) / placePath place
  if ← path.isDir then return t.put place .directory
  if ← path.pathExists then
    let bytes ← IO.FS.readBinFile path
    return t.put place (.file ((String.fromUTF8? bytes).elim .binary .text))
  return t

/-- Takes what is at a path, and above it, into a tree. -/
def takePath (t : FileTree) (path : String) : IO FileTree := do
  let place := placeOf t.here path
  (List.range place.length).foldlM (fun t n => takeIn t (place.take (n + 1))) t

/-- Makes the directories and files of a tree that another one does not have. -/
def putOut (before after : FileTree) : IO Unit := do
  let changed := after.nodes.filter fun (place, node) => before.node? place != some node
  for (place, node) in changed.mergeSort fun a b => a.1.length ≤ b.1.length do
    match node with
    | .directory => IO.FS.createDirAll (placePath place)
    | .file (.text text) => IO.FS.writeFile (placePath place) text
    | .file .binary => pure ()

/-! ## The process -/

/-- The file that leads to a cluster if none is named. -/
def usualKubeconfig : IO (Option String) := do
  match ← IO.getEnv "KUBECONFIG" with
  | some path => return some path
  | none => return (← IO.getEnv "HOME").map (Path.join · ".kube/config")

/-- What the process runs in, apart from the network. A cluster is inferred from one file only. -/
def currentSetting (kubeconfig : Option String) : IO Setting := do
  let now ← Std.Time.Timestamp.now
  let nanos := now.toNanosecondsSinceUnixEpoch.val
  let epoch : Instant := ⟨nanos / Int.pow 10 9, (nanos % Int.pow 10 9).toNat⟩
  let zone := (← Std.Time.Database.defaultGetLocalZoneRules).timezoneAt now
  let localEpoch := { epoch with seconds := epoch.seconds + zone.offset.second.val }
  let inferred := fun files =>
    match kubeconfig.bind fun path => (Cluster.ofFile files path profileLabel).toOption with
    | some cluster => .ok cluster
    | none => .error .unknown
  return { network := answered [], inferred, tempDir := (← IO.getEnv "TMPDIR").getD "/tmp",
           epoch, localTime := fun n => (localEpoch.later n).timestamp }

/-- The variables that options fall back to. -/
def currentEnvironment : IO Environment := do
  let found ← (CheckOption.all.filterMap CheckOption.fallback?).mapM fun name =>
    return (← IO.getEnv name).map (name, ·)
  return found.filterMap id

/-- How long an answer is waited for. -/
def patience (files : FileTree) : Command → Nat
  | .check a => ((Config.load files "." a.config).toOption.map (·.requestTimeout)).getD 0
  | .init _ => 0

/-- Runs a command in the process. -/
def runCommand (command : Command) : IO Ending := do
  let kubeconfig ← usualKubeconfig
  let w ← currentSetting kubeconfig
  let here := Path.components (← IO.currentDir).toString
  let bare ← (placePath here :: kubeconfig.toList).foldlM takePath { here }
  let files ← (command.paths w bare).foldlM takePath bare
  let files ← (command.paths w files).foldlM takePath files
  let request? := fun call => match command with
    | .check a => a.requestOf? w files call
    | .init _ => none
  let (result, j) ← converse (fun network => command.run { w with network } { files })
    (fun call => match request? call with
      | some r => ask (patience files command) r
      | none => return .ready (.error ⟨.http, []⟩)) []
  putOut files j.files
  return .ofRun result j

end ProfileAudit

open ProfileAudit in
/-- The process. -/
def main (words : List String) : IO UInt32 := do
  let ending ← match Command.ofWords (← currentEnvironment) words with
    | .error e => pure (Ending.ofUsage e {})
    | .ok command => runCommand command
  IO.print ending.output
  IO.eprint ending.errors
  return ending.code.toUInt32
