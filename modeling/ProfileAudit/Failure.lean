import ProfileAudit.Query.Metrics

/-!
Failures: what went wrong, and what was being done at the time. The lines of context
stand from the innermost to the outermost.
-/

namespace ProfileAudit

/-- Ways in which the file system refuses. -/
inductive IoFault where
  | notFound | isADirectory | notADirectory | alreadyExists | invalidData
  deriving DecidableEq, Inhabited

/-- Ways in which a text is no URL. -/
inductive UrlFault where
  /-- No scheme, and nothing that the URL could be relative to. -/
  | relativeWithoutBase
  /-- Relative to a URL whose path has no segments. -/
  | relativeToBare
  | emptyHost
  | domain
  /-- A character that no host may have. -/
  | hostCharacter
  | ipv4
  | ipv6
  | port
  deriving DecidableEq, Inhabited

/-- What went wrong. -/
inductive Cause where
  /-- The program has broken off: it panics, and nothing is made of that. Only a run itself comes
  to it; what it asks does not answer so. -/
  | panic
  /-- Something that this library says in its own words. -/
  | text (message : String)
  | query (refusal : Query.Refusal)
  | io (fault : IoFault)
  | yaml
  | toml
  | json
  | url (fault : UrlFault)
  | http
  | header
  | float
  | kubeconfig
  | kube

/-- A cause with its lines of context. -/
structure Failure where
  cause : Cause
  context : List String := []

instance : Inhabited Failure := ⟨⟨.json, []⟩⟩

namespace Failure

def ofText (message : String) : Failure := ⟨.text message, []⟩

def panic : Failure := ⟨.panic, []⟩

def isPanic (f : Failure) : Bool :=
  match f.cause with
  | .panic => true
  | _ => false

/-- The same failure, with a further line of context. -/
def within (line : String) (f : Failure) : Failure := { f with context := f.context ++ [line] }

end Failure

/-- Adds a line of context to a failure. -/
def inContext {α : Type} (line : String) (r : Except Failure α) : Except Failure α :=
  r.mapError (Failure.within line)

/-- A missing result is a failure with one line of context. -/
def orFail {α : Type} (cause : Cause) (line : String) : Option α → Except Failure α
  | some a => .ok a
  | none => .error ⟨cause, [line]⟩

namespace IoFault

/-- The words of the system. -/
def message : IoFault → String
  | notFound => "No such file or directory (os error 2)"
  | isADirectory => "Is a directory (os error 21)"
  | notADirectory => "Not a directory (os error 20)"
  | alreadyExists => "File exists (os error 17)"
  | invalidData => "stream did not contain valid UTF-8"

end IoFault

namespace UrlFault

def message : UrlFault → String
  | relativeWithoutBase => "relative URL without a base"
  | relativeToBare => "relative URL with a cannot-be-a-base base"
  | emptyHost => "empty host"
  | domain => "invalid international domain name"
  | hostCharacter => "invalid domain character"
  | ipv4 => "invalid IPv4 address"
  | ipv6 => "invalid IPv6 address"
  | port => "invalid port number"

end UrlFault

/-- The words for a cause. For faults of documents and of the network they only say what
kind of thing failed. -/
def Cause.message : Cause → String
  | panic => "thread panicked"
  | text message => message
  | query refusal => refusal.message
  | io fault => fault.message
  | yaml => "invalid YAML"
  | toml => "invalid TOML"
  | json => "invalid JSON"
  | url fault => fault.message
  | http => "HTTP request failed"
  | header => "failed to parse header value"
  | float => "invalid float literal"
  | kubeconfig => "invalid kubeconfig"
  | kube => "cluster request failed"

/-- A failure as it is printed: the cause, and each line of context on a line of its own. -/
def Failure.render (f : Failure) : String :=
  f.cause.message ++ String.join (f.context.map ("\n> " ++ ·))

end ProfileAudit
