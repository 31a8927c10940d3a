import ProfileAudit.Url.Host

/-!
URLs and their text. A path is either a list of segments, to which further ones can be
added, or a bare text.
-/

namespace ProfileAudit

/-- Who is asked: a host, with a port if it is not the usual one, and in whose name. -/
structure Authority where
  username : String := ""
  password : String := ""
  host : Host
  port : Option Nat := none
  deriving DecidableEq, Inhabited

namespace Authority

/-- The user and the password, if there is any. -/
def credentials (a : Authority) : String :=
  if a.username.isEmpty && a.password.isEmpty then ""
  else a.username ++ (if a.password.isEmpty then "" else ":" ++ a.password) ++ "@"

def text (a : Authority) : String :=
  a.credentials ++ a.host.text ++ (a.port.map fun p => ":" ++ toString p).getD ""

end Authority

/-- The path of a URL. -/
inductive UrlPath where
  /-- A text that does not begin with a slash. -/
  | bare (text : String)
  /-- Names with a slash before each. -/
  | segments (names : List String)
  deriving DecidableEq, Inhabited

def UrlPath.text : UrlPath → String
  | bare text => text
  | segments names => String.join (names.map ("/" ++ ·))

/-- A URL, all of whose parts are encoded. -/
structure Url where
  scheme : String
  authority : Option Authority
  path : UrlPath
  query : Option String := none
  fragment : Option String := none
  deriving DecidableEq, Inhabited

namespace Url

/-- The port that a scheme has if none is given. -/
def usualPort? : String → Option Nat
  | "http" | "ws" => some 80
  | "https" | "wss" => some 443
  | "ftp" => some 21
  | _ => none

/-- Schemes whose URLs have a host and a path of segments in any case. -/
def isSpecial (scheme : String) : Bool := scheme == "file" || (usualPort? scheme).isSome

/-- The text of a URL. A path that would look like a host is told apart by a dot. -/
def text (u : Url) : String :=
  let place := match u.authority, u.path with
    | some a, path => "//" ++ a.text ++ path.text
    | none, .segments ("" :: name :: names) =>
      "/." ++ (UrlPath.segments ("" :: name :: names)).text
    | none, path => path.text
  u.scheme ++ ":" ++ place ++ (u.query.map ("?" ++ ·)).getD "" ++
    (u.fragment.map ("#" ++ ·)).getD ""

/-- The same URL with a slash at the end of its path. -/
def withSlash (u : Url) : Url :=
  match u.path with
  | .bare text =>
    if text.isEmpty then { u with path := .bare "%2F" }
    else if text.toList.getLast? = some '/' then u
    else { u with path := .bare (text ++ "/") }
  | .segments names =>
    if names.getLast? = some "" then u else { u with path := .segments (names ++ [""]) }

/-- The URL at some names, relative to this one: they take the place of what follows the
last slash of the path. -/
def join (u : Url) (names : List String) : Except UrlFault Url :=
  match u.path with
  | .bare _ => .error .relativeToBare
  | .segments before =>
    .ok { u with path := .segments (before.dropLast ++ names), query := none, fragment := none }

end Url

end ProfileAudit
