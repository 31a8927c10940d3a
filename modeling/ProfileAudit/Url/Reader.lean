import ProfileAudit.Url.Basic

/-!
Reading URLs. Blanks around a URL and line breaks within it do not count. URLs with a
special scheme are read generously: any number of slashes and backslashes may stand before
the host.
-/

namespace ProfileAudit.Url

/-- What counts of a text. -/
def meaningful (s : String) : List Char :=
  let isBlank := fun (c : Char) => decide (c ≤ ' ')
  let trimmed := ((s.toList.dropWhile isBlank).reverse.dropWhile isBlank).reverse
  trimmed.filter fun c => c != '\t' && c != '\n' && c != '\r'

/-- Reads a scheme and its colon. -/
def readScheme (cs : List Char) : Option (String × List Char) :=
  let name := cs.takeWhile fun c => c.isAlphanum || c == '+' || c == '-' || c == '.'
  match cs.drop name.length with
  | ':' :: rest =>
    if name.head?.any Char.isAlpha then
      some (String.ofList (name.map LetterCase.plainLower), rest)
    else none
  | _ => none

/-! ## Paths -/

/-- A slash; in special schemes a backslash is one too. -/
def isSlash (special : Bool) (c : Char) : Bool := c == '/' || (special && c == '\\')

/-- What ends a path. -/
def endsPath (c : Char) : Bool := c == '?' || c == '#'

/-- A segment by which a path stays where it is. -/
def isHere (segment : List Char) : Bool :=
  let s := segment.map LetterCase.plainLower
  s == ['.'] || s == ['%', '2', 'e']

/-- A segment by which a path goes up. -/
def isUp (segment : List Char) : Bool :=
  let s := segment.map LetterCase.plainLower
  [".".toList, "%2e".toList].any fun first => first.isPrefixOf s && isHere (s.drop first.length)

/-- The letter of a drive. -/
def drive? : List Char → Option Char
  | [c, ':'] | [c, '|'] => if c.isAlpha then some c else none
  | _ => none

/-- The path after going up; a file's path does not leave its drive. -/
def goUp (isFile : Bool) (path : List String) : List String :=
  match path with
  | [name] => if isFile && (drive? name.toList).isSome then path else []
  | _ => path.dropLast

/-- The path after one more segment. -/
def enter (isFile : Bool) (path : List String) (segment : List Char) : List String :=
  if isUp segment then goUp isFile path
  else if isHere segment then path
  else
    match drive? segment with
    | some c =>
      if isFile && path.isEmpty then [String.ofList [c, ':']]
      else path ++ [Percent.encode Percent.path segment]
    | none => path ++ [Percent.encode Percent.path segment]

/-- The path of some segments. One that goes up or stays at the end leaves a slash there. -/
def pathOf (isFile : Bool) (segments : List (List Char)) : List String :=
  let path := segments.foldl (enter isFile) []
  let path := if segments.getLast?.any fun s => isUp s || isHere s then path ++ [""] else path
  if isFile then
    let rest := path.dropWhile (·.isEmpty)
    if rest.isEmpty then [""] else rest
  else path

/-- The path in a text that begins with its slash, if it has one. -/
def readPath (scheme : String) (cs : List Char) : List String :=
  let special := isSpecial scheme
  let cs := match cs with
    | c :: rest => if isSlash special c then rest else cs
    | [] => []
  pathOf (scheme == "file") (partsBetween (isSlash special) cs)

/-- The text after a path: a query and a fragment. -/
def withRest (u : Url) (cs : List Char) : Url :=
  let querySet := if isSpecial u.scheme then Percent.specialQuery else Percent.query
  let fragment? := fun
    | '#' :: cs => some (Percent.encode Percent.fragment cs)
    | _ => none
  match cs with
  | '?' :: cs =>
    let query := Percent.encode querySet (cs.takeWhile (· != '#'))
    { u with query := some query, fragment := fragment? (cs.dropWhile (· != '#')) }
  | cs => { u with fragment := fragment? cs }

/-! ## Authorities -/

/-- Reads a port behind its colon. The port that a scheme has anyway does not count. -/
def readPort (scheme : String) (cs : List Char) : Except UrlFault (Option Nat × List Char) :=
  let digits := cs.takeWhile Char.isDigit
  let rest := cs.drop digits.length
  let number := (Hex.inBase? 10 digits).getD 0
  if 65535 < number || rest.head?.any (· != '\\') then .error .port
  else .ok (if digits.isEmpty || usualPort? scheme = some number then none else some number, rest)

/-- The length of a host: a colon ends it unless it stands in brackets. -/
def hostLength : Bool → List Char → Nat
  | _, [] => 0
  | true, c :: cs => 1 + hostLength (c != ']') cs
  | false, c :: cs => if c == ':' then 0 else 1 + hostLength (c == '[') cs

/-- Reads a host and a port. -/
def readHost (scheme : String) (cs : List Char) :
    Except UrlFault (Host × Option Nat × List Char) := do
  let length := hostLength false cs
  let (name, rest) := (cs.take length, cs.drop length)
  if name.isEmpty && (isSpecial scheme || !rest.isEmpty) then .error .emptyHost
  let host ← if isSpecial scheme then Host.ofDomain name else Host.ofName name
  match rest with
  | ':' :: rest =>
    let (port, rest) ← readPort scheme rest
    return (host, port, rest)
  | _ => return (host, none, rest)

/-- The user and the password in the text before the last `@`. -/
def credentialsOf (cs : List Char) : String × String :=
  let username := cs.takeWhile (· != ':')
  (Percent.encode Percent.userinfo username,
    Percent.encode Percent.userinfo (cs.drop (username.length + 1)))

/-- Reads an authority, and tells what is left of its text. -/
def readAuthority (scheme : String) (cs : List Char) : Except UrlFault (Authority × List Char) := do
  let hostText := (cs.reverse.takeWhile (· != '@')).reverse
  let (username, password) := credentialsOf (cs.take (cs.length - hostText.length - 1))
  let (host, port, rest) ← readHost scheme hostText
  let authority : Authority := { username, password, host, port }
  if host = .name "" && !authority.credentials.isEmpty then .error .emptyHost
  return (authority, rest)

/-- Reads what follows the slashes before an authority. -/
def afterSlashes (scheme : String) (cs : List Char) : Except UrlFault Url := do
  let special := isSpecial scheme
  let within := cs.takeWhile fun c => !isSlash special c && !endsPath c
  let after := cs.drop within.length
  if within == ['@'] && !after.isEmpty then .error .emptyHost
  let (authority, rest) ← readAuthority scheme within
  let after := rest ++ after
  let place := after.takeWhile (!endsPath ·)
  let names := if place.isEmpty && !special then [] else readPath scheme place
  return withRest { scheme, authority, path := .segments names } (after.drop place.length)

/-! ## Files -/

/-- Reads the host of a file, unless a drive stands in its place. The plain name of the own
machine does not count. -/
def readFileHost (cs : List Char) : Except UrlFault (Host × List Char) := do
  let name := cs.takeWhile fun c => !isSlash true c && !endsPath c
  if name.isEmpty || (drive? name).isSome then return (.name "", cs)
  let host ← Host.ofDomain name
  return (if host = .name "localhost" then .name "" else host, cs.drop name.length)

/-- Reads the URL of a file. On a drive there is no host. -/
def readFile (cs : List Char) : Except UrlFault Url := do
  let (host, cs) ← match cs with
    | a :: b :: rest =>
      if isSlash true a && isSlash true b then readFileHost rest else pure (Host.name "", cs)
    | _ => pure (Host.name "", cs)
  let place := cs.takeWhile (!endsPath ·)
  let names := readPath "file" place
  let host := if names.head?.any fun n => (drive? n.toList).isSome then .name "" else host
  let authority : Authority := { host }
  return withRest { scheme := "file", authority, path := .segments names } (cs.drop place.length)

/-! ## URLs -/

/-- Reads what follows a scheme that is not special. -/
def afterScheme (scheme : String) (cs : List Char) : Except UrlFault Url :=
  match cs with
  | '/' :: '/' :: rest => afterSlashes scheme rest
  | _ =>
    let place := cs.takeWhile (!endsPath ·)
    let path := match place with
      | '/' :: _ => UrlPath.segments (readPath scheme place)
      | _ => .bare (Percent.encode Percent.controls place)
    .ok (withRest { scheme, authority := none, path } (cs.drop place.length))

/-- The URL that a text writes. -/
def ofText (s : String) : Except UrlFault Url :=
  match readScheme (meaningful s) with
  | none => .error .relativeWithoutBase
  | some ("file", rest) => readFile rest
  | some (scheme, rest) =>
    if isSpecial scheme then afterSlashes scheme (rest.dropWhile (isSlash true))
    else afterScheme scheme rest

end ProfileAudit.Url
