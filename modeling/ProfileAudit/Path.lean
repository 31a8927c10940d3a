/-!
Paths as texts: their components, the directory they lie in, and joining them.
-/

namespace ProfileAudit.Path

/-- The pieces between slashes. -/
def pieces (path : String) : List String :=
  (go [] path.toList).map String.ofList
where
  go (piece : List Char) : List Char → List (List Char)
    | [] => [piece.reverse]
    | c :: s => if c = '/' then piece.reverse :: go [] s else go (c :: piece) s

def isAbsolute (path : String) : Bool := path.toList.head? == some '/'

/-- The last piece leads to a directory: a slash or a dot stands at the end. -/
def endsInDirectory (path : String) : Bool :=
  match (pieces path).getLast? with
  | some p => p == "" || p == "." || p == ".."
  | none => false

/-- The last piece with something in it is a dot. -/
def endsInDot (path : String) : Bool :=
  ((pieces path).filter (· != "")).getLast? == some "."

/-- The components that lead somewhere: no empty ones and no dots. -/
def components (path : String) : List String :=
  (pieces path).filter fun p => p != "" && p != "."

/-- One path after another. An absolute one replaces what is before it. -/
def join (dir path : String) : String :=
  if isAbsolute path then path
  else if dir.isEmpty || dir.toList.getLast? == some '/' then dir ++ path
  else dir ++ "/" ++ path

/-- The text of a path, last character first, without the slashes at its end and the dots
there that are whole pieces. `fuel` is at least the length of the text. -/
def dropEnd : Nat → List Char → List Char
  | fuel + 1, '/' :: s => dropEnd fuel s
  | fuel + 1, '.' :: '/' :: s => dropEnd fuel s
  | _, s => s

/-- The path without its last component; nothing for a path without components. -/
def parent? (path : String) : Option String :=
  let s := dropEnd path.length path.toList.reverse
  if s.isEmpty then none
  else
    match s.dropWhile (· != '/') with
    | [] => some ""
    | before =>
      match dropEnd before.length before with
      | [] => some "/"
      | rest => some (String.ofList rest.reverse)

end ProfileAudit.Path
