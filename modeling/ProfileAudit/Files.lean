import ProfileAudit.Failure
import ProfileAudit.Path

/-!
A tree of files and directories, with reading, writing and the making of directories.
Every operation that fails leaves all files as they are.
-/

namespace ProfileAudit

/-- What a file holds: a text, or bytes that are no text. -/
inductive Contents where
  | text (s : String)
  | binary
  deriving DecidableEq, Inhabited

/-- A node of the tree. -/
inductive FileNode where
  | directory
  | file (contents : Contents)
  deriving DecidableEq, Inhabited

/-- The nodes below the root by their place, and the place that relative paths start
from. A place is a list of names without dots. -/
structure FileTree where
  nodes : List (List String × FileNode) := []
  here : List String := []
  deriving Inhabited

namespace FileTree

/-- The node at a place; the root is a directory. -/
def node? (t : FileTree) (place : List String) : Option FileNode :=
  if place.isEmpty then some .directory else t.nodes.lookup place

/-- Puts a node at a place. -/
def put (t : FileTree) (place : List String) (node : FileNode) : FileTree :=
  { t with nodes := (place, node) :: t.nodes.filter (·.1 != place) }

/-- Follows components from a place. Every place on the way has to be a directory. -/
def walk (t : FileTree) (place : List String) : List String → Except IoFault (List String)
  | [] => .ok place
  | c :: cs =>
    match t.node? place with
    | none => .error .notFound
    | some (.file _) => .error .notADirectory
    | some .directory => t.walk (if c = ".." then place.dropLast else place ++ [c]) cs

/-- The place that components lead to. -/
def locate (t : FileTree) (absolute : Bool) (components : List String) :
    Except IoFault (List String) :=
  t.walk (if absolute then [] else t.here) components

/-- The node that a path leads to. -/
def find (t : FileTree) (path : String) : Except IoFault FileNode := do
  if path.isEmpty then .error .notFound
  let place ← t.locate (Path.isAbsolute path) (Path.components path)
  match t.node? place with
  | none => .error .notFound
  | some node => .ok node

/-- The text of a file. -/
def read (t : FileTree) (path : String) : Except IoFault String := do
  match ← t.find path with
  | .directory => .error .isADirectory
  | .file contents =>
    if Path.endsInDirectory path then .error .notADirectory
    else
      match contents with
      | .text s => .ok s
      | .binary => .error .invalidData

/-- Why no file can be written where a path leads that ends in a directory. A dot is looked
up in the directory, which has to be there; behind a slash alone nothing is looked up. -/
def directoryFault (t : FileTree) (path : String) (place : List String) : IoFault :=
  match Path.endsInDot path, t.node? place with
  | true, none => .notFound
  | true, some (.file _) => .notADirectory
  | _, _ => .isADirectory

/-- Writes a file, in place of what it held before. -/
def write (t : FileTree) (path text : String) : Except IoFault FileTree := do
  if path.isEmpty then .error .notFound
  let place ← t.locate (Path.isAbsolute path) (Path.components path)
  if Path.endsInDirectory path then .error (t.directoryFault path place)
  else
    match t.node? place with
    | some .directory => .error .isADirectory
    | _ => .ok (t.put place (.file (.text text)))

/-- Makes one directory. -/
def makeDirectory (t : FileTree) (absolute : Bool) (components : List String) :
    Except IoFault FileTree := do
  let place ← t.locate absolute components
  match t.node? place with
  | some _ => .error .alreadyExists
  | none => .ok (t.put place .directory)

/-- There is a directory where the components lead. -/
def isDirectory (t : FileTree) (absolute : Bool) (components : List String) : Bool :=
  match t.locate absolute components with
  | .ok place => t.node? place == some .directory
  | .error _ => false

/-- Makes a directory and those on the way to it, given the components from the last to
the first. The tree is returned with the fault, since some directories may be made. -/
def makeDirectories (t : FileTree) (absolute : Bool) :
    List String → FileTree × Option IoFault
  | [] => (t, none)
  | c :: before =>
    let components := (c :: before).reverse
    match t.makeDirectory absolute components with
    | .ok t => (t, none)
    | .error .notFound =>
      match t.makeDirectories absolute before with
      | (t, some fault) => (t, some fault)
      | (t, none) =>
        match t.makeDirectory absolute components with
        | .ok t => (t, none)
        | .error fault =>
          if t.isDirectory absolute components then (t, none) else (t, some fault)
    | .error fault =>
      if t.isDirectory absolute components then (t, none) else (t, some fault)

/-- Makes the directory of a path and all on the way to it. -/
def makeAll (t : FileTree) (path : String) : FileTree × Option IoFault :=
  t.makeDirectories (Path.isAbsolute path) (Path.components path).reverse

/-- Writes an artifact, making the directory that it lies in. -/
def writeArtifact (t : FileTree) (path text : String) : FileTree × Except Failure Unit :=
  let written := fun (t : FileTree) =>
    match t.write path text with
    | .ok t => (t, Except.ok ())
    | .error fault => (t, .error ⟨.io fault, [s!"writing '{path}'"]⟩)
  match Path.parent? path with
  | none => written t
  | some "" => written t
  | some dir =>
    match t.makeAll dir with
    | (t, none) => written t
    | (t, some fault) => (t, .error ⟨.io fault, [s!"creating report directory '{dir}'"]⟩)

/-- Reads a file, saying what for if that fails. -/
def readFor (t : FileTree) (path what : String) : Except Failure String :=
  (t.read path).mapError fun fault => ⟨.io fault, [s!"{what} '{path}'"]⟩

end FileTree

end ProfileAudit
