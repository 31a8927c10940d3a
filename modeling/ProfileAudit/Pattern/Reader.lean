import ProfileAudit.Pattern.Class

/-!
Reading a pattern from its text. The text is read from left to right with a stack of
the groups that are open; flags set inside a group end with it. A text that is no
pattern is refused as a whole, so there is nothing to say about the place.
-/

namespace ProfileAudit.Pattern

/-- A part of a sequence, with the depth of its nesting. A part that only sets flags
cannot be repeated. -/
structure Piece where
  pattern : Pattern
  depth : Nat
  repeats : Bool := true

/-- A group whose end is still to come: its finished alternatives and the parts of the
present one, the last one first. -/
structure Level where
  branches : List Piece := []
  pieces : List Piece := []

namespace Level

/-- The deepest nesting among some parts. -/
def deepest (pieces : List Piece) : Nat := (pieces.map (·.depth)).foldl max 0

/-- The sequence of the present parts. -/
def sequence (l : Level) : Piece :=
  match l.pieces with
  | [] => ⟨.nothing, 0, true⟩
  | [p] => p
  | p :: rest =>
    ⟨rest.foldl (fun tail q => .seq q.pattern tail) p.pattern, 1 + deepest l.pieces, true⟩

/-- The whole group. -/
def choice (l : Level) : Piece :=
  match l.branches with
  | [] => l.sequence
  | branches =>
    let last := l.sequence
    ⟨branches.foldl (fun right b => .either b.pattern right) last.pattern,
      1 + deepest (last :: branches), true⟩

def push (l : Level) (p : Piece) : Level := { l with pieces := p :: l.pieces }

/-- A vertical bar ends the present alternative. -/
def alternate (l : Level) : Level := ⟨l.sequence :: l.branches, []⟩

/-- Repeats the last part, if there is one that can be repeated. -/
def repeatLast? (l : Level) (least : Nat) (most : Option Nat) : Option Level :=
  match l.pieces with
  | [] => none
  | p :: rest =>
    if p.repeats then
      some { l with pieces := ⟨.times p.pattern least most, p.depth + 1, true⟩ :: rest }
    else none

end Level

/-- What is known while a pattern is read. -/
structure Reading where
  flags : Flags := {}
  level : Level := {}
  /-- The groups around the present one, with the flags that hold after it. -/
  outer : List (Level × Flags) := []
  /-- The names given to groups. -/
  names : List (List Char) := []

namespace Reading

def push (r : Reading) (p : Piece) : Reading := { r with level := r.level.push p }

def openGroup (r : Reading) (changes : List FlagChange) : Reading :=
  { r with
    flags := changes.foldl Flags.set r.flags
    level := {}
    outer := (r.level, r.flags) :: r.outer }

def setFlags (r : Reading) (changes : List FlagChange) : Reading :=
  { r with
    flags := changes.foldl Flags.set r.flags
    level := r.level.push ⟨.nothing, 0, false⟩ }

def closeGroup? (r : Reading) : Option Reading :=
  match r.outer with
  | [] => none
  | (level, flags) :: outer =>
    let inner := r.level.choice
    some { r with flags, outer, level := level.push ⟨inner.pattern, inner.depth + 1, true⟩ }

/-- The finished pattern, if every group is closed. -/
def finish? (r : Reading) : Option Piece :=
  if r.outer.isEmpty then some r.level.choice else none

end Reading

/-! ## Groups -/

/-- Characters of a group's name. -/
def isNameChar (first : Bool) (c : Char) : Bool :=
  c == '_' || Property.alphabetic.has c ||
    (!first && (c == '.' || c == '[' || c == ']' || Category.number.has c))

/-- Reads a group's name up to its closing angle bracket. -/
def groupName (first : Bool) : List Char → Option (List Char × List Char)
  | [] => none
  | c :: s =>
    if c = '>' then (if first then none else some ([], s))
    else if isNameChar first c then (groupName false s).map fun (name, rest) => (c :: name, rest)
    else none

/-- Begins a group with a name that no other group has. -/
def namedGroup (r : Reading) (s : List Char) : Option (Reading × List Char) := do
  let (name, rest) ← groupName true s
  if r.names.contains name then none
  else some ({ r.openGroup [] with names := name :: r.names }, rest)

/-- Reads what follows an opening parenthesis: looking around is not known, flags are
set for the group or for the rest of the present one. -/
def groupStart (r : Reading) (s : List Char) : Option (Reading × List Char) :=
  match r.flags.skip s with
  | '?' :: '=' :: _ | '?' :: '!' :: _ => none
  | '?' :: '<' :: '=' :: _ | '?' :: '<' :: '!' :: _ => none
  | '?' :: 'P' :: '<' :: rest => namedGroup r rest
  | '?' :: '<' :: rest => namedGroup r rest
  | '?' :: rest => do
    let (changes, stop, after) ← Flags.read [] rest
    if stop = ':' then some (r.openGroup changes, after)
    else if rest.head? = some ')' then none
    else some (r.setFlags changes, after)
  | rest => some (r.openGroup [], rest)

/-! ## Repetitions -/

/-- Reads a decimal number between blanks. -/
def repeatCount (f : Flags) (s : List Char) : Option Nat × List Char :=
  let (digits, rest) := take s.length (s.dropWhile isBlank)
  let rest := skipBlank rest.length rest
  let value := digits.foldl (fun v c => v * 10 + (c.toNat - '0'.toNat)) 0
  (if digits.isEmpty then none else some value, rest)
where
  take : Nat → List Char → List Char × List Char
    | fuel + 1, c :: s =>
      if c.isDigit then
        let (ds, rest) := take fuel (f.skip s)
        (c :: ds, rest)
      else ([], c :: s)
    | _, s => ([], s)
  skipBlank : Nat → List Char → List Char
    | fuel + 1, c :: s => if isBlank c then skipBlank fuel (f.skip s) else c :: s
    | _, s => s

/-- A repetition counts in 32 bits. -/
def countLimit : Nat := Nat.pow 2 32

/-- Reads the numbers of a repetition after its opening brace. -/
def repeatRange (f : Flags) (s : List Char) : Option (Nat × Option Nat × List Char) := do
  let (least, rest) := repeatCount f (f.skip s)
  let least ← least
  if least ≥ countLimit then none
  match rest with
  | '\x7d' :: rest => some (least, some least, rest)
  | ',' :: rest =>
    match f.skip rest with
    | '\x7d' :: rest => some (least, none, rest)
    | rest =>
      let (most, rest) := repeatCount f rest
      let most ← most
      if most ≥ countLimit ∨ most < least then none
      match rest with
      | '\x7d' :: rest => some (least, some most, rest)
      | _ => none
  | _ => none

/-- A question mark after a repetition only says which match is found first. -/
def dropLazy : List Char → List Char
  | '?' :: s => s
  | s => s

/-! ## The whole text -/

/-- Reads the next part, beginning with `c`. -/
def readPart (r : Reading) (c : Char) (s : List Char) : Option (Reading × List Char) :=
  let f := r.flags
  let element := fun (e : Element) (rest : List Char) =>
    (e.pattern? f).map fun p => (r.push ⟨p, 0, true⟩, rest)
  let repeated := fun (least : Nat) (most : Option Nat) (rest : List Char) =>
    (r.level.repeatLast? least most).map fun level => ({ r with level }, rest)
  match c with
  | '(' => groupStart r s
  | ')' => r.closeGroup?.map (·, s)
  | '|' => some ({ r with level := r.level.alternate }, s)
  | '[' => (bracketed f s).map fun (n, rest) => (r.push ⟨.one n.set, n.depth, true⟩, rest)
  | '?' => repeated 0 (some 1) (dropLazy s)
  | '*' => repeated 0 none (dropLazy s)
  | '+' => repeated 1 none (dropLazy s)
  | '\x7b' => do
    let (least, most, rest) ← repeatRange f s
    repeated least most (dropLazy (f.skip rest))
  | '\\' => do
    let (e, rest) ← escape f s
    element e rest
  | '.' => element .dot s
  | '^' => element (.look (if f.multiLine then .lineStart f.crlf else .start)) s
  | '$' => element (.look (if f.multiLine then .lineEnd f.crlf else .finish)) s
  | c => element (.literal c false) s

/-- Reads all parts. -/
def readParts (r : Reading) (s : List Char) : Option Reading :=
  match r.flags.skip s with
  | [] => some r
  | c :: t =>
    match readPart r c t with
    | none => none
    | some (r, rest) => if rest.length < s.length then readParts r rest else none
termination_by s.length

/-- Groups, classes, repetitions, sequences and choices may nest this deep. -/
def depthLimit : Nat := 250

/-- The pattern that a text writes down. -/
def ofText? (text : String) : Option Pattern := do
  let r ← readParts {} text.toList
  let p ← r.finish?
  if p.depth ≤ depthLimit then some p.pattern else none

/-- The text writes down a pattern. -/
def isValid (text : String) : Bool := (ofText? text).isSome

/-- The pattern as it has to span a whole name. -/
def anchored (text : String) : String := "^(?:" ++ text ++ ")$"

/-! ## Escaping -/

/-- The text of a pattern that matches just the given text. -/
def escaped (text : String) : String :=
  String.ofList (text.toList.flatMap fun c => if isMeta c then ['\\', c] else [c])

end ProfileAudit.Pattern
