import ProfileAudit.Yaml.Layout

/-!
The document of a text as a tree. An alias is kept as the number of its anchor: an anchor
has the number of different names before it, and of the nodes with one number the last
one counts.
-/

namespace ProfileAudit.Yaml

/-- A scalar: its text, whether it is plain, and its tag. -/
structure Scalar where
  text : String
  plain : Bool
  tag : Option String := none
  deriving DecidableEq, Inhabited

/-- A node of a document. -/
inductive Node where
  | scalar (s : Scalar)
  | sequence (items : List Node)
  | mapping (entries : List (Node × Node))
  | alias (number : Nat)
  deriving Inhabited

/-- A plain scalar without text. -/
def Node.blank : Node := .scalar ⟨"", true, none⟩

/-- What has been read of a document. The numbers of the anchors stand in their order,
the last one first, and each anchored node stands beside its place in that order. -/
structure Composition where
  tokens : List Token
  tags : List (String × String) := []
  names : List (String × Nat) := []
  numbers : List Nat := []
  anchored : List (Nat × Node) := []

/-- Reading of a part of a document. -/
abbrev Compose := StateT Composition Option

namespace Compose

/-- The next token. -/
def peek : Compose Token := do
  match (← get).tokens with
  | t :: _ => return t
  | [] => failure

def skip : Compose Unit := modify fun c => { c with tokens := c.tokens.tail }

/-- Whether the next token is one of these. -/
def sees (ts : List Token) : Compose Bool := return ts.contains (← peek)

/-- Skips a token if it is the next one, and says so. -/
def take (t : Token) : Compose Bool := do
  if ← sees [t] then
    skip
    return true
  else return false

/-- Numbers a new anchor; its place in the order is returned. -/
def name (anchor : String) : Compose Nat := do
  let c ← get
  let number := c.names.length
  let names := (anchor, number) :: c.names.filter (·.1 != anchor)
  set { c with names, numbers := number :: c.numbers }
  return c.numbers.length

/-- The whole name of a tag. -/
def resolve (handle suffix : String) : Compose String := do
  if handle = "" then return suffix
  match (← get).tags.lookup handle with
  | some start => return start ++ suffix
  | none => failure

/-- Reads the anchor and the tag before a node, in any order. -/
def properties : Compose (Option Nat × Option String) := do
  let anchor : Compose (Option Nat) := do
    match ← peek with
    | .anchor a => do
      skip
      return some (← name a)
    | _ => return none
  let tag : Compose (Option String) := do
    match ← peek with
    | .tag handle suffix => do
      skip
      return some (← resolve handle suffix)
    | _ => return none
  match ← anchor with
  | some a => return (some a, ← tag)
  | none => do
    let t ← tag
    if t.isSome then return (← anchor, t) else return (none, none)

/-! ## Nodes

In each reader `fuel` bounds the number of readers that it goes through, and the token
that opens a collection has been skipped. -/

mutual

/-- Reads a node. `block` says whether it may be a block, and `flat` whether it may be a
sequence without indentation. -/
def node (block flat : Bool) : Nat → Compose Node
  | 0 => failure
  | fuel + 1 => do
    if let .alias a ← peek then
      skip
      match (← get).names.lookup a with
      | some number => return .alias number
      | none => failure
    let (anchor, tag) ← properties
    let n ← content block flat (anchor.isSome || tag.isSome) tag fuel
    if let some place := anchor then
      modify fun c => { c with anchored := (place, n) :: c.anchored }
    return n

/-- Reads a node after its anchor and tag. -/
def content (block flat named : Bool) (tag : Option String) : Nat → Compose Node
  | 0 => failure
  | fuel + 1 => do
    match ← peek with
    | .scalar text style => do
      skip
      return .scalar ⟨text, style == .plain, if tag == some "!" then none else tag⟩
    | .flowSequence => do
      skip
      return .sequence (← flowItems true fuel)
    | .flowMapping => do
      skip
      return .mapping (← flowEntries true fuel)
    | t =>
      if flat && t == .blockEntry then return .sequence (← flatItems fuel)
      else if block && t == .blockSequence then do
        skip
        return .sequence (← blockItems fuel)
      else if block && t == .blockMapping then do
        skip
        return .mapping (← blockEntries fuel)
      else if named then return .scalar ⟨"", true, tag⟩
      else failure

/-- Reads the items of a block. -/
def blockItems : Nat → Compose (List Node)
  | 0 => failure
  | fuel + 1 => do
    if ← take .blockEnd then return []
    else if ← take .blockEntry then
      let n ← nodeUnless [.blockEntry, .blockEnd] true false fuel
      return n :: (← blockItems fuel)
    else failure

/-- Reads items that are not indented. -/
def flatItems : Nat → Compose (List Node)
  | 0 => failure
  | fuel + 1 => do
    if ← take .blockEntry then
      let n ← nodeUnless [.blockEntry, .key, .value, .blockEnd] true false fuel
      return n :: (← flatItems fuel)
    else return []

/-- Reads the keys and values of a block. -/
def blockEntries : Nat → Compose (List (Node × Node))
  | 0 => failure
  | fuel + 1 => do
    if ← take .blockEnd then return []
    else if ← take .key then
      let ends := [.key, .value, .blockEnd]
      let k ← nodeUnless ends true true fuel
      let v ← if ← take .value then nodeUnless ends true true fuel else pure .blank
      return (k, v) :: (← blockEntries fuel)
    else failure

/-- Reads the items between brackets. An item may be a pair, which is a mapping. -/
def flowItems (first : Bool) : Nat → Compose (List Node)
  | 0 => failure
  | fuel + 1 => do
    if ← take .flowSequenceEnd then return []
    if !first then
      if !(← take .flowEntry) then failure
    if ← take .flowSequenceEnd then return []
    let n ← if ← take .key then pair fuel else node false false fuel
    return n :: (← flowItems false fuel)

/-- Reads a pair between brackets after the mark of its key. -/
def pair : Nat → Compose Node
  | 0 => failure
  | fuel + 1 => do
    let k ←
      if ← sees [.value, .flowEntry, .flowSequenceEnd] then do
        skip
        pure .blank
      else node false false fuel
    let v ←
      if ← take .value then nodeUnless [.flowEntry, .flowSequenceEnd] false false fuel
      else pure .blank
    return .mapping [(k, v)]

/-- Reads the keys and values between braces. -/
def flowEntries (first : Bool) : Nat → Compose (List (Node × Node))
  | 0 => failure
  | fuel + 1 => do
    if ← take .flowMappingEnd then return []
    if !first then
      if !(← take .flowEntry) then failure
    if ← take .flowMappingEnd then return []
    let ends := [.flowEntry, .flowMappingEnd]
    let entry ←
      if ← take .key then do
        let k ← nodeUnless (.value :: ends) false false fuel
        let v ← if ← take .value then nodeUnless ends false false fuel else pure .blank
        pure (k, v)
      else do
        let k ← node false false fuel
        pure (k, .blank)
    return entry :: (← flowEntries false fuel)

/-- Reads a node, which is blank where one of these tokens stands. -/
def nodeUnless (ends : List Token) (block flat : Bool) : Nat → Compose Node
  | 0 => failure
  | fuel + 1 => do
    if ← sees ends then return .blank else node block flat fuel

end

/-! ## Documents -/

/-- Reads the directives of a document: at most one version, and no handle twice. -/
def directives : Nat → Bool → List (String × String) → Compose (List (String × String))
  | 0, _, _ => failure
  | fuel + 1, versioned, tags => do
    match ← peek with
    | .version major minor => do
      if versioned || major != 1 || !(minor == 1 || minor == 2) then failure
      skip
      directives fuel true tags
    | .tagDirective handle start => do
      if (tags.lookup handle).isSome then failure
      skip
      directives fuel versioned ((handle, start) :: tags)
    | _ => return tags

/-- Reads the only document, if there is one. -/
def document : Compose (Option Node) := do
  let fuel := 4 * (← get).tokens.length + 4
  if ← take .streamEnd then return none
  let given := (← get).tokens.length
  let tags ← directives fuel false []
  let explicit := (← get).tokens.length != given || (← sees [.documentStart])
  modify fun c => { c with tags := tags ++ [("!", "!"), ("!!", "tag:yaml.org,2002:")] }
  let root ←
    if explicit then do
      if !(← take .documentStart) then failure
      match ← peek with
      | .version .. | .tagDirective .. | .documentStart | .documentEnd | .streamEnd => pure .blank
      | _ => node true false fuel
    else node true false fuel
  modify fun c => { c with tokens := c.tokens.dropWhile (· == .documentEnd) }
  if ← take .streamEnd then return some root else failure

end Compose

/-- A document, with what its aliases stand for. -/
structure Document where
  root : Option Node
  anchors : List (Nat × Node)

namespace Document

/-- The document of a text that holds at most one. -/
def ofText? (text : String) : Option Document := do
  let tokens ← Token.ofText? text
  let (root, c) ← Compose.document.run { tokens }
  let count := c.numbers.length
  let anchors := c.numbers.zipIdx.filterMap fun (number, i) =>
    (c.anchored.lookup (count - 1 - i)).map (number, ·)
  return { root, anchors }

/-- The node that an alias stands for; other nodes stand for themselves. -/
def follow (d : Document) : Node → Node
  | .alias number => (d.anchors.lookup number).getD .blank
  | n => n

end Document

end ProfileAudit.Yaml
