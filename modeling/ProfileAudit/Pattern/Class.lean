import ProfileAudit.Pattern.Element

/-!
Classes in brackets. A class is a union of items; two classes are joined by the
operators `&&`, `--` and `~~`, which group to the left, and classes nest.
-/

namespace ProfileAudit.Pattern

/-- A set under construction, with the depth of its nesting. -/
structure Node where
  set : CharSet
  depth : Nat
  deriving Inhabited

namespace Node

/-- The union of the items read so far, the last one first. -/
def ofItems : List Node → Node
  | [] => ⟨.empty, 0⟩
  | [n] => n
  | items => ⟨.unions (items.map (·.set)), 1 + (items.map (·.depth)).foldl max 0⟩

end Node

/-- The operators between classes. -/
inductive ClassOp where
  | intersection | difference | symmetricDifference

def ClassOp.apply (f : Flags) (op : ClassOp) (left right : Node) : Node :=
  let l := settle f false left.set
  let r := settle f false right.set
  let set := match op with
    | intersection => CharSet.intersection l r
    | difference => .difference l r
    | symmetricDifference => .symmetricDifference l r
  ⟨set, 1 + max left.depth right.depth⟩

/-- A class whose closing bracket is still to come: its negation, the operand and the
operator before the present items, and those items, the last one first. -/
structure OpenClass where
  negated : Bool
  pending : Option (Node × ClassOp) := none
  items : List Node := []

namespace OpenClass

def push (c : OpenClass) (n : Node) : OpenClass := { c with items := n :: c.items }

/-- The operand that the present items close. -/
def operand (f : Flags) (c : OpenClass) : Node :=
  let right := Node.ofItems c.items
  match c.pending with
  | none => right
  | some (left, op) => op.apply f left right

def operator (f : Flags) (c : OpenClass) (op : ClassOp) : OpenClass :=
  { c with pending := some (c.operand f, op), items := [] }

/-- The finished class. Without the flag for all characters a negated class would hold
bytes that are no characters. -/
def close? (f : Flags) (c : OpenClass) : Option Node :=
  let n := c.operand f
  if c.negated && !f.unicode then none
  else some ⟨settle f c.negated n.set, 1 + n.depth⟩

end OpenClass

/-- Takes literal minus signs. -/
def leadingDashes (f : Flags) : Nat → OpenClass → List Char → OpenClass × List Char
  | fuel + 1, c, '-' :: s => leadingDashes f fuel (c.push ⟨.one '-', 0⟩) (f.skip s)
  | _, c, s => (c, s)

/-- Reads the start of a class after its bracket: a circumflex, minus signs, or a
closing bracket that stands for itself. -/
def openClass (f : Flags) (s : List Char) : OpenClass × List Char :=
  let s := f.skip s
  let (negated, s) := match s with
    | '^' :: s => (true, f.skip s)
    | s => (false, s)
  let (c, s) := leadingDashes f s.length { negated } s
  match c.items, s with
  | [], ']' :: s => (c.push ⟨.one ']', 0⟩, f.skip s)
  | _, s => (c, s)

/-- Reads the name of a class of plain characters after `[:`, with its closing `:]`. -/
def plainClass? (f : Flags) (s : List Char) : Option (Node × List Char) := do
  let (negated, s) := match s with
    | '^' :: s => (true, s)
    | s => (false, s)
  let (name, rest) ← cutAt [':'] s
  match rest with
  | ']' :: rest =>
    let set ← CharSet.named? (String.ofList name)
    return (⟨settle f negated set, 0⟩, rest)
  | _ => none

/-- A literal as an item of a class; without the flag for all characters it is plain. -/
def classLiteral? (f : Flags) (c : Char) : Option Char :=
  if f.unicode || decide (c.toNat < 128) then some c else none

/-- Reads one character or escape inside a class. -/
def classElement (f : Flags) : List Char → Option (Element × List Char)
  | [] => none
  | '\\' :: s => escape f s
  | c :: s => some (.literal c false, s)

/-- Reads one item of a class: a character, a range, or an escape for a set. -/
def classItem (f : Flags) (s : List Char) : Option (Node × List Char) := do
  let (first, rest) ← classElement f s
  match f.skip rest with
  | [] => none
  | '-' :: after =>
    let next := f.peek after
    if next = some ']' ∨ next = some '-' then single first ('-' :: after)
    else
      let (last, rest) ← classElement f (f.skip after)
      match first, last with
      | .literal a _, .literal b _ =>
        let a ← classLiteral? f a
        let b ← classLiteral? f b
        if a ≤ b then some (⟨.range a b, 0⟩, rest) else none
      | _, _ => none
  | rest => single first rest
where
  single (e : Element) (rest : List Char) : Option (Node × List Char) :=
    match e with
    | .literal c _ => do some (⟨.one (← classLiteral? f c), 0⟩, rest)
    | .set s => some (⟨s, 0⟩, rest)
    | _ => none

/-- A class of plain characters inside a class may be negated only with the flag for
all characters. -/
def nestedPlain? (f : Flags) (s : List Char) : Option (Option (Node × List Char)) :=
  match s with
  | ':' :: rest =>
    match plainClass? f rest with
    | none => some none
    | some found =>
      if !f.unicode && rest.head? = some '^' then none else some (some found)
  | _ => some none

/-- Reads to the end of the outermost class: `c` is the innermost class that is open
and `outer` are those around it. -/
def classBody (f : Flags) (c : OpenClass) (outer : List OpenClass) (s : List Char) :
    Option (Node × List Char) :=
  match f.skip s with
  | [] => none
  | '[' :: rest =>
    match nestedPlain? f rest with
    | none => none
    | some (some (n, after)) =>
      if after.length < s.length then classBody f (c.push n) outer after else none
    | some none =>
      let (inner, after) := openClass f rest
      if after.length < s.length then classBody f inner (c :: outer) after else none
  | ']' :: rest =>
    match c.close? f, outer with
    | none, _ => none
    | some n, [] => some (n, rest)
    | some n, o :: outer =>
      if rest.length < s.length then classBody f (o.push n) outer rest else none
  | '&' :: '&' :: rest =>
    if rest.length < s.length then classBody f (c.operator f .intersection) outer rest else none
  | '-' :: '-' :: rest =>
    if rest.length < s.length then classBody f (c.operator f .difference) outer rest else none
  | '~' :: '~' :: rest =>
    if rest.length < s.length then
      classBody f (c.operator f .symmetricDifference) outer rest
    else none
  | t =>
    match classItem f t with
    | none => none
    | some (n, after) =>
      if after.length < s.length then classBody f (c.push n) outer after else none
termination_by s.length

/-- Reads a class after its opening bracket. -/
def bracketed (f : Flags) (s : List Char) : Option (Node × List Char) :=
  let (c, rest) := openClass f s
  classBody f c [] rest

end ProfileAudit.Pattern
