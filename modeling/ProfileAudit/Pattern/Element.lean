import ProfileAudit.Pattern.Flags
import ProfileAudit.Text.Hex
import ProfileAudit.Text.Script

/-!
The smallest elements of a pattern's text: literal characters, escapes, and the names
of properties. An element is read together with the text that follows it.
-/

namespace ProfileAudit.Pattern

/-- An element that is no group, class or repetition. -/
inductive Element where
  /-- A character; `byte` marks one written by two hexadecimal digits. -/
  | literal (c : Char) (byte : Bool)
  | set (s : CharSet)
  | look (place : Look)
  | dot

/-- The characters with a meaning of their own. -/
def isMeta (c : Char) : Bool := "\\.+*?()|[]\x7b\x7d^$#&-~".toList.contains c

/-- A backslash takes its meaning from every plain character that is neither a letter,
a digit nor an angle bracket. -/
def isEscapable (c : Char) : Bool :=
  isMeta c || (decide (c.toNat < 128) && !c.isAlphanum && c != '<' && c != '>')

/-! ## Hexadecimal escapes -/

/-- Reads exactly `n` hexadecimal digits. -/
def hexDigits (f : Flags) : Nat → Nat → List Char → Option (Nat × List Char)
  | 0, value, s => some (value, s)
  | n + 1, value, s =>
    match s with
    | [] => none
    | c :: rest => do hexDigits f n (value * 16 + (← Hex.digit? c)) (f.skip rest)

/-- Reads the characters up to a closing brace. `fuel` is at least their number. -/
def braced (f : Flags) : Nat → List Char → Option (List Char × List Char)
  | 0, _ => none
  | _, [] => none
  | fuel + 1, c :: rest =>
    if c = '\x7d' then some ([], rest)
    else do
      let (cs, rest) ← braced f fuel (f.skip rest)
      return (c :: cs, rest)

/-- Reads the part of a hexadecimal escape after its letter. -/
def hexEscape (f : Flags) (digits : Nat) (s : List Char) : Option (Element × List Char) := do
  match f.skip s with
  | '\x7b' :: rest =>
    let (cs, rest) ← braced f rest.length.succ (f.skip rest)
    if cs.isEmpty then none
    return (.literal (← Hex.character? (← Hex.value? cs)) false, f.skip rest)
  | s =>
    let (value, rest) ← hexDigits f digits 0 s
    return (.literal (← Hex.character? value) (digits == 2), rest)

/-! ## Properties by name -/

/-- A name without blanks, hyphens, underscores, case and a leading `is`. -/
def looseName (name : String) : String :=
  let plain := name.toList.map LetterCase.plainLower
  let isFirst := plain.take 2 == ['i', 's']
  let kept := (if isFirst then plain.drop 2 else plain).filter fun c =>
    decide (c.toNat < 128) && c != ' ' && c != '_' && c != '-'
  if isFirst && kept == ['c'] then "isc" else String.ofList kept

def category? (name : String) : Option CharSet :=
  match name with
  | "any" => some .any
  | "ascii" => some (.range '\x00' '\x7f')
  | "assigned" => some (.points Category.assigned)
  | "cn" | "unassigned" => some (.complement (.points Category.assigned))
  | "c" | "other" => some (.union (.points (.union [Category.control, Category.format,
      Category.privateUse])) (.complement (.points Category.assigned)))
  | _ => (Category.find? name).map .points

def script? (name : String) : Option CharSet := (Script.find? name).map .points

/-- The set of a property given by one name. Three short names of categories go before
the properties of the same name. -/
def property? (name : String) : Option CharSet :=
  let name := looseName name
  let binary :=
    if ["cf", "sc", "lc"].contains name then none else (Property.find? name).map .points
  binary.or ((category? name).or (script? name))

/-- The set of a property given by a name and a value. -/
def propertyValue? (name value : String) : Option CharSet :=
  match looseName name with
  | "gc" | "generalcategory" => category? (looseName value)
  | "sc" | "script" | "scx" | "scriptextensions" => script? (looseName value)
  | _ => none

/-- A text cut at the first place where `mark` stands. -/
def cutAt (mark : List Char) : List Char → Option (List Char × List Char)
  | [] => none
  | c :: s =>
    if mark.isPrefixOf (c :: s) then some ([], (c :: s).drop mark.length)
    else (cutAt mark s).map fun (a, b) => (c :: a, b)

/-- The set that the text between the braces of a property names, and whether it is to
be negated. -/
def namedSet? (name : List Char) : Option (CharSet × Bool) :=
  let valued := fun (cut : List Char × List Char) =>
    propertyValue? (String.ofList cut.1) (String.ofList cut.2)
  match cutAt ['!', '='] name with
  | some cut => (valued cut).map (·, true)
  | none =>
    match (cutAt [':'] name).or (cutAt ['='] name) with
    | some cut => (valued cut).map (·, false)
    | none => (property? (String.ofList name)).map (·, false)

/-- A set as it stands in a pattern: with all cases of its members where the flag asks
for it, and then negated. -/
def settle (f : Flags) (negated : Bool) (s : CharSet) : CharSet :=
  let s := if f.anyCase then (if f.unicode then .folded s else .foldedPlain s) else s
  if negated then .complement s else s

/-- Reads a property after `p` or `P`; properties know all characters. -/
def propertyEscape (f : Flags) (negated : Bool) (s : List Char) :
    Option (Element × List Char) := do
  let (found, rest) ← match f.skip s with
    | [] => none
    | '\\' :: _ => none
    | '\x7b' :: rest => do
      let (name, rest) ← braced f rest.length.succ (f.skip rest)
      pure (namedSet? name, rest)
    | c :: rest => pure (((property? c.toString).map (·, false)), f.skip rest)
  let (set, flipped) ← found
  if f.unicode then some (.set (settle f (negated != flipped) set), rest) else none

/-! ## Escapes -/

/-- The characters of a name for a kind of word boundary. -/
def isBoundaryChar (c : Char) : Bool := c.isAlpha || c == '-'

/-- Reads the name of a kind of word boundary up to the closing brace. -/
def boundaryName (f : Flags) : Nat → List Char → Option (List Char × List Char)
  | 0, _ => none
  | _, [] => none
  | fuel + 1, c :: rest =>
    if c = '\x7d' then some ([], rest)
    else if isBoundaryChar c then do
      let (cs, rest) ← boundaryName f fuel (f.skip rest)
      return (c :: cs, rest)
    else none

/-- Reads what follows `\b`: a kind of boundary in braces, unless the braces hold the
numbers of a repetition. -/
def boundaryEscape (f : Flags) (s : List Char) : Option (Element × List Char) :=
  let plain := some (.look (.boundary f.unicode), s)
  match s with
  | '\x7b' :: rest =>
    match f.skip rest with
    | [] => none
    | c :: more =>
      if isBoundaryChar c then do
        let (name, rest) ← boundaryName f more.length.succ.succ (c :: more)
        match String.ofList name with
        | "start" => some (.look (.wordStart f.unicode), rest)
        | "end" => some (.look (.wordEnd f.unicode), rest)
        | "start-half" => some (.look (.wordStartHalf f.unicode), rest)
        | "end-half" => some (.look (.wordEndHalf f.unicode), rest)
        | _ => none
      else plain
  | _ => plain

/-- A named class; without the flag for all characters it must hold plain ones only. -/
def classEscape (f : Flags) (negated : Bool) (s : CharSet) (rest : List Char) :
    Option (Element × List Char) :=
  if negated then
    if f.unicode then some (.set (.complement s), rest) else none
  else some (.set s, rest)

/-- Reads an element after its backslash. -/
def escape (f : Flags) : List Char → Option (Element × List Char)
  | [] => none
  | c :: s =>
    let literal := fun (c : Char) => some (Element.literal c false, s)
    let look := fun (place : Look) => some (Element.look place, s)
    match c with
    | 'x' => hexEscape f 2 s
    | 'u' => hexEscape f 4 s
    | 'U' => hexEscape f 8 s
    | 'p' => propertyEscape f false s
    | 'P' => propertyEscape f true s
    | 'd' => classEscape f false (.digit f.unicode) s
    | 'D' => classEscape f true (.digit f.unicode) s
    | 's' => classEscape f false (.space f.unicode) s
    | 'S' => classEscape f true (.space f.unicode) s
    | 'w' => classEscape f false (.word f.unicode) s
    | 'W' => classEscape f true (.word f.unicode) s
    | 'a' => literal '\x07'
    | 'f' => literal '\x0c'
    | 't' => literal '\t'
    | 'n' => literal '\n'
    | 'r' => literal '\r'
    | 'v' => literal '\x0b'
    | 'A' => look .start
    | 'z' => look .finish
    | 'b' => boundaryEscape f s
    | 'B' => look (.noBoundary f.unicode)
    | '<' => look (.wordStart f.unicode)
    | '>' => look (.wordEnd f.unicode)
    | c => if isEscapable c then literal c else none

/-- A literal stands for itself, in all its cases where the flag asks for it. A byte
beyond the first 128 is no character. -/
def literalSet? (f : Flags) (c : Char) (byte : Bool) : Option CharSet :=
  if f.unicode then some (settle f false (.one c))
  else if byte && decide (c.toNat ≥ 128) then none
  else if c.toNat < 128 then some (settle f false (.one c))
  else some (.one c)

/-- The dot: every character but the line breaks. -/
def dotSet? (f : Flags) : Option CharSet :=
  if !f.unicode then none
  else if f.dotAll then some .any
  else if f.crlf then some (.complement (.union (.one '\n') (.one '\r')))
  else some (.complement (.one '\n'))

/-- What an element matches. -/
def Element.pattern? (f : Flags) : Element → Option Pattern
  | .literal c byte => (literalSet? f c byte).map .one
  | .set s => some (.one s)
  | .look place => some (.look place)
  | .dot => (dotSet? f).map .one

end ProfileAudit.Pattern
