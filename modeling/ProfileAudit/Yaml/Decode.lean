import ProfileAudit.Decimal
import ProfileAudit.Yaml.Node

/-!
Decoding a document: records, lists and texts, and what a plain scalar stands for. An
absent document, and an empty plain scalar where a record or a list is due, are empty.
-/

namespace ProfileAudit.Yaml

/-! ## Plain values -/

def isNull (s : String) : Bool := s ∈ ["null", "Null", "NULL", "~"]

def bool? : String → Option Bool
  | "true" | "True" | "TRUE" => some true
  | "false" | "False" | "FALSE" => some false
  | _ => none

/-- The value of a run of digits in some base. -/
def digits? (base : Nat) (cs : List Char) : Option Nat :=
  if cs.isEmpty then none else Hex.inBase? base cs

/-- Digits with a mark of their base, or decimal ones. -/
def based? : List Char → Option Nat
  | '0' :: 'x' :: cs => digits? 16 cs
  | '0' :: 'o' :: cs => digits? 8 cs
  | '0' :: 'b' :: cs => digits? 2 cs
  | cs => digits? 10 cs

/-- An integer with an optional sign. -/
def int? (s : String) : Option Int :=
  match s.toList with
  | '+' :: cs => (based? cs).map Int.ofNat
  | '-' :: cs => (based? cs).map fun n => -Int.ofNat n
  | cs => (based? cs).map Int.ofNat

/-- Several digits of which the first one is zero, which are no number. -/
def isPadded (s : String) : Bool :=
  let cs := (Decimal.sign s.toList).2
  decide (1 < cs.length) && cs.head? == some '0' && cs.all Char.isDigit

/-- A number with a point, an exponent or a word for infinity or for no number. -/
def float? (s : String) : Option Float :=
  if s ∈ [".inf", ".Inf", ".INF", "+.inf", "+.Inf", "+.INF"] then some (1 / 0)
  else if s ∈ ["-.inf", "-.Inf", "-.INF"] then some (-1 / 0)
  else if s ∈ [".nan", ".NaN", ".NAN"] then some (0 / 0)
  else
    let (negative, cs) := Decimal.sign s.toList
    match (Decimal.unsigned? cs).map fun d => { d with negative }.toFloat with
    | some x => if x.isFinite then some x else none
    | none => none

/-- What a plain scalar stands for. -/
inductive Plain where
  | null
  | bool (b : Bool)
  | int (n : Int)
  | float (x : Float)
  | text (s : String)

/-- What a text stands for as a plain scalar. -/
def Plain.ofText (s : String) : Plain :=
  if s.isEmpty || isNull s then null
  else match bool? s, int? s, float? s with
  | some b, _, _ => bool b
  | none, n, x =>
    if isPadded s then text s
    else match n, x with
    | some n, x =>
      if -Int.pow 2 127 ≤ n ∧ n < Int.pow 2 128 then int n else (x.map float).getD (text s)
    | none, some x => float x
    | none, none => text s

/-- An integer that fits into 64 bits, as it is written. -/
def intText? (n : Int) : Option String :=
  if -Int.pow 2 63 ≤ n ∧ n < Int.pow 2 64 then some (toString n) else none

/-- A number as it is written. -/
def floatText (x : Float) : String :=
  if x.isNaN then ".nan"
  else if x.isInf then (if x < 0 then "-.inf" else ".inf")
  else Decimal.ofFloat x

/-- The text of a value; there is none for `null` and for integers that are too large. -/
def Plain.text? : Plain → Option String
  | null => none
  | bool b => some (if b then "true" else "false")
  | int n => intText? n
  | float x => some (floatText x)
  | text s => some s

/-- The names of the tags of plain values. -/
def coreTag (name : String) : String := "tag:yaml.org,2002:" ++ name

/-- The text of a scalar that may also be a number or a truth value. -/
def Scalar.valueText? (s : Scalar) : Option String :=
  match s.tag with
  | none => if s.plain then (Plain.ofText s.text).text? else some s.text
  | some tag =>
    if tag = coreTag "bool" then (bool? s.text).map fun b => if b then "true" else "false"
    else if tag = coreTag "int" then if isPadded s.text then none else int? s.text >>= intText?
    else if tag = coreTag "float" then (float? s.text).map floatText
    else if tag = coreTag "null" || tag.startsWith "!" then none
    else some s.text

/-! ## Nodes -/

variable {α : Type}

/-- The text of a scalar, whatever it stands for. -/
def Document.text? (d : Document) (n : Node) : Option String :=
  match d.follow n with
  | .scalar s => some s.text
  | _ => none

/-- The text of a scalar, or of a number or a truth value as it is written. -/
def Document.valueText? (d : Document) (n : Node) : Option String :=
  match d.follow n with
  | .scalar s => s.valueText?
  | _ => none

/-- A value, or nothing where a plain scalar is empty or `null`. -/
def Document.optional? (d : Document) (decode : Node → Option α) (n : Node) : Option (Option α) :=
  match d.follow n with
  | .scalar s =>
    if !s.plain then (decode n).map some
    else if s.tag == some (coreTag "null") then if isNull s.text then some none else none
    else if s.tag.isNone && (s.text.isEmpty || isNull s.text) then some none
    else (decode n).map some
  | _ => (decode n).map some

/-- A plain scalar without text. -/
def Node.isBlank : Node → Bool
  | .scalar s => s.plain && s.text.isEmpty
  | _ => false

/-- A list of values. -/
def Document.list? (d : Document) (decode : Node → Option α) (n : Node) : Option (List α) :=
  match d.follow n with
  | .sequence items => items.mapM decode
  | m => if m.isBlank then some [] else none

/-- The members of a record that are known, each of them at most once. All keys are
scalars; with `closed`, there are no unknown ones. -/
def Document.members? (d : Document) (closed : Bool) (names : List String) (n : Node) :
    Option (List (String × Node)) :=
  match d.follow n with
  | .mapping entries => do
    let members ← entries.mapM fun e => do return (← d.text? e.1, e.2)
    let known := members.filter fun m => names.contains m.1
    if closed && known.length != members.length then none
    if (known.map (·.1)).eraseDups.length = known.length then some known else none
  | m => if m.isBlank then some [] else none

/-- A member of a record, with a value for its absence. -/
def member {α : Type} (members : List (String × Node)) (name : String) (absent : α)
    (decode : Node → Option α) : Option α :=
  match members.lookup name with
  | none => some absent
  | some n => decode n

end ProfileAudit.Yaml
