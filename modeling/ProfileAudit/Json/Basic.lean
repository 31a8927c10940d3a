import ProfileAudit.Decimal

/-!
JSON documents. The members of an object stay in written order, repeated ones included,
and a number keeps its digits; what a document means is decided where it is decoded.
-/

namespace ProfileAudit

/-- A JSON document. -/
inductive Json where
  | null
  | bool (b : Bool)
  | number (d : Decimal)
  | string (s : String)
  | array (items : List Json)
  | object (members : List (String × Json))
  deriving Inhabited

namespace Json

/-- The last member of that name. -/
def get? (key : String) : Json → Option Json
  | object members => members.reverse.lookup key
  | _ => none

/-- A member, or `null` where there is none. -/
def getD (key : String) (j : Json) : Json := (j.get? key).getD null

def isNull : Json → Bool
  | null => true
  | _ => false

def bool? : Json → Option Bool
  | bool b => some b
  | _ => none

def string? : Json → Option String
  | string s => some s
  | _ => none

def array? : Json → Option (List Json)
  | array items => some items
  | _ => none

def object? : Json → Option (List (String × Json))
  | object members => some members
  | _ => none

/-- A number that is not too large for a binary one. -/
def float? : Json → Option Float
  | number d => if d.toFloat.isInf then none else some d.toFloat
  | _ => none

/-- A number written without sign, point and exponent. -/
def natural? : Json → Option Nat
  | number ⟨false, n, 0⟩ => some n
  | _ => none

/-- No number in the document is too large for a binary one. -/
def inRange : Json → Bool
  | number d => !d.toFloat.isInf
  | array items => items' items
  | object members => members' members
  | _ => true
where
  items' : List Json → Bool
    | [] => true
    | j :: js => inRange j && items' js
  members' : List (String × Json) → Bool
    | [] => true
    | (_, j) :: js => inRange j && members' js

/-- How deep the document is nested. -/
def depth : Json → Nat
  | array items => depths items + 1
  | object members => depths' members + 1
  | _ => 0
where
  depths : List Json → Nat
    | [] => 0
    | j :: js => max (depth j) (depths js)
  depths' : List (String × Json) → Nat
    | [] => 0
    | (_, j) :: js => max (depth j) (depths' js)

/-- The last of the members with each name. -/
def lastMembers (members : List (String × Json)) : List (String × Json) :=
  members.foldr (fun m rest => if rest.any (·.1 == m.1) then rest else m :: rest) []

/-- The document without members that are repeated later. -/
def distinct : Json → Json
  | array items => array (items' items)
  | object members => object (lastMembers (members' members))
  | j => j
where
  items' : List Json → List Json
    | [] => []
    | j :: js => distinct j :: items' js
  members' : List (String × Json) → List (String × Json)
    | [] => []
    | (name, j) :: js => (name, distinct j) :: members' js

/-- A whole number. -/
def ofNat (n : Nat) : Json := number ⟨false, n, 0⟩

/-- A list of texts. -/
def ofStrings (items : List String) : Json := array (items.map string)

/-- A text, or `null` where there is none. -/
def ofOption (s : Option String) : Json := (s.map string).getD null

end Json

end ProfileAudit
