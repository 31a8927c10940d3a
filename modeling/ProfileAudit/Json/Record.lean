import ProfileAudit.Json.Basic

/-!
Decoding records. A record is an object, in which no known member may be repeated and
unknown ones are ignored, or an array of its members in their order, in which the last
ones may be left out.
-/

namespace ProfileAudit.Json

/-- The members of a record that are there. -/
structure Record where
  members : List (String × Json)
  byPlace : Bool

/-- The members of these names. -/
def record? (names : List String) : Json → Option Record
  | object members =>
    let known := members.filter fun m => names.contains m.1
    if (known.map (·.1)).eraseDups.length = known.length then some ⟨known, false⟩ else none
  | array items =>
    if items.length ≤ names.length then some ⟨names.zip items, true⟩ else none
  | _ => none

namespace Record

variable {α : Type}

/-- A member that has to be there. -/
def required (r : Record) (name : String) (decode : Json → Option α) : Option α :=
  r.members.lookup name >>= decode

/-- A member with a value for its absence. -/
def withDefault (r : Record) (name : String) (absent : α) (decode : Json → Option α) : Option α :=
  match r.members.lookup name with
  | none => some absent
  | some j => decode j

/-- A member that may be absent from an object, but not from an array. -/
def mayLack (r : Record) (name : String) (decode : Json → Option α) : Option (Option α) :=
  match r.members.lookup name with
  | none => if r.byPlace then none else some none
  | some j => (decode j).map some

end Record

/-- A value or `null`. -/
def orNull? {α : Type} (decode : Json → Option α) : Json → Option (Option α)
  | null => some none
  | j => (decode j).map some

/-- A list of values. -/
def list? {α : Type} (decode : Json → Option α) : Json → Option (List α)
  | array items => items.mapM decode
  | _ => none

/-- A map from names to texts, in the order of the names; the last of equal names counts. -/
def texts? : Json → Option (List (String × String))
  | object members => do
    let pairs ← members.mapM fun m => m.2.string?.map (m.1, ·)
    let keys := (pairs.map (·.1)).eraseDups.mergeSort (fun a b => decide (a ≤ b))
    return keys.filterMap fun k => (pairs.reverse.lookup k).map (k, ·)
  | _ => none

end ProfileAudit.Json
