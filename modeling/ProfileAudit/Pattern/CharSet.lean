import ProfileAudit.Text.Property
import ProfileAudit.Text.LetterCase

/-!
Sets of characters as patterns describe them. A set is kept as it was described and
asked for membership, so that folding and negation need no normal form.
-/

namespace ProfileAudit

/-- A set of characters. -/
inductive CharSet where
  | empty
  | any
  | range (first last : Char)
  | points (ranges : Ranges)
  | complement (s : CharSet)
  | union (s t : CharSet)
  | intersection (s t : CharSet)
  | difference (s t : CharSet)
  | symmetricDifference (s t : CharSet)
  /-- All case variants of the members. -/
  | folded (s : CharSet)
  /-- All case variants of the members among the first 128 characters. -/
  | foldedPlain (s : CharSet)
  deriving Inhabited

namespace CharSet

/-- The set of one character. -/
def one (c : Char) : CharSet := .range c c

/-- The other case of a plain letter, and any other character itself. -/
def otherPlainCase (c : Char) : Char :=
  if 'a' ≤ c ∧ c ≤ 'z' then Char.ofNat (c.toNat - 32) else LetterCase.plainLower c

def mem : CharSet → Char → Bool
  | empty, _ => false
  | any, _ => true
  | range first last, c => decide (first ≤ c) && decide (c ≤ last)
  | points ranges, c => ranges.has c
  | complement s, c => !s.mem c
  | union s t, c => s.mem c || t.mem c
  | intersection s t, c => s.mem c && t.mem c
  | difference s t, c => s.mem c && !t.mem c
  | symmetricDifference s t, c => s.mem c != t.mem c
  | folded s, c => (LetterCase.variants c.toNat).any fun point => s.mem (Char.ofNat point)
  | foldedPlain s, c => s.mem c || s.mem (otherPlainCase c)

/-- The union of several sets. -/
def unions (sets : List CharSet) : CharSet := sets.foldl union empty

/-- Decimal digits: all of them, or the ten plain ones. -/
def digit (unicode : Bool) : CharSet :=
  if unicode then .points Category.decimalNumber else .range '0' '9'

/-- White space: all of it, or the plain one. -/
def space (unicode : Bool) : CharSet :=
  if unicode then .points Property.blank
  else unions [.range '\t' '\r', one ' ']

/-- Characters of words: all of them, or the plain ones. -/
def word (unicode : Bool) : CharSet :=
  if unicode then .points Property.word
  else unions [.range '0' '9', .range 'A' 'Z', one '_', .range 'a' 'z']

/-- The classes of plain characters that have a name. -/
def named? : String → Option CharSet
  | "alnum" => some (unions [.range '0' '9', .range 'A' 'Z', .range 'a' 'z'])
  | "alpha" => some (unions [.range 'A' 'Z', .range 'a' 'z'])
  | "ascii" => some (.range '\x00' '\x7f')
  | "blank" => some (unions [one '\t', one ' '])
  | "cntrl" => some (unions [.range '\x00' '\x1f', one '\x7f'])
  | "digit" => some (.range '0' '9')
  | "graph" => some (.range '!' '~')
  | "lower" => some (.range 'a' 'z')
  | "print" => some (.range ' ' '~')
  | "punct" => some (unions [.range '!' '/', .range ':' '@', .range '[' '\x60', .range '\x7b' '~'])
  | "space" => some (space false)
  | "upper" => some (.range 'A' 'Z')
  | "word" => some (word false)
  | "xdigit" => some (unions [.range '0' '9', .range 'A' 'F', .range 'a' 'f'])
  | _ => none

end CharSet

end ProfileAudit
