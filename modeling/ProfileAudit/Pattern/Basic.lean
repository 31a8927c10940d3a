import ProfileAudit.Pattern.CharSet

/-!
Patterns and what they match. A pattern spans a stretch of a text; it is found in a
text if it spans some stretch of it. The search carries the set of all positions that
can be reached, so its cost does not depend on how the pattern is written.
-/

namespace ProfileAudit

/-- A condition on the place between two characters. -/
inductive Look where
  | start
  | finish
  /-- At the start of a line; with `crlf`, a carriage return ends a line too. -/
  | lineStart (crlf : Bool)
  | lineEnd (crlf : Bool)
  /-- One side is inside a word, the other is not. -/
  | boundary (unicode : Bool)
  | noBoundary (unicode : Bool)
  | wordStart (unicode : Bool)
  | wordEnd (unicode : Bool)
  /-- No word before this place. -/
  | wordStartHalf (unicode : Bool)
  /-- No word after this place. -/
  | wordEndHalf (unicode : Bool)
  deriving DecidableEq, Inhabited

/-- A pattern over texts. -/
inductive Pattern where
  /-- The empty stretch. -/
  | nothing
  /-- One character of a set. -/
  | one (set : CharSet)
  | look (place : Look)
  | seq (p q : Pattern)
  | either (p q : Pattern)
  /-- At least `least` and, unless there is no bound, at most `most` stretches of `p`. -/
  | times (p : Pattern) (least : Nat) (most : Option Nat)
  deriving Inhabited

namespace Look

/-- The condition, given the characters on both sides of the place. -/
def holds (before after : Option Char) : Look → Bool
  | start => before.isNone
  | finish => after.isNone
  | lineStart false => before.all (· == '\n')
  | lineStart true => before.all fun c => c == '\n' || (c == '\r' && after != some '\n')
  | lineEnd false => after.all (· == '\n')
  | lineEnd true => after.all fun c => c == '\r' || (c == '\n' && before != some '\r')
  | boundary u => inWord u before != inWord u after
  | noBoundary u => inWord u before == inWord u after
  | wordStart u => !inWord u before && inWord u after
  | wordEnd u => inWord u before && !inWord u after
  | wordStartHalf u => !inWord u before
  | wordEndHalf u => !inWord u after
where
  inWord (unicode : Bool) (c : Option Char) : Bool := c.any (CharSet.word unicode).mem

/-- The condition at a position of a text. -/
def holdsAt (text : Array Char) (i : Nat) (l : Look) : Bool :=
  l.holds (if i = 0 then none else text[i - 1]?) text[i]?

end Look

/-! ## Sets of positions -/

namespace Positions

/-- All positions of two increasing lists, in increasing order and each once. -/
def merge : List Nat → List Nat → List Nat
  | [], t => t
  | s, [] => s
  | i :: s, j :: t =>
    if i < j then i :: merge s (j :: t)
    else if j < i then j :: merge (i :: s) t
    else i :: merge s t
termination_by s t => s.length + t.length

theorem mem_merge {k : Nat} (s t : List Nat) : k ∈ merge s t ↔ k ∈ s ∨ k ∈ t := by
  fun_induction merge s t with
  | case1 t => simp
  | case2 s => simp
  | case3 i s j t h ih => simp [ih, or_assoc]
  | case4 i s j t h h' ih => simp [ih]; grind
  | case5 i s j t h h' ih =>
    have : i = j := by omega
    subst this
    simp [ih]; grind

/-- What `n` rounds of `step` reach; a round that changes nothing is the last. -/
def iterate (step : List Nat → List Nat) : Nat → List Nat → List Nat
  | 0, s => s
  | n + 1, s => if step s = s then s else iterate step n (step s)

/-- What at most `n` rounds of `step` reach. -/
def reachable (step : List Nat → List Nat) : Nat → List Nat → List Nat
  | 0, s => s
  | n + 1, s => if merge s (step s) = s then s else reachable step n (merge s (step s))

end Positions

/-! ## Matching -/

namespace Pattern

/-- The ends of the stretches of `text` that the pattern spans from the positions
given. No repetition needs more rounds than the text has positions. -/
def ends (text : Array Char) : Pattern → List Nat → List Nat
  | nothing, s => s
  | one set, s => s.filterMap fun i =>
    match text[i]? with
    | some c => if set.mem c then some (i + 1) else none
    | none => none
  | look place, s => s.filter fun i => place.holdsAt text i
  | seq p q, s => q.ends text (p.ends text s)
  | either p q, s => Positions.merge (p.ends text s) (q.ends text s)
  | times p least most, s =>
    Positions.reachable (p.ends text) ((most.map (· - least)).getD (text.size + 1))
      (Positions.iterate (p.ends text) least s)

/-- The pattern spans some stretch of the text. -/
def isFoundIn (p : Pattern) (text : String) : Bool :=
  let chars := text.toList.toArray
  !(p.ends chars (List.range (chars.size + 1))).isEmpty

end Pattern

end ProfileAudit
