import ProfileAudit.Query.Fault
import ProfileAudit.Pattern.Reader

/-!
Label matchers, the conditions between the braces of a selector. Matchers stand in a
plain list; an `or` moves that list into the first of several alternative groups.
-/

namespace ProfileAudit.Query

/-- How a label is compared with a value. -/
inductive MatchOp where
  | equal
  | notEqual
  /-- The value of the label is spanned by the pattern. -/
  | pattern (p : Pattern)
  | notPattern (p : Pattern)
  deriving Inhabited

namespace MatchOp

def text : MatchOp → String
  | equal => "="
  | notEqual => "!="
  | pattern _ => "=~"
  | notPattern _ => "!~"

def isEqual : MatchOp → Bool
  | equal => true
  | _ => false

end MatchOp

/-- One condition on a label. -/
structure Matcher where
  label : String
  op : MatchOp
  value : String
  deriving Inhabited

namespace Matcher

/-- The condition holds of a label with this value. -/
def holds (m : Matcher) (value : String) : Bool :=
  match m.op with
  | .equal => value == m.value
  | .notEqual => value != m.value
  | .pattern p => p.isFoundIn value
  | .notPattern p => !p.isFoundIn value

/-! ## Patterns of matchers -/

/-- Reads on after an opening brace while a repetition is possible: whether it is one,
what was read, and what follows. `seen` is what was read so far, the last first. -/
def repetition (seen : List Char) (comma : Bool) : List Char → Bool × List Char × List Char
  | [] => (false, seen.reverse, [])
  | c :: s =>
    let stop := fun (is : Bool) => (is, (c :: seen).reverse, s)
    if c = ',' then
      if comma || seen.isEmpty then stop false else repetition (c :: seen) true s
    else if c = '\x7d' then stop (!seen.isEmpty)
    else if c.isDigit then repetition (c :: seen) comma s
    else stop false

/-- Writes a backslash before every brace that opens no repetition. `fuel` is at least
the length of the text. -/
def escapeBraces : Nat → List Char → List Char
  | 0, _ => []
  | _, [] => []
  | fuel + 1, c :: s =>
    if c = '\\' then
      match s with
      | [] => []
      | d :: s => c :: d :: escapeBraces fuel s
    else if c = '\x7b' then
      let (is, read, rest) := repetition [] false s
      (if is then [c] else ['\\', c]) ++ read ++ escapeBraces fuel rest
    else c :: escapeBraces fuel s

/-- The pattern of a matcher's value. A value that is no pattern may become one when its
stray braces stand for themselves. -/
def pattern? (value : String) : Option Pattern :=
  (Pattern.ofText? ("^" ++ value ++ "$")).or
    (Pattern.ofText? (String.ofList (escapeBraces (value.length + 3) ("^" ++ value ++ "$").toList)))

/-- The condition that a pattern spans the label's value, or does not. -/
def ofPattern (label value : String) (op : Pattern → MatchOp) : Except Fault Matcher :=
  match pattern? value with
  | some p => .ok ⟨label, op p, value⟩
  | none => .error (.badPattern value)

end Matcher

/-- The conditions of a selector. -/
structure Matchers where
  plain : List Matcher := []
  groups : List (List Matcher) := []
  deriving Inhabited

namespace Matchers

/-- Appends to the last group, or to the plain list while there is no group. -/
def append (ms : Matchers) (m : Matcher) : Matchers :=
  match ms.groups.reverse with
  | [] => { ms with plain := ms.plain ++ [m] }
  | last :: before => { ms with groups := (((last ++ [m]) :: before)).reverse }

/-- Begins a new group after `or`; the first `or` makes the plain list a group. -/
def appendOr (ms : Matchers) (m : Matcher) : Matchers :=
  if ms.groups.isEmpty then ⟨[], [ms.plain, [m]]⟩
  else { ms with groups := ms.groups ++ [[m]] }

/-- All conditions, in written order. -/
def all (ms : Matchers) : List Matcher := ms.plain ++ ms.groups.flatten

end Matchers

end ProfileAudit.Query
