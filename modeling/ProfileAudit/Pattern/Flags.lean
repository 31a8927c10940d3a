import ProfileAudit.Pattern.Basic

/-!
The flags of the written form of patterns: how they are set inside a pattern, and the
blanks and comments that the free layout allows.
-/

namespace ProfileAudit.Pattern

/-- How the text of a pattern is understood from some place on. -/
structure Flags where
  /-- `i`: letters stand for all their cases. -/
  anyCase : Bool := false
  /-- `m`: `^` and `$` hold at every line. -/
  multiLine : Bool := false
  /-- `s`: a dot matches line breaks too. -/
  dotAll : Bool := false
  /-- `u`: classes know all characters. -/
  unicode : Bool := true
  /-- `R`: a carriage return ends a line too. -/
  crlf : Bool := false
  /-- `x`: blanks and comments in the pattern are ignored. -/
  freeLayout : Bool := false
  deriving Inhabited

/-- One change of a flag. -/
structure FlagChange where
  flag : Char
  on : Bool

namespace Flags

/-- The letters that name flags; `U` only says which of two matches is found first. -/
def letters : List Char := ['i', 'm', 's', 'U', 'u', 'R', 'x']

def set (f : Flags) (change : FlagChange) : Flags :=
  match change.flag with
  | 'i' => { f with anyCase := change.on }
  | 'm' => { f with multiLine := change.on }
  | 's' => { f with dotAll := change.on }
  | 'u' => { f with unicode := change.on }
  | 'R' => { f with crlf := change.on }
  | 'x' => { f with freeLayout := change.on }
  | _ => f

/-- Reads flags up to `:` or `)`, which is returned with what follows it. A flag may be
named once, a minus sign may stand once and not at the end, and the flags after it are
switched off. -/
def read (seen : List Char) : List Char → Option (List FlagChange × Char × List Char)
  | [] => none
  | c :: s =>
    if c = ':' ∨ c = ')' then
      if seen.head? = some '-' then none else some ([], c, s)
    else if seen.contains c then none
    else if c = '-' then read (c :: seen) s
    else if letters.contains c then do
      let (changes, stop, rest) ← read (c :: seen) s
      return (⟨c, !seen.contains '-'⟩ :: changes, stop, rest)
    else none

end Flags

/-! ## Free layout -/

/-- A pattern's text without the blanks and comments at its start. -/
def dropLayout (inComment : Bool) : List Char → List Char
  | [] => []
  | c :: s =>
    if inComment then dropLayout (c != '\n') s
    else if isBlank c then dropLayout false s
    else if c = '#' then dropLayout true s
    else c :: s

/-- The same where the flag is on, and the text itself elsewhere. -/
def Flags.skip (f : Flags) (s : List Char) : List Char :=
  if f.freeLayout then dropLayout false s else s

/-- The next character that counts after a minus sign inside a class. One number sign
among the blanks is passed over, and blanks up to the end are not. -/
def Flags.peek (f : Flags) (s : List Char) : Option Char :=
  if f.freeLayout then
    match s.dropWhile isBlank with
    | '#' :: t => ((t.dropWhile isBlank).head?).or s.head?
    | t => t.head?.or s.head?
  else s.head?

theorem length_dropLayout_le (b : Bool) (s : List Char) :
    (dropLayout b s).length ≤ s.length := by
  induction s generalizing b with
  | nil => simp [dropLayout]
  | cons c s ih =>
    simp only [dropLayout, List.length_cons]
    split
    · have := ih (c != '\n'); omega
    · split
      · have := ih false; omega
      · split
        · have := ih true; omega
        · simp

theorem Flags.length_skip_le (f : Flags) (s : List Char) : (f.skip s).length ≤ s.length := by
  unfold Flags.skip; split
  · exact length_dropLayout_le false s
  · exact Nat.le_refl _

end ProfileAudit.Pattern
