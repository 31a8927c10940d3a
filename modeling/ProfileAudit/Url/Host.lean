import ProfileAudit.Failure
import ProfileAudit.Text.Category
import ProfileAudit.Text.LetterCase
import ProfileAudit.Text.Split
import ProfileAudit.Url.Percent
import ProfileAudit.Url.Punycode

/-!
Hosts of URLs: names, and addresses in the fourth and the sixth version. A host of a
special scheme is a domain or an address; a host of another scheme is any name or an
address in brackets.
-/

namespace ProfileAudit

/-- A host. -/
inductive Host where
  | name (s : String)
  /-- An address of thirty-two bits. -/
  | ipv4 (address : Nat)
  /-- An address of eight pieces of sixteen bits each. -/
  | ipv6 (pieces : List Nat)
  deriving DecidableEq, Inhabited

namespace Host

/-! ## The fourth version -/

/-- Part of an address in version four: it is no number, or one that may be too large. Two
leading characters tell that the digits are hexadecimal, and a zero that they are octal. -/
def ipv4Part? : List Char → Option Nat
  | [] => none
  | '0' :: 'x' :: ds | '0' :: 'X' :: ds => Hex.inBase? 16 ds
  | '0' :: d :: ds => Hex.inBase? 8 (d :: ds)
  | ds => Hex.inBase? 10 ds

/-- The last part of a domain, or the one before it if that is empty. -/
def lastPart (domain : List Char) : List Char :=
  match (partsBetween (· == '.') domain).reverse with
  | [] :: part :: _ => part
  | part :: _ => part
  | [] => []

/-- A domain that ends in a number has to be an address. -/
def endsInNumber (domain : List Char) : Bool :=
  let last := lastPart domain
  !last.isEmpty && (last.all Char.isDigit || (ipv4Part? last).isSome)

/-- The address of up to four parts; the last one fills all places that are left. -/
def ipv4? (domain : List Char) : Option Nat := do
  let parts := partsBetween (· == '.') domain
  let parts := if parts.getLast? = some [] then parts.dropLast else parts
  let numbers ← parts.mapM ipv4Part?
  let last ← numbers.getLast?
  let before := numbers.dropLast
  if 3 < before.length || before.any (255 < ·) || Nat.pow 256 (4 - before.length) ≤ last then none
  return before.zipIdx.foldl (fun sum (n, place) => sum + n * Nat.pow 256 (3 - place)) last

def ipv4Text (address : Nat) : String :=
  ".".intercalate ([24, 16, 8, 0].map fun shift => toString (address >>> shift % 256))

/-! ## The sixth version -/

/-- A piece of one to four digits. -/
def ipv6Piece? (cs : List Char) : Option Nat :=
  if cs.isEmpty || 4 < cs.length then none else Hex.value? cs

/-- A number up to 255 without leading zeros. -/
def octet? (cs : List Char) : Option Nat := do
  if cs.isEmpty || 3 < cs.length || (cs.head? = some '0' && cs ≠ ['0']) then none
  let n ← Hex.inBase? 10 cs
  if n ≤ 255 then some n else none

/-- The two pieces that an address of version four gives at the end. -/
def ipv6End? (cs : List Char) : Option (List Nat) := do
  match ← (partsBetween (· == '.') cs).mapM octet? with
  | [a, b, c, d] => return [256 * a + b, 256 * c + d]
  | _ => none

/-- The pieces between colons; the last one may be an address of version four. -/
def ipv6Pieces? (mayEnd : Bool) (cs : List Char) : Option (List Nat) := do
  let parts := partsBetween (· == ':') cs
  let last ← parts.getLast?
  let before ← parts.dropLast.mapM ipv6Piece?
  if mayEnd && last.contains '.' then return before ++ (← ipv6End? last)
  else return before ++ [← ipv6Piece? last]

/-- What stands before and after the first two colons in a row. -/
def atGap? : List Char → Option (List Char × List Char)
  | [] => none
  | ':' :: ':' :: cs => some ([], cs)
  | c :: cs => (atGap? cs).map fun (before, after) => (c :: before, after)

/-- The address of eight pieces; two colons stand for all pieces that are left out. -/
def ipv6? (cs : List Char) : Option (List Nat) := do
  match atGap? cs with
  | none =>
    let pieces ← ipv6Pieces? true cs
    if pieces.length = 8 then some pieces else none
  | some (before, after) =>
    let first ← if before.isEmpty then some [] else ipv6Pieces? false before
    let last ← if after.isEmpty then some [] else ipv6Pieces? true after
    let left := 8 - (first.length + last.length)
    if left = 0 then none else some (first ++ List.replicate left 0 ++ last)

/-- How many zeros the pieces begin with. -/
def zeros (pieces : List Nat) : Nat := (pieces.takeWhile (· == 0)).length

/-- Where the longest row of zeros begins, the first of several, if it has more than one. -/
def gap? (pieces : List Nat) : Option Nat :=
  let rows := (List.range pieces.length).map fun i => zeros (pieces.drop i)
  let longest := rows.foldl max 0
  if longest < 2 then none else rows.findIdx? (· == longest)

def ipv6Text (pieces : List Nat) : String :=
  let join := fun (ps : List Nat) =>
    ":".intercalate (ps.map fun p => String.ofList (Nat.toDigits 16 p))
  match gap? pieces with
  | none => join pieces
  | some i => join (pieces.take i) ++ "::" ++ join (pieces.drop (i + zeros (pieces.drop i)))

/-! ## Domains -/

/-- Characters that no host may have. -/
def forbidden (c : Char) : Bool := "\x00\t\n\r #/:<>?@[\\]^|".toList.contains c

/-- ASCII characters that no domain may have. -/
def forbiddenInDomain (c : Char) : Bool :=
  forbidden c || decide (c.toNat < 0x20) || c == '%' || c == '\x7f'

/-- Points without a form of their own, which names leave out. -/
def invisible : Ranges := .ofText "ad 34f 180b-180d 200b 2060 2064 fe00-fe0f feff"

/-- A character in the form in which it stands in names: folded, wide forms narrow, and the
other full stops as the plain one. -/
def domainCharacter (c : Char) : List Char :=
  let n := c.toNat
  if invisible.contains n then []
  else if [0x3002, 0xff0e, 0xff61].contains n then ['.']
  else if 0xff01 ≤ n ∧ n ≤ 0xff5e then [LetterCase.plainLower (Char.ofNat (n - 0xfee0))]
  else if n = 0x3c2 then [c]
  else [Char.ofNat (LetterCase.fold n)]

/-- Points that may stand in names. -/
def domainPoints : Ranges :=
  .union [Category.letter, Category.mark, Category.number, Category.punctuation, Category.symbol]

/-- A label that is not ASCII, in the form in which it stands in names. -/
def isDomainLabel (label : List Char) : Bool :=
  label.any (0x7f < ·.toNat) && label.flatMap domainCharacter == label &&
    (label.all fun c => domainPoints.contains c.toNat || c.toNat < 0x80) &&
    !(label.head?.any fun c => Category.mark.contains c.toNat)

/-- A label of a domain in ASCII. -/
def domainLabel? (label : List Char) : Option (List Char) :=
  let mark := ['x', 'n', '-', '-']
  if label.all (·.toNat < 0x80) then
    if mark.isPrefixOf label && !(Punycode.decode? (label.drop 4)).any isDomainLabel then none
    else some label
  else if isDomainLabel label then some (mark ++ Punycode.encode label)
  else none

/-- A domain in ASCII. -/
def domain? (text : String) : Option (List Char) := do
  let cs := text.toList.flatMap domainCharacter
  let labels ← (partsBetween (· == '.') cs).mapM domainLabel?
  let domain := ['.'].intercalate labels
  if domain.any forbiddenInDomain then none else some domain

/-! ## Hosts -/

/-- The address between brackets. -/
def bracketed (cs : List Char) : Except UrlFault Host :=
  match cs.getLast?, ipv6? (cs.drop 1).dropLast with
  | some ']', some pieces => .ok (ipv6 pieces)
  | _, _ => .error .ipv6

/-- The host of a special scheme. -/
def ofDomain (cs : List Char) : Except UrlFault Host :=
  if cs.head? = some '[' then bracketed cs
  else
    match Percent.decodeText? cs >>= domain? with
    | none => .error .domain
    | some domain =>
      if domain.isEmpty then .error .emptyHost
      else if endsInNumber domain then
        match ipv4? domain with
        | some address => .ok (ipv4 address)
        | none => .error .ipv4
      else .ok (name (String.ofList domain))

/-- The host of another scheme. -/
def ofName (cs : List Char) : Except UrlFault Host :=
  if cs.head? = some '[' then bracketed cs
  else if cs.any forbidden then .error .hostCharacter
  else .ok (name (Percent.encode Percent.controls cs))

def text : Host → String
  | name s => s
  | ipv4 address => ipv4Text address
  | ipv6 pieces => "[" ++ ipv6Text pieces ++ "]"

end Host

end ProfileAudit
