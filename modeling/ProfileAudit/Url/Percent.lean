import ProfileAudit.Text.Hex

/-!
Percent encoding: bytes of the UTF-8 form written as a percent sign and two digits. Every
part of a URL has its own set of ASCII characters that cannot stand for themselves; other
characters never do.
-/

namespace ProfileAudit.Percent

/-- A byte by its digits. -/
def byte (b : UInt8) : List Char := '%' :: Hex.digits 2 b.toNat

/-- A character of a text in which those of a set are encoded. -/
def character (inSet : Char → Bool) (c : Char) : List Char :=
  if inSet c || decide (0x7e < c.toNat) then (String.utf8EncodeChar c).flatMap byte else [c]

/-- A text in which the characters of a set are encoded. -/
def encode (inSet : Char → Bool) (cs : List Char) : String :=
  String.ofList (cs.flatMap (character inSet))

/-- The bytes that a text stands for. A percent sign without two digits stands for itself. -/
def decode : List Char → List UInt8
  | [] => []
  | '%' :: a :: b :: cs =>
    match Hex.digit? a, Hex.digit? b with
    | some x, some y => UInt8.ofNat (16 * x + y) :: decode cs
    | _, _ => '%'.toUInt8 :: decode (a :: b :: cs)
  | c :: cs => String.utf8EncodeChar c ++ decode cs

/-- The text that a text stands for, if the bytes are one. -/
def decodeText? (cs : List Char) : Option String := String.fromUTF8? ⟨(decode cs).toArray⟩

/-! ## Sets -/

def controls (c : Char) : Bool := decide (c.toNat < 0x20)

def fragment (c : Char) : Bool := controls c || " \"<>\x60".toList.contains c

def path (c : Char) : Bool := fragment c || "#?\x7b\x7d".toList.contains c

def userinfo (c : Char) : Bool := path c || "/:;=@[\\]^|".toList.contains c

def query (c : Char) : Bool := controls c || " \"#<>".toList.contains c

/-- In queries of addresses with a special scheme an apostrophe is encoded too. -/
def specialQuery (c : Char) : Bool := query c || c == '\x27'

end ProfileAudit.Percent
