/-!
Bytes as text: six bits a character, in groups of four characters.
-/

namespace ProfileAudit.Base64

/-- The character of six bits. -/
def digit (n : Nat) : Char :=
  if n < 26 then Char.ofNat ('A'.toNat + n)
  else if n < 52 then Char.ofNat ('a'.toNat + (n - 26))
  else if n < 62 then Char.ofNat ('0'.toNat + (n - 52))
  else if n = 62 then '+' else '/'

/-- The digits of a number of `count` times six bits. -/
def digits (count n : Nat) : List Char :=
  (List.range count).reverse.map fun place => digit (n / Nat.pow 64 place % 64)

/-- The text of some bytes. -/
def encode : List UInt8 → List Char
  | a :: b :: c :: rest => digits 4 ((a.toNat * 256 + b.toNat) * 256 + c.toNat) ++ encode rest
  | [a, b] => digits 3 ((a.toNat * 256 + b.toNat) * 4) ++ ['=']
  | [a] => digits 2 (a.toNat * 16) ++ ['=', '=']
  | [] => []

end ProfileAudit.Base64
