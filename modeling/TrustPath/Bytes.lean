/-!
Byte strings: their base-16 text, and the natural numbers they stand for in
big-endian order.
-/

namespace TrustPath

abbrev Bytes := List UInt8

namespace Bytes

def hexDigit (n : Nat) : Char :=
  if n < 10 then Char.ofNat (48 + n) else Char.ofNat (87 + n)

def hexPair (b : UInt8) : List Char :=
  [hexDigit (b.toNat / 16), hexDigit (b.toNat % 16)]

/-- Lowercase base-16 text, two digits an octet, without separators. -/
def hex (bs : Bytes) : String :=
  String.ofList (bs.flatMap hexPair)

def hexValue? (c : Char) : Option Nat :=
  if '0' ≤ c ∧ c ≤ '9' then some (c.toNat - 48)
  else if 'a' ≤ c ∧ c ≤ 'f' then some (c.toNat - 87)
  else if 'A' ≤ c ∧ c ≤ 'F' then some (c.toNat - 55)
  else none

/-- Reads base-16 text; a digit left alone at the end is refused. -/
def ofHexDigits? : List Char → Option Bytes
  | [] => some []
  | high :: low :: rest => do
    let h ← hexValue? high
    let l ← hexValue? low
    let bs ← ofHexDigits? rest
    return UInt8.ofNat (16 * h + l) :: bs
  | [_] => none

def ofHex? (text : String) : Option Bytes :=
  ofHexDigits? text.toList

/-- The number that the octets write in base 256, most significant octet
first. -/
def toNat (bs : Bytes) : Nat :=
  bs.foldl (fun n b => 256 * n + b.toNat) 0

/-- The last `width` base-256 digits of a number, most significant first. -/
def ofNat : (width : Nat) → Nat → Bytes
  | 0, _ => []
  | width + 1, n => ofNat width (n / 256) ++ [UInt8.ofNat n]

/-- Lexicographic order of octet strings, where a proper beginning comes
first. -/
def le : Bytes → Bytes → Bool
  | [], _ => true
  | _ :: _, [] => false
  | a :: as, b :: bs =>
    if a.toNat < b.toNat then true else if b.toNat < a.toNat then false
      else le as bs

def ofText (text : String) : Bytes :=
  text.toByteArray.data.toList

/-- The text whose UTF-8 octets these are, if they are valid UTF-8. -/
def text? (bs : Bytes) : Option String :=
  String.fromUTF8? (List.toByteArray bs)

end Bytes

end TrustPath
