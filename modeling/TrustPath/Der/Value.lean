import TrustPath.Der.Element
import TrustPath.Oid

/-!
The simple values that elements hold: truth values, integers, bit strings,
identifiers and texts. Each is read from contents octets, so that a field with a
tag of its own reads the same way.
-/

namespace TrustPath.Der

def Element.expect? (tag : Tag) (e : Element) : Option Bytes :=
  if e.tag = tag then some e.contents else none

/-- A truth value is one octet, all zeros or all ones. -/
def boolean? : Bytes → Option Bool
  | [b] => if b = 0x00 then some false else if b = 0xff then some true else none
  | _ => none

/-- Whether octets are an integer in its shortest two's-complement form: there
is at least one, and the first nine bits are neither all zeros nor all ones. -/
def isMinimalInteger : Bytes → Bool
  | [] => false
  | [_] => true
  | a :: b :: _ => !(a = 0x00 && b.toNat < 128) && !(a = 0xff && 128 ≤ b.toNat)

/-- The octets of the magnitude of a non-negative integer: its contents without
the zero octet that keeps the sign clear. Zero is a single zero octet. -/
def magnitude? (contents : Bytes) : Option Bytes :=
  if isMinimalInteger contents then
    match contents with
    | a :: b :: rest =>
        if a = 0x00 then some (b :: rest)
          else if a.toNat < 128 then some contents else none
    | [a] => if a.toNat < 128 then some contents else none
    | [] => none
  else none

def natBelow? (bound : Nat) (contents : Bytes) : Option Nat := do
  let n := Bytes.toNat (← magnitude? contents)
  if n < bound then some n else none

/-- A string of bits, held as octets of which the last `unused` bits do not
count. -/
structure BitString where
  unused : Nat
  octets : Bytes
deriving DecidableEq

namespace BitString

/-- Reads contents octets, of which the first counts the unused bits: at most
seven, and none if there are no octets. The unused bits may have any value. -/
def ofContents? : Bytes → Option BitString
  | [] => none
  | unused :: octets =>
    if unused.toNat ≤ 7 ∧ (octets = [] → unused = 0) then some ⟨unused.toNat,
      octets⟩ else none

def contents (bits : BitString) : Bytes :=
  UInt8.ofNat bits.unused :: bits.octets

def ofElement? (e : Element) : Option BitString :=
  (e.expect? .bitString).bind ofContents?

def toElement (bits : BitString) : Element :=
  ⟨.bitString, bits.contents⟩

/-- The bits of an octet, most significant first. -/
def octetBits (b : UInt8) : List Bool :=
  [7, 6, 5, 4, 3, 2, 1, 0].map fun i => b.toNat.testBit i

def bits (s : BitString) : List Bool :=
  (s.octets.flatMap octetBits).take (8 * s.octets.length - s.unused)

end BitString

def oid? (e : Element) : Option Oid :=
  (e.expect? .objectIdentifier).bind Oid.ofContent?

def oidElement (oid : Oid) : Element :=
  ⟨.objectIdentifier, oid.content⟩

def isPrintable (b : UInt8) : Bool :=
  let n := b.toNat
  (48 ≤ n && n ≤ 57) || (65 ≤ n && n ≤ 90) || (97 ≤ n && n ≤ 122) ||
    [0x20, 0x27, 0x28, 0x29, 0x2b, 0x2c, 0x2d, 0x2e, 0x2f, 0x3a, 0x3d,
      0x3f].contains b

def ascii? (contents : Bytes) : Option String :=
  if contents.all (fun b => b.toNat < 128) then
    some (String.ofList (contents.map fun b => Char.ofNat b.toNat))
  else none

def printable? (contents : Bytes) : Option String :=
  if contents.all isPrintable then ascii? contents else none

/-- The text of a directory string: printable, teletex with octets below 128, or
UTF-8. -/
def directoryString? (e : Element) : Option String :=
  if e.tag = .printableString then printable? e.contents
  else if e.tag = .teletexString then ascii? e.contents
  else if e.tag = .utf8String then Bytes.text? e.contents
  else none

end TrustPath.Der
