import TrustPath.Bytes

/-!
Elements of the distinguished encoding: an identifier octet, a definite length
in its shortest form, and contents. `Element.read?` takes one element off the
front of a byte string, `Element.encode` writes it back, and `elements?` splits
a whole byte string into elements.
-/

namespace TrustPath.Der

/-- An identifier octet: two bits of class, one that marks constructed contents,
five of number. -/
structure Tag where
  octet : UInt8
deriving DecidableEq

namespace Tag

def boolean : Tag := ⟨0x01⟩
def integer : Tag := ⟨0x02⟩
def bitString : Tag := ⟨0x03⟩
def octetString : Tag := ⟨0x04⟩
def null : Tag := ⟨0x05⟩
def objectIdentifier : Tag := ⟨0x06⟩
def utf8String : Tag := ⟨0x0c⟩
def printableString : Tag := ⟨0x13⟩
def teletexString : Tag := ⟨0x14⟩
def ia5String : Tag := ⟨0x16⟩
def utcTime : Tag := ⟨0x17⟩
def generalizedTime : Tag := ⟨0x18⟩
def sequence : Tag := ⟨0x30⟩
def set : Tag := ⟨0x31⟩

def number (tag : Tag) : Nat :=
  tag.octet.toNat % 32

def isConstructed (tag : Tag) : Bool :=
  tag.octet.toNat / 32 % 2 = 1

def isContext (tag : Tag) : Bool :=
  tag.octet.toNat / 64 = 2

/-- The context-specific tag with a number below 31. -/
def context (number : Nat) (constructed : Bool) : Tag :=
  ⟨UInt8.ofNat (128 + (if constructed then 32 else 0) + number)⟩

/-- The identifier octets in use: the universal types below, and every number
but 31, which would announce more identifier octets, in the other classes. -/
def isKnown (tag : Tag) : Bool :=
  if tag.octet.toNat < 64 then
    [0x01, 0x02, 0x03, 0x04, 0x05, 0x06, 0x09, 0x0a, 0x0c, 0x12, 0x13, 0x14,
      0x15, 0x16, 0x17, 0x18, 0x1a, 0x1e, 0x30, 0x31].contains tag.octet
  else tag.number ≠ 31

end Tag

/-- One element: its identifier octet and its contents octets. -/
structure Element where
  tag : Tag
  contents : Bytes
deriving DecidableEq

/-- The greatest length that an element, or a whole encoding, may have. -/
def maxLength : Nat := 0x0fffffff

/-- A length in its shortest form, in at most five octets. -/
def encodeLength (n : Nat) : Bytes :=
  if n < 0x80 then [UInt8.ofNat n]
  else if n < 0x100 then 0x81 :: Bytes.ofNat 1 n
  else if n < 0x10000 then 0x82 :: Bytes.ofNat 2 n
  else if n < 0x1000000 then 0x83 :: Bytes.ofNat 3 n
  else 0x84 :: Bytes.ofNat 4 n

/-- Takes a length off the front: definite, in its shortest form, and not above
`maxLength`. -/
def readLength? : Bytes → Option (Nat × Bytes)
  | [] => none
  | first :: rest =>
    if first.toNat < 128 then some (first.toNat, rest)
    else
      let size := first.toNat - 128
      let n := Bytes.toNat (rest.take size)
      if 1 ≤ size ∧ size ≤ 4 ∧ size ≤ rest.length ∧ 128 ≤ n ∧
        1 <<< (8 * (size - 1)) ≤ n ∧
          n ≤ maxLength
      then some (n, rest.drop size)
      else none

namespace Element

def encode (e : Element) : Bytes :=
  e.tag.octet :: encodeLength e.contents.length ++ e.contents

/-- Takes one element off the front of a byte string. -/
def read? : Bytes → Option (Element × Bytes)
  | [] => none
  | octet :: rest =>
    if Tag.isKnown ⟨octet⟩ then
      match readLength? rest with
      | none => none
      | some (n, body) =>
        if n ≤ body.length then some (⟨⟨octet⟩, body.take n⟩, body.drop n)
          else none
    else none

/-- Splits at most `count` elements off the front, which have to use up the byte
string. -/
def splitWithin? : (count : Nat) → Bytes → Option (List Element)
  | _, [] => some []
  | 0, _ :: _ => none
  | count + 1, bs =>
    match read? bs with
    | none => none
    | some (e, rest) => (splitWithin? count rest).map (e :: ·)

end Element

def elements? (bs : Bytes) : Option (List Element) :=
  Element.splitWithin? bs.length bs

def encodeAll (es : List Element) : Bytes :=
  es.flatMap Element.encode

/-- Reads a byte string that is a single element. -/
def element? (bs : Bytes) : Option Element :=
  if bs.length ≤ maxLength then
    match Element.read? bs with
    | some (e, []) => some e
    | _ => none
  else none

namespace Element

def inside? (tag : Tag) (e : Element) : Option (List Element) :=
  if e.tag = tag then elements? e.contents else none

def sequence? (e : Element) : Option (List Element) :=
  e.inside? .sequence

def around (tag : Tag) (es : List Element) : Element :=
  ⟨tag, encodeAll es⟩

end Element

/-- Looks for the optional field with a context-specific number at the front of
the elements that are left. Elements with lower context-specific numbers are
passed over; anything else means that the field is absent. Answers the field and
what is left after it. -/
def takeField (number : Nat) : List Element → Option Element × List Element
  | [] => (none, [])
  | e :: rest =>
    if e.tag.isContext then
      if e.tag.number < number then takeField number rest
      else if e.tag.number = number then (some e, rest)
      else (none, e :: rest)
    else (none, e :: rest)

end TrustPath.Der
