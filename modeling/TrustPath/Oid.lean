import TrustPath.Bytes

/-!
Object identifiers. An identifier is kept as its encoded contents, and two
identifiers are the same only when their contents are: a padded arc makes a
different identifier with the same text.
-/

namespace TrustPath

/-- An object identifier, as the contents octets of its encoding. -/
structure Oid where
  content : Bytes
deriving DecidableEq

namespace Oid

/-- The longest contents that an identifier may have. -/
def maxContentLength : Nat := 39

/-- Arcs are numbers of 32 bits. -/
def arcBound : Nat := UInt32.size

/-- Reads the arcs after the first two, each a big-endian base-128 number whose
last octet is below 128. `size` octets of the current arc, worth `value`, have
been read. A fifth octet has to be below 16, so no arc is longer than that; of
its 35 bits the low 32 count. -/
def readArcs? : (size value : Nat) → Bytes → Option (List Nat)
  | 0, _, [] => some []
  | _ + 1, _, [] => none
  | size, value, b :: rest =>
    let value := (128 * value + b.toNat % 128) % arcBound
    if size ≥ 4 ∧ b.toNat ≥ 16 then none
    else if b.toNat < 128 then (readArcs? 0 0 rest).map (value :: ·)
    else readArcs? (size + 1) value rest

/-- The arcs that contents octets write; the first octet holds the first two
arcs. -/
def arcs? : Bytes → Option (List Nat)
  | [] => none
  | first :: rest =>
    if first.toNat < 120 then
      (readArcs? 0 0 rest).map fun arcs =>
        first.toNat / 40 :: first.toNat % 40 :: arcs
    else none

/-- Reads contents octets: three to thirty-nine of them, with well-formed
arcs. -/
def ofContent? (content : Bytes) : Option Oid :=
  if 3 ≤ content.length ∧ content.length ≤ maxContentLength ∧
    (arcs? content).isSome then
    some ⟨content⟩
  else none

def text (oid : Oid) : String :=
  ".".intercalate (((arcs? oid.content).getD []).map fun arc => toString arc)

/-- At most `count` base-128 digits of a number, most significant first; `mark`
is added to the last one, and 128 to those before it. Leading digits that are
worth 128 are written as the octets 80 and 00, which read as an arc of their
own, zero. -/
def digitOctets : (count mark : Nat) → Nat → Bytes
  | 0, _, _ => []
  | count + 1, mark, n =>
    if n = 128 then [0x80, 0x00]
    else if n < 128 then [UInt8.ofNat (mark + n)]
    else digitOctets count 128 (n / 128) ++ [UInt8.ofNat (mark + n % 128)]

/-- The contents octets for one arc of a dotted text. They are its shortest
form, unless leading digits of it are worth 128: such an arc is written as
two. -/
def arcContent (arc : Nat) : Bytes :=
  digitOctets 5 0 arc

/-- An identifier from its arcs: at least three, the first at most two, the
second at most thirty-nine, and contents shorter than the longest. -/
def ofArcs? : List Nat → Option Oid
  | first :: second :: third :: rest =>
    let content := UInt8.ofNat (40 * first + second) :: (third :: rest).flatMap
        arcContent
    if first ≤ 2 ∧ second ≤ 39 ∧
      content.length < maxContentLength then some ⟨content⟩ else none
  | _ => none

/-- Splits dotted text into arcs; `arc` is what the digits read so far are
worth. An arc without digits is zero. -/
def readText? (arc : Nat) : List Char → Option (List Nat)
  | [] => some [arc]
  | '.' :: [] => none
  | '.' :: rest => (readText? 0 rest).map (arc :: ·)
  | c :: rest =>
    if '0' ≤ c ∧ c ≤ '9' then
      let arc := 10 * arc + (c.toNat - 48)
      if arc < arcBound then readText? arc rest else none
    else none

def ofText? (text : String) : Option Oid :=
  match text.toList with
  | [] => none
  | '.' :: _ => none
  | cs => (readText? 0 cs).bind ofArcs?

end Oid

end TrustPath
