import TrustPath.Bytes

/-!
Internet addresses of both families, their text, and the address ranges that
contain them.
-/

namespace TrustPath

/-- An address: four octets, or sixteen. -/
structure IpAddress where
  octets : Bytes
  length_octets : octets.length = 4 ∨ octets.length = 16
deriving DecidableEq

namespace IpAddress

/-- The address with the given octets, if there are four or sixteen. -/
def ofOctets? (octets : Bytes) : Option IpAddress :=
  if h : octets.length = 4 ∨ octets.length = 16 then some ⟨octets, h⟩ else none

/-- Whether a range covers the address. A range is an address and a mask of the
same family, and the address may differ from it only where the mask is clear. -/
def isWithin (address : IpAddress) (range : Bytes) : Bool :=
  let size := address.octets.length
  range.length = 2 * size &&
    (address.octets.zip ((range.take size).zip (range.drop size))).all
    fun (octet, network, mask) =>
      octet &&& mask = network &&& mask

def dotted (octets : Bytes) : String :=
  ".".intercalate (octets.map fun b => toString b.toNat)

def groups : Bytes → List Nat
  | high :: low :: rest => (256 * high.toNat + low.toNat) :: groups rest
  | _ => []

def joined (groups : List Nat) : String :=
  ":".intercalate (groups.map fun n => String.ofList (Nat.toDigits 16 n))

/-- The number of zeros at the front. -/
def zeroRun (groups : List Nat) : Nat :=
  (groups.takeWhile (· = 0)).length

/-- The start and the length of the longest run of zeros, the first one if there
are several. -/
def longestZeroRun : List Nat → Nat × Nat
  | [] => (0, 0)
  | g :: rest =>
    let (start, length) := longestZeroRun rest
    let here := zeroRun (g :: rest)
    if here ≥ length then (0, here) else (start + 1, length)

/-- Eight groups with the longest run of at least two zeros left out between two
colons. -/
def compressed (groups : List Nat) : String :=
  let (start, length) := longestZeroRun groups
  if length > 1 then
    joined (groups.take start) ++ "::" ++ joined (groups.drop (start + length))
  else joined groups

/-- The text of an address. A sixteen-octet address that stands for one of four
octets ends in the dotted form of that. -/
def text (address : IpAddress) : String :=
  if address.octets.length = 4 then dotted address.octets
  else if address.octets.take 12 = List.replicate 10 0 ++ [0xff, 0xff] then
    "::ffff:" ++ dotted (address.octets.drop 12)
  else compressed (groups address.octets)

end IpAddress

end TrustPath
