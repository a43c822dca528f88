import TrustPath.Der.Value
import TrustPath.Oid.Registry

/-!
Algorithm identifiers and public keys as certificates carry them.
-/

namespace TrustPath

open Der

/-- An algorithm and, if it has any, its parameters. -/
structure AlgorithmIdentifier where
  algorithm : Oid
  parameters : Option Element
deriving DecidableEq

namespace AlgorithmIdentifier

def ofElement? (e : Element) : Option AlgorithmIdentifier := do
  match ← e.sequence? with
  | [algorithm] => return ⟨← oid? algorithm, none⟩
  | [algorithm, parameters] => return ⟨← oid? algorithm, some parameters⟩
  | _ => none

def toElement (a : AlgorithmIdentifier) : Element :=
  .around .sequence (oidElement a.algorithm :: a.parameters.toList)

/-- The curve that the parameters name, if they are an identifier. -/
def namedCurve? (a : AlgorithmIdentifier) : Option Oid :=
  a.parameters.bind oid?

end AlgorithmIdentifier

/-- A public key: the algorithm it is for, and its octets as that algorithm
writes them. -/
structure PublicKey where
  algorithm : AlgorithmIdentifier
  key : BitString
deriving DecidableEq

namespace PublicKey

def ofElement? (e : Element) : Option PublicKey := do
  match ← e.sequence? with
  | [algorithm, key] =>
    return ⟨← AlgorithmIdentifier.ofElement? algorithm,
      ← BitString.ofElement? key⟩
  | _ => none

def toElement (k : PublicKey) : Element :=
  .around .sequence [k.algorithm.toElement, k.key.toElement]

end PublicKey

/-- An RSA public key: modulus and exponent as the octets of their
magnitudes. -/
structure RsaPublicKey where
  modulus : Bytes
  exponent : Bytes
deriving DecidableEq

namespace RsaPublicKey

def ofElement? (e : Element) : Option RsaPublicKey := do
  match ← e.sequence? with
  | [modulus, exponent] =>
    return ⟨← (← modulus.expect? .integer) |> magnitude?,
      ← (← exponent.expect? .integer) |> magnitude?⟩
  | _ => none

def ofOctets? (bs : Bytes) : Option RsaPublicKey :=
  (element? bs).bind ofElement?

/-- The number of bits of an octet from its highest set bit on. -/
def octetBitLength (b : UInt8) : Nat :=
  if b = 0 then 0 else Nat.log2 b.toNat + 1

/-- The size of the modulus in bits, from its first octet and the number of
octets after it. -/
def modulusBits (k : RsaPublicKey) : Nat :=
  match k.modulus with
  | [] => 0
  | first :: rest => 8 * rest.length + octetBitLength first

end RsaPublicKey

end TrustPath
