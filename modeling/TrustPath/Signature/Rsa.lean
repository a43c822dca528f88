import TrustPath.Digest
import TrustPath.Key
import TrustPath.Signature.Residue

/-!
RSA signatures: which keys are usable, and the two ways in which a message is
encoded before it is signed, PKCS #1 v1.5 and PSS with a salt as long as the
digest.
-/

namespace TrustPath.Rsa

open Der

/-- A usable key: its modulus, its size in octets and in bits, and its
exponent. -/
structure Key where
  modulus : Nat
  bits : Nat
  exponent : Nat

def Key.size (k : Key) : Nat :=
  (k.bits + 7) / 8

/-- Usable keys have an odd modulus of at most 4096 bits, and a smaller odd
exponent from two to 2³³. -/
def Key.isUsable (k : Key) : Bool :=
  k.modulus % 2 = 1 && k.bits ≤ 4096 && k.exponent % 2 = 1 && 2 ≤ k.exponent &&
    k.exponent < 2 * UInt32.size && k.exponent < k.modulus

/-- Reads a public key for RSA: its algorithm has NULL parameters, and all its
bits count. -/
def key? (key : PublicKey) : Option Key := do
  if key.algorithm = ⟨.rsaEncryption, some ⟨.null, []⟩⟩ ∧
    key.key.unused = 0 then
    let octets ← RsaPublicKey.ofOctets? key.key.octets
    let k : Key := ⟨Bytes.toNat octets.modulus, octets.modulusBits,
        Bytes.toNat octets.exponent⟩
    if k.isUsable then return k else none
  else none

/-- The encoded message that a signature stands for. The signature has as many
octets as the modulus; its value counts modulo the modulus. -/
def encodedMessage? (k : Key) (signature : Bytes) : Option Bytes :=
  if signature.length = k.size then
    some (Bytes.ofNat k.size
      (Residue.pow k.modulus (Bytes.toNat signature % k.modulus) k.exponent))
  else none

def digestInfo (digest : Digest) (message : Bytes) : Bytes :=
  [0x30, UInt8.ofNat (0x11 + digest.size), 0x30, 0x0d, 0x06, 0x09, 0x60, 0x86,
    0x48, 0x01, 0x65, 0x03, 0x04, 0x02, digest.arc, 0x05, 0x00, 0x04,
    UInt8.ofNat digest.size] ++ digest.hash message

/-- Whether a signature is one of the message by PKCS #1 v1.5: the digest is
filled up with ones. The value of the signature is below the modulus. -/
def verifyPkcs1 (digest : Digest) (k : Key) (message signature : Bytes) :
    Bool :=
  let info := digestInfo digest message
  match encodedMessage? k signature with
  | none => false
  | some encoded =>
    Bytes.toNat signature < k.modulus && info.length + 11 ≤ k.size &&
      encoded = [0x00, 0x01] ++ List.replicate
      (k.size - info.length - 3) 0xff ++ 0x00 :: info

/-- The first octets of a mask made from a seed, from digests of the seed and a
counter. -/
def mask (digest : Digest) (seed : Bytes) (size : Nat) : Bytes :=
  ((List.range (size / digest.size + 1)).flatMap fun i =>
    digest.hash (seed ++ Bytes.ofNat 4 i)).take size

/-- Clears bits at the front of the first octet. -/
def clearBits (count : Nat) : Bytes → Bytes
  | [] => []
  | b :: rest => UInt8.ofNat (b.toNat % (1 <<< (8 - count))) :: rest

/-- Whether a signature is one of the message by PSS. The encoded message has
one bit less than the modulus: a masked block of zeros, a one and the salt, then
a digest, then the octet 0xbc. A signature whose value is not below the modulus
counts as the one it is congruent to. -/
def verifyPss (digest : Digest) (k : Key) (message signature : Bytes) : Bool :=
  let bits := k.bits - 1
  let size := (bits + 7) / 8
  match encodedMessage? k signature with
  | none => false
  | some octets =>
    let encoded := octets.drop (k.size - size)
    let blockSize := size - digest.size - 1
    let masked := encoded.take blockSize
    let digestOctets := (encoded.drop blockSize).take digest.size
    let unusedBits := 8 * size - bits
    let block := clearBits unusedBits
      (List.zipWith (· ^^^ ·) masked (mask digest digestOctets blockSize))
    let zeros := blockSize - digest.size - 1
    let salt := block.drop (zeros + 1)
    2 * digest.size + 2 ≤ size && encoded.getLast? = some 0xbc &&
      masked = clearBits unusedBits masked &&
      block.take (zeros + 1) = List.replicate zeros 0x00 ++ [0x01] &&
      digestOctets = digest.hash
      (List.replicate 8 0x00 ++ digest.hash message ++ salt)

end TrustPath.Rsa
