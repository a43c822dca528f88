import TrustPath.Certificate.Validity
import TrustPath.Key
import TrustPath.Name

/-!
Certificates: their fields, how they are read from an encoding, and their
canonical encoding. Fields that are equal to their default are read when they
are written out, and not written.
-/

namespace TrustPath

open Der

/-- An extension as it stands in a certificate, its value still encoded. -/
structure Extension where
  id : Oid
  critical : Bool
  value : Bytes
deriving DecidableEq

namespace Extension

def ofElement? (e : Element) : Option Extension := do
  match ← e.sequence? with
  | [id, value] => return ⟨← oid? id, false, ← value.expect? .octetString⟩
  | [id, critical, value] =>
    return ⟨← oid? id, ← (← critical.expect? .boolean) |> boolean?,
      ← value.expect? .octetString⟩
  | _ => none

def toElement (x : Extension) : Element :=
  .around .sequence
    (oidElement x.id :: (if x.critical then [⟨.boolean, [0xff]⟩] else []) ++
      [⟨.octetString, x.value⟩])

end Extension

/-- The versions of the certificate format. -/
inductive Version where
  | v1
  | v2
  | v3
deriving DecidableEq

namespace Version

/-- The version's number, counted from one. -/
def number : Version → Nat
  | v1 => 1
  | v2 => 2
  | v3 => 3

/-- Reads the contents of the integer that stands for a version, which counts
from zero. -/
def ofContents? : Bytes → Option Version
  | [0x00] => some v1
  | [0x01] => some v2
  | [0x02] => some v3
  | _ => none

def contents : Version → Bytes
  | v1 => [0x00]
  | v2 => [0x01]
  | v3 => [0x02]

end Version

/-- The longest serial number, in octets. -/
def maxSerialLength : Nat := 21

/-- A serial number is an integer of either sign, in its shortest form and at
most twenty-one octets long, and is kept as its contents. -/
def serialNumber? (contents : Bytes) : Option Bytes :=
  if isMinimalInteger contents ∧
    contents.length ≤ maxSerialLength then some contents else none

/-- The part of a certificate that is signed. -/
structure TbsCertificate where
  version : Version
  serialNumber : Bytes
  signature : AlgorithmIdentifier
  issuer : Name
  validity : Validity
  subject : Name
  publicKey : PublicKey
  issuerUniqueId : Option BitString
  subjectUniqueId : Option BitString
  extensions : Option (List Extension)
deriving DecidableEq

namespace TbsCertificate

/-- The element inside an explicitly tagged field. -/
def explicit? (e : Element) : Option Element := do
  if e.tag.isConstructed then
    match ← elements? e.contents with
    | [inner] => return inner
    | _ => none
  else none

def version? : Option Element → Option Version
  | none => some .v1
  | some field => do
    let inner ← explicit? field
    Version.ofContents? (← inner.expect? .integer)

def uniqueId? : Option Element → Option (Option BitString)
  | none => some none
  | some field =>
    if field.tag.isConstructed then none
      else (BitString.ofContents? field.contents).map some

def extensions? : Option Element → Option (Option (List Extension))
  | none => some none
  | some field => do
    let list ← (← explicit? field).sequence?
    return some (← list.mapM Extension.ofElement?)

def ofElements? (es : List Element) : Option TbsCertificate := do
  let (version, es) := takeField 0 es
  match es with
  | serialNumber :: signature :: issuer :: validity :: subject :: publicKey
      :: es =>
    let (issuerUniqueId, es) := takeField 1 es
    let (subjectUniqueId, es) := takeField 2 es
    let (extensions, es) := takeField 3 es
    match es with
    | [] =>
      return {
        version := ← version? version
        serialNumber := ← (← serialNumber.expect? .integer) |> serialNumber?
        signature := ← AlgorithmIdentifier.ofElement? signature
        issuer := ← Name.ofElement? issuer
        validity := ← Validity.ofElement? validity
        subject := ← Name.ofElement? subject
        publicKey := ← PublicKey.ofElement? publicKey
        issuerUniqueId := ← uniqueId? issuerUniqueId
        subjectUniqueId := ← uniqueId? subjectUniqueId
        extensions := ← extensions? extensions }
    | _ :: _ => none
  | _ => none

def ofElement? (e : Element) : Option TbsCertificate :=
  e.sequence?.bind ofElements?

def decode? (bs : Bytes) : Option TbsCertificate :=
  (element? bs).bind ofElement?

def versionField (version : Version) : List Element :=
  if version = .v1 then []
    else [.around (.context 0 true) [⟨.integer, version.contents⟩]]

def uniqueIdField (number : Nat) (id : Option BitString) : List Element :=
  id.toList.map fun bits => ⟨.context number false, bits.contents⟩

def extensionsField (extensions : Option (List Extension)) : List Element :=
  extensions.toList.map fun list =>
    .around (.context 3 true) [.around .sequence (list.map Extension.toElement)]

def toElement (tbs : TbsCertificate) : Element :=
  .around .sequence
    (versionField tbs.version ++
      [⟨.integer, tbs.serialNumber⟩, tbs.signature.toElement,
        tbs.issuer.toElement, tbs.validity.toElement, tbs.subject.toElement,
        tbs.publicKey.toElement] ++
      uniqueIdField 1 tbs.issuerUniqueId ++
        uniqueIdField 2 tbs.subjectUniqueId ++
      extensionsField tbs.extensions)

def encode (tbs : TbsCertificate) : Bytes :=
  tbs.toElement.encode

end TbsCertificate

/-- A certificate: the signed part, the signature and its algorithm. -/
structure Certificate where
  tbs : TbsCertificate
  signatureAlgorithm : AlgorithmIdentifier
  signature : BitString
deriving DecidableEq

namespace Certificate

def ofElement? (e : Element) : Option Certificate := do
  match ← e.sequence? with
  | [tbs, signatureAlgorithm, signature] =>
    return {
      tbs := ← TbsCertificate.ofElement? tbs
      signatureAlgorithm := ← AlgorithmIdentifier.ofElement? signatureAlgorithm
      signature := ← BitString.ofElement? signature }
  | _ => none

def decode? (bs : Bytes) : Option Certificate :=
  (element? bs).bind ofElement?

def toElement (c : Certificate) : Element :=
  .around .sequence [c.tbs.toElement, c.signatureAlgorithm.toElement,
    c.signature.toElement]

def encode (c : Certificate) : Bytes :=
  c.toElement.encode

end Certificate

/-- The outermost structure of a signed object. What is signed stays an element
that nobody has looked into. -/
structure SignedEnvelope where
  signed : Element
  algorithm : AlgorithmIdentifier
  signature : BitString
deriving DecidableEq

namespace SignedEnvelope

def ofElement? (e : Element) : Option SignedEnvelope := do
  match ← e.sequence? with
  | [signed, algorithm, signature] =>
    return ⟨signed, ← AlgorithmIdentifier.ofElement? algorithm,
      ← BitString.ofElement? signature⟩
  | _ => none

def decode? (bs : Bytes) : Option SignedEnvelope :=
  (element? bs).bind ofElement?

/-- The octets that the signature is for. -/
def signedBytes (e : SignedEnvelope) : Bytes :=
  e.signed.encode

end SignedEnvelope

end TrustPath
