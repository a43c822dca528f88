import TrustPath.Extension.Content
import TrustPath.Failure
import TrustPath.Name.Matching
import TrustPath.Text.Quoted

/-!
Certificates together with their encoding, the octets that were signed, and the
contents of the extensions that are recognized. A certificate with a recognized
extension that cannot be read is none.
-/

namespace TrustPath

open Der

abbrev ExtensionContents := List (Oid × ExtensionContent)

namespace ExtensionContents

/-- Adds the contents of an extension, in place of those under the same
identifier. -/
def insert (contents : ExtensionContents) (id : Oid)
    (content : ExtensionContent) : ExtensionContents :=
  contents.filter (fun entry => entry.1 ≠ id) ++ [(id, content)]

def find? (contents : ExtensionContents) (id : Oid) : Option ExtensionContent :=
  (List.find? (fun entry => entry.1 = id) contents).map Prod.snd

/-- Reads the recognized extensions of a list in order; of several with one
identifier the last one stays. -/
def addAll? (contents : ExtensionContents) :
    List Extension → Option ExtensionContents
  | [] => some contents
  | x :: rest =>
    if ExtensionContent.recognized.contains x.id then
      match ExtensionContent.decode? x.id x.value with
      | none => none
      | some content => addAll? (contents.insert x.id content) rest
    else addAll? contents rest

end ExtensionContents

/-- A certificate as path validation uses it. -/
structure EncodedCertificate where
  encoding : Bytes
  certificate : Certificate
  signedBytes : Bytes
  contents : ExtensionContents
deriving DecidableEq

namespace EncodedCertificate

def assemble? (encoding : Bytes) (certificate : Certificate) :
    Option EncodedCertificate := do
  let envelope ← SignedEnvelope.decode? encoding
  let contents ← ExtensionContents.addAll? []
      (certificate.tbs.extensions.getD [])
  return ⟨encoding, certificate, envelope.signedBytes, contents⟩

/-- Reads an encoding, which is kept as it is. -/
def ofBytes? (bs : Bytes) : Option EncodedCertificate := do
  assemble? bs (← Certificate.decode? bs)

def ofCertificate? (certificate : Certificate) : Option EncodedCertificate :=
  assemble? certificate.encode certificate

def subject (c : EncodedCertificate) : Name :=
  c.certificate.tbs.subject

def issuer (c : EncodedCertificate) : Name :=
  c.certificate.tbs.issuer

def publicKey (c : EncodedCertificate) : PublicKey :=
  c.certificate.tbs.publicKey

/-- The algorithm beside the signature, which is outside the signed part. -/
def signatureAlgorithm (c : EncodedCertificate) : AlgorithmIdentifier :=
  c.certificate.signatureAlgorithm

def signature (c : EncodedCertificate) : Bytes :=
  c.certificate.signature.octets

/-- Whether subject and issuer match. -/
def isSelfIssued (c : EncodedCertificate) : Bool :=
  c.issuer.isMatch c.subject

/-- The extension with an identifier as it stands in the certificate, if there
is one. Two of them are a failure. -/
def findExtension (c : EncodedCertificate) (id : Oid) :
    Except Failure (Option Extension) :=
  match (c.certificate.tbs.extensions.getD []).filter fun x => x.id = id with
  | [] => .ok none
  | [x] => .ok (some x)
  | _ :: _ :: _ =>
    .error (.rejectedFor .invalidCertificate id
      (c.subject.text ++ " features duplicate instances of an extension"))

def content? (c : EncodedCertificate) (id : Oid) : Option ExtensionContent :=
  c.contents.find? id

def basicConstraints? (c : EncodedCertificate) : Option BasicConstraints :=
  match c.content? .basicConstraints with
  | some (.basicConstraints value) => some value
  | _ => none

def keyUsage? (c : EncodedCertificate) : Option (List KeyUse) :=
  match c.content? .keyUsage with
  | some (.keyUsage uses) => some uses
  | _ => none

def extKeyUsage? (c : EncodedCertificate) : Option (List Oid) :=
  match c.content? .extKeyUsage with
  | some (.extKeyUsage purposes) => some purposes
  | _ => none

def subjectAltName? (c : EncodedCertificate) : Option (List GeneralName) :=
  match c.content? .subjectAltName with
  | some (.subjectAltName names) => some names
  | _ => none

def nameConstraints? (c : EncodedCertificate) : Option NameConstraints :=
  match c.content? .nameConstraints with
  | some (.nameConstraints value) => some value
  | _ => none

/-- The beginning of the diagnostic text of a certificate: its subject and its
issuer, quoted. -/
def diagnosticText (c : EncodedCertificate) : String :=
  "PDVCertificate \x7b subject: " ++ Text.quoted c.subject.text ++
    ", issuer: " ++ Text.quoted c.issuer.text ++ ", "

end EncodedCertificate

end TrustPath
