import TrustPath.Certificate.Encoded
import TrustPath.Signature.Check
import TrustPath.Subject

/-!
The parameters of a validation, and the checks of a single certificate that
depend on nothing else.
-/

namespace TrustPath

/-- Bounds on the work of one search: signatures that are checked, and possible
issuers that are looked at. -/
structure SearchLimits where
  maxSignatureChecks : UInt64
  maxCandidates : UInt64
deriving DecidableEq

/-- The bounds that hold unless others are set. -/
def SearchLimits.standard : SearchLimits :=
  ⟨100, 1024⟩

/-- The number of intermediates allowed unless another is set. -/
def defaultMaxChainDepth : UInt8 := 8

/-- The least size of an RSA modulus allowed unless another is set. -/
def defaultMinimumRsaModulus : UInt64 := 2048

/-- The kinds of public keys that are permitted: RSA, and elliptic curve keys by
their curve. -/
def permittedKeyKinds : List Oid :=
  [.rsaEncryption, .secp256r1, .secp384r1]

def permittedSignatureAlgorithms : List Oid :=
  [.rsaSha256, .rsaSha384, .rsaSha512, .rsaPss, .ecdsaSha256, .ecdsaSha384,
    .ecdsaSha512]

/-- The kind of a public key: the curve of an elliptic curve key, the algorithm
of any other. -/
def PublicKey.kind (key : PublicKey) : Except Failure Oid :=
  if key.algorithm.algorithm = .ecPublicKey then namedCurve key.algorithm
  else .ok key.algorithm.algorithm

/-- The size of an RSA modulus in bits. What is said of octets that are no RSA
key is up to the reader of encodings, whose words are a parameter. -/
def PublicKey.rsaModulusBitsOr (key : PublicKey) (fault : Bytes → String) :
    Except Failure Nat :=
  match RsaPublicKey.ofOctets? key.key.octets with
  | some k => .ok k.modulusBits
  | none => .error (.malformed (fault key.key.octets))

/-- Words for octets that are no RSA key, where no reader has any. -/
def plainKeyFault (_octets : Bytes) : String :=
  "RSA public key could not be read"

def PublicKey.rsaModulusBits (key : PublicKey) : Except Failure Nat :=
  key.rsaModulusBitsOr plainKeyFault

/-- Whether a certificate is valid at a moment, both ends included; answers the
seconds that are left. A failure is logged unless logging is stifled. -/
def TbsCertificate.validAt (tbs : TbsCertificate) (now : DateTime)
    (stifleLog : Bool) : Logged (Except Failure Nat) :=
  let subject := tbs.subject.text
  let note (message : String) (failure : Failure) :
      Logged (Except Failure Nat) :=
    if stifleLog then .quiet (.error failure)
    else .noting .error
      ("Encountered error while processing certificate with subject " ++
        subject ++ ": " ++ message)
      (.error failure)
  let notBefore := tbs.validity.notBefore.moment
  let notAfter := tbs.validity.notAfter.moment
  if now.toSeconds < notBefore.toSeconds then
    note
      "certificate is not yet valid, i.e., not_before is after the validation time"
      (.rejectedAs .invalidNotBeforeDate
        (subject ++ " is not valid before " ++ notBefore.text))
  else if notAfter.toSeconds < now.toSeconds then
    note ("certificate is expired relative to the validation time: " ++
      notAfter.text)
      (.rejectedAs .invalidNotAfterDate
        (subject ++ " expired at " ++ notAfter.text))
  else .quiet (.ok (notAfter.toSeconds - now.toSeconds))

/-- The parameters of a validation. -/
structure Policy where
  /-- The moment at which every certificate of a path has to be valid. -/
  validationTime : DateTime
  /-- How many intermediates that are not self-issued a path may have. -/
  maxChainDepth : UInt8
  /-- Whom the end entity has to be, if it is a server. -/
  subject : Option Subject
  /-- The purpose that the end entity's key has to serve. -/
  purpose : Oid
  /-- The least size of an RSA modulus, in bits. -/
  minimumRsaModulus : UInt64
  /-- The bounds on the work of a search. -/
  limits : SearchLimits
  /-- What is said of octets that are no RSA key. -/
  keyFault : Bytes → String

namespace Policy

def invalid (c : EncodedCertificate) (what : String) : Failure :=
  .rejectedAs .invalidCertificate (c.subject.text ++ ": " ++ what)

/-- Whether a date is written with four digits of the year although two would
do. -/
def isNeedlesslyLong : CertificateTime → Bool
  | .general moment => moment.year < 2050
  | .utc _ => false

/-- The form of a certificate that is no anchor: version 3, the same algorithm
inside and outside the signed part, a serial number that is not negative, an
issuer, dates in their short form where there is one; and that it is valid at
the moment of validation. -/
def checkForm (policy : Policy) (c : EncodedCertificate) :
    Except Failure Unit :=
  let tbs := c.certificate.tbs
  if tbs.version ≠ .v3 then .error (invalid c "certificate is not X.509 v3")
  else if c.certificate.signatureAlgorithm ≠ tbs.signature then
    .error (invalid c
      "signatureAlgorithm does not match the signature field of the TBSCertificate")
  else if tbs.serialNumber = [] ∨ maxSerialLength < tbs.serialNumber.length then
    .error (invalid c "serial number has an invalid length")
  else if tbs.serialNumber.head?.any (fun b => 128 ≤ b.toNat) then
    .error (invalid c "serial number is negative")
  else if tbs.issuer.isEmpty then .error (invalid c "issuer name is empty")
  else if isNeedlesslyLong tbs.validity.notBefore ||
    isNeedlesslyLong tbs.validity.notAfter then
    .error
      (invalid c "GeneralizedTime used for a date that UTCTime can represent")
  else (tbs.validAt policy.validationTime true).value.map fun _ => ()

/-- The kind of the certificate's key and its signature algorithm have to be
permitted, and PSS only with parameters of a supported profile. -/
def checkAlgorithms (c : EncodedCertificate) : Except Failure Unit :=
  let prohibited (what : String) : Except Failure Unit :=
    .error (.rejectedAs .prohibitedAlgorithm (c.subject.text ++ ": " ++ what))
  let algorithm := c.signatureAlgorithm.algorithm
  match c.publicKey.kind with
  | .error e => .error e
  | .ok kind =>
    if !permittedKeyKinds.contains kind then
      prohibited ("public key algorithm " ++ kind.text ++ " is not permitted")
    else if !permittedSignatureAlgorithms.contains algorithm then
      prohibited ("signature algorithm " ++ algorithm.text ++
        " is not permitted")
    else if algorithm = .rsaPss && (pssDigest? c.signatureAlgorithm).isNone then
      prohibited "RSASSA-PSS parameters are not permitted"
    else .ok ()

def checkKeySize (policy : Policy) (key : PublicKey) : Except Failure Unit :=
  if key.algorithm.algorithm ≠ .rsaEncryption then .ok ()
  else match key.rsaModulusBitsOr policy.keyFault with
    | .error e => .error e
    | .ok bits =>
      let minimum := policy.minimumRsaModulus.toNat
      if bits < minimum then
        .error (.rejectedAs .prohibitedKeySize
          ("RSA modulus of " ++ toString bits ++
            " bits is smaller than the minimum of " ++
            toString minimum ++ " bits"))
      else .ok ()

/-- Whether a list of purposes has the policy's, or any purpose. -/
def allowsPurpose (policy : Policy) (purposes : List Oid) : Bool :=
  purposes.any fun purpose => purpose = policy.purpose || purpose = .anyPurpose

/-- The end entity's key has to serve the policy's purpose, if it lists
purposes, and the certificate has to name the policy's subject, if there is
one. -/
def checkEndEntity (policy : Policy) (leaf : EncodedCertificate) :
    Except Failure Unit :=
  if leaf.extKeyUsage?.any fun purposes => !policy.allowsPurpose purposes then
    .error (.rejectedAs .invalidExtendedKeyUsage
      (leaf.subject.text ++ " does not permit " ++ policy.purpose.text))
  else match policy.subject with
    | none => .ok ()
    | some subject =>
      if leaf.subjectAltName?.any subject.isMatch then .ok ()
      else .error (.rejectedAs .subjectMismatch
        (leaf.subject.text ++ " was not issued for " ++ subject.text))

/-- A possible issuer has to be an authority that may have `depth` intermediates
below it, and may sign certificates, if it lists the uses of its key. -/
def checkAuthority (c : EncodedCertificate) (depth : Nat) :
    Except Failure Unit :=
  let rejected (reason : Reason) (what : String) : Except Failure Unit :=
    .error (.rejectedAs reason (c.subject.text ++ what))
  match c.basicConstraints? with
  | none => rejected .missingBasicConstraints " lacks basicConstraints"
  | some constraints =>
    if !constraints.isAuthority then rejected .invalidBasicConstraints
      " is not a CA"
    else match constraints.pathLength.filter fun n => n.toNat < depth with
      | some n =>
        rejected .invalidPathLength
          (" asserts a pathLenConstraint of " ++ toString n.toNat ++
            " but has " ++ toString depth ++ " intermediates below it")
      | none =>
        if c.keyUsage?.any fun uses => !uses.contains .keyCertSign then
          rejected .invalidKeyUsage " lacks keyCertSign"
        else .ok ()

end Policy

end TrustPath
