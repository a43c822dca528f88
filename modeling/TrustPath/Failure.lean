import TrustPath.Oid

/-!
Why an operation fails: the causes as data, and the text of each.
-/

namespace TrustPath

/-- The reason for which a certificate or a path is rejected. -/
inductive Reason where
  | signatureVerificationFailure
  | invalidNotBeforeDate
  | invalidNotAfterDate
  | missingBasicConstraints
  | invalidBasicConstraints
  | invalidPathLength
  | invalidKeyUsage
  | invalidExtendedKeyUsage
  | nameConstraintsViolation
  | subjectMismatch
  | extensionPolicyViolation
  | prohibitedAlgorithm
  | prohibitedKeySize
  | invalidCertificate
  | noPathsFound
  | pathBuildingBudgetExceeded
deriving DecidableEq

namespace Reason

def name : Reason → String
  | signatureVerificationFailure => "SignatureVerificationFailure"
  | invalidNotBeforeDate => "InvalidNotBeforeDate"
  | invalidNotAfterDate => "InvalidNotAfterDate"
  | missingBasicConstraints => "MissingBasicConstraints"
  | invalidBasicConstraints => "InvalidBasicConstraints"
  | invalidPathLength => "InvalidPathLength"
  | invalidKeyUsage => "InvalidKeyUsage"
  | invalidExtendedKeyUsage => "InvalidExtendedKeyUsage"
  | nameConstraintsViolation => "NameConstraintsViolation"
  | subjectMismatch => "SubjectMismatch"
  | extensionPolicyViolation => "ExtensionPolicyViolation"
  | prohibitedAlgorithm => "ProhibitedAlg"
  | prohibitedKeySize => "ProhibitedKeySize"
  | invalidCertificate => "InvalidCertificate"
  | noPathsFound => "NoPathsFound"
  | pathBuildingBudgetExceeded => "PathBuildingBudgetExceeded"

/-- The reason as messages write it. -/
def text : Reason → String
  | signatureVerificationFailure => "Signature verification failure"
  | reason => reason.name

def all : List Reason :=
  [signatureVerificationFailure, invalidNotBeforeDate, invalidNotAfterDate,
    missingBasicConstraints, invalidBasicConstraints, invalidPathLength,
    invalidKeyUsage, invalidExtendedKeyUsage,
    nameConstraintsViolation, subjectMismatch, extensionPolicyViolation,
      prohibitedAlgorithm,
    prohibitedKeySize, invalidCertificate, noPathsFound,
      pathBuildingBudgetExceeded]

end Reason

/-- What is wrong with the parts from which a verifier is made. -/
inductive Misconfiguration where
  | emptyTrustStore
  | duplicateExtensionRule (id : Oid)
  | missingTrustStore
  | missingValidationTime
  | invalidSettings
deriving DecidableEq

def Misconfiguration.text : Misconfiguration → String
  | emptyTrustStore => "trust store contains no anchors"
  | duplicateExtensionRule id =>
    "extension " ++ id.text ++ " is already governed by this policy"
  | missingTrustStore => "no trust store was provided"
  | missingValidationTime => "no validation time was provided"
  | invalidSettings => "policy settings could not be parsed"

/-- A rejection: its reason, the extension that is to blame if one is, and a
message. -/
structure Rejection where
  reason : Reason
  extension : Option Oid
  message : String
deriving DecidableEq

def Rejection.text (r : Rejection) : String :=
  match r.extension with
  | some id => r.reason.text ++ " (" ++ id.text ++ "): " ++ r.message
  | none => r.reason.text ++ ": " ++ r.message

/-- Why an operation has no result. -/
inductive Failure where
  | misconfigured (cause : Misconfiguration)
  | rejected (rejection : Rejection)
  | unsupportedName
  | malformed (detail : String)
deriving DecidableEq

namespace Failure

def rejectedAs (reason : Reason) (message : String) : Failure :=
  rejected ⟨reason, none, message⟩

def rejectedFor (reason : Reason) (id : Oid) (message : String) : Failure :=
  rejected ⟨reason, some id, message⟩

/-- The reason, if the failure is a rejection. -/
def reason? : Failure → Option Reason
  | rejected r => some r.reason
  | _ => none

/-- The text of a failure. -/
def text : Failure → String
  | misconfigured cause => "ConfigurationError: " ++ cause.text
  | rejected r => "VerificationFailure: " ++ r.text
  | unsupportedName => "UnsupportedGeneralNameType"
  | malformed detail => "Asn1Error: " ++ detail

end Failure

end TrustPath
