import TrustPath.Subject
import TrustPath.TrustStore

/-!
Certification paths: an end entity, and above it authorities of which each is
the issuer of the certificate before it.
-/

namespace TrustPath

/-- An end entity with some authorities above it, its own issuer first. -/
structure Path where
  leaf : EncodedCertificate
  intermediates : List EncodedCertificate
deriving DecidableEq

namespace Path

/-- The certificates from the end entity upwards. -/
def certificates (path : Path) : List EncodedCertificate :=
  path.leaf :: path.intermediates

def length (path : Path) : Nat :=
  path.certificates.length

/-- The certificate whose issuer comes next. -/
def top (path : Path) : EncodedCertificate :=
  path.intermediates.getLast?.getD path.leaf

def push (path : Path) (issuer : EncodedCertificate) : Path :=
  ⟨path.leaf, path.intermediates ++ [issuer]⟩

/-- Whether a certificate with the same encoding is on the path. -/
def has (path : Path) (c : EncodedCertificate) : Bool :=
  path.certificates.any fun other => other.encoding = c.encoding

end Path

/-- A path together with the anchor that issued its top certificate. -/
structure VerifiedPath where
  path : Path
  anchor : TrustAnchor
deriving DecidableEq

/-- What is known of a client: the path, and the names of its list of
alternative names, if it has one. -/
structure VerifiedClient where
  verified : VerifiedPath
  names : Option (List SubjectName)
deriving DecidableEq

/-- Reads the names of a verified client; they have to be of forms that can be
shown. -/
def VerifiedClient.ofPath (verified : VerifiedPath) :
    Except Failure VerifiedClient :=
  match verified.path.leaf.subjectAltName? with
  | none => .ok ⟨verified, none⟩
  | some entries =>
    match SubjectName.all? entries with
    | some names => .ok ⟨verified, some names⟩
    | none => .error .unsupportedName

end TrustPath
