import TrustPath.Certificate.Encoded
import TrustPath.Log

/-!
Trust anchors: certificates whose subject and key are trusted as they are. A
store keeps them in order, and keeps the first of those with one subject and one
key.
-/

namespace TrustPath

/-- A certificate whose subject and key are trusted. -/
structure TrustAnchor where
  certificate : EncodedCertificate
deriving DecidableEq

namespace TrustAnchor

def subject (a : TrustAnchor) : Name :=
  a.certificate.subject

def publicKey (a : TrustAnchor) : PublicKey :=
  a.certificate.publicKey

def nameConstraints? (a : TrustAnchor) : Option NameConstraints :=
  a.certificate.nameConstraints?

/-- Whether two anchors trust the same key under the same name. -/
def isSame (a b : TrustAnchor) : Bool :=
  a.subject = b.subject && a.publicKey = b.publicKey

end TrustAnchor

/-- Trust anchors in order. -/
structure TrustStore where
  anchors : List TrustAnchor
deriving DecidableEq

namespace TrustStore

/-- Adds certificates as anchors, except for those that repeat an anchor, which
are logged. -/
def addAll (anchors : List TrustAnchor) : List EncodedCertificate → Logged
      (List TrustAnchor)
  | [] => .quiet anchors
  | c :: rest =>
    if anchors.any fun a => a.isSame ⟨c⟩ then
      let others := addAll anchors rest
      ⟨others.value,
        ⟨.debug, "Ignoring duplicate trust anchor for " ++ c.subject.text⟩ ::
        others.log⟩
    else addAll (anchors ++ [⟨c⟩]) rest

def ofCertificates (certificates : List EncodedCertificate) :
    Logged (Except Failure TrustStore) :=
  match certificates with
  | [] => .quiet (.error (.misconfigured .emptyTrustStore))
  | _ :: _ =>
    let added := addAll [] certificates
    ⟨.ok ⟨added.value⟩,
      added.log ++ [⟨.info,
        "Initialized trust store with " ++ toString added.value.length ++
        " anchors"⟩]⟩

def named (store : TrustStore) (name : Name) : List TrustAnchor :=
  store.anchors.filter fun a => a.subject.isMatch name

/-- Whether some anchor's subject matches a certificate's issuer. -/
def hasIssuerOf (store : TrustStore) (c : EncodedCertificate) : Bool :=
  !(store.named c.issuer).isEmpty

end TrustStore

end TrustPath
