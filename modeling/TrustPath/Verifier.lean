import TrustPath.ExtensionPolicy.WebPki
import TrustPath.PathSearch
import TrustPath.Settings

/-!
Verifiers, and how they are assembled from options. A server verifier expects a
subject; a client verifier expects nobody in particular and answers the names of
the client that it has verified.
-/

namespace TrustPath

/-- What every verifier has. -/
structure PathVerifier where
  policy : Policy
  store : TrustStore
  /-- The rules for the extensions of intermediates. -/
  authorityRules : ExtensionPolicy
  /-- The rules for the extensions of the end entity. -/
  leafRules : ExtensionPolicy
  environment : SignatureEnvironment

namespace PathVerifier

/-- The search from a leaf by way of some of the intermediates. -/
def search (verifier : PathVerifier) (leaf : EncodedCertificate)
    (intermediates : List EncodedCertificate) : PathSearch :=
  .ofIntermediates verifier.environment verifier.policy verifier.authorityRules
    verifier.store leaf
    intermediates

/-- Searches for a path; answers also the progress that the search has made. -/
def explore (verifier : PathVerifier) (leaf : EncodedCertificate)
    (intermediates : List EncodedCertificate) :
    Except Failure VerifiedPath × SearchProgress :=
  (verifier.search leaf intermediates).run verifier.leafRules

def verify (verifier : PathVerifier) (leaf : EncodedCertificate)
    (intermediates : List EncodedCertificate) :
    Logged (Except Failure VerifiedPath) :=
  let (outcome, progress) := verifier.explore leaf intermediates
  ⟨outcome, progress.log.reverse⟩

end PathVerifier

/-- A verifier of servers that have to be the subject. -/
structure ServerVerifier where
  inner : PathVerifier
  subject : Subject

def ServerVerifier.verify (verifier : ServerVerifier)
    (leaf : EncodedCertificate) (intermediates : List EncodedCertificate) :
    Logged (Except Failure VerifiedPath) :=
  verifier.inner.verify leaf intermediates

/-- A verifier of clients. -/
structure ClientVerifier where
  inner : PathVerifier

/-- Verifies a client's certificate, and reads the names of the client once a
path is found. -/
def ClientVerifier.verify (verifier : ClientVerifier)
    (leaf : EncodedCertificate) (intermediates : List EncodedCertificate) :
    Logged (Except Failure VerifiedClient) :=
  let found := verifier.inner.verify leaf intermediates
  ⟨found.value.bind VerifiedClient.ofPath, found.log⟩

/-- Options of a verifier. Those that are not set take their defaults when it is
assembled. -/
structure VerifierOptions where
  validationTime : Option DateTime
  store : Option TrustStore
  maxChainDepth : Option UInt8
  authorityRules : Option ExtensionPolicy
  leafRules : Option ExtensionPolicy
  purpose : Option Oid
  minimumRsaModulus : Option UInt64
  limits : Option SearchLimits
  environment : Option SignatureEnvironment

namespace VerifierOptions

def unset : VerifierOptions :=
  ⟨none, none, none, none, none, none, none, none, none⟩

/-- Sets the options that the settings give, and leaves the others. -/
def withSettings (options : VerifierOptions) (settings : PolicySettings) :
    Except Failure VerifierOptions := do
  let purpose ← settings.purpose?
  return { options with
    validationTime := settings.validationTime <|> options.validationTime
    maxChainDepth := settings.maxChainDepth <|> options.maxChainDepth
    minimumRsaModulus :=
      settings.minimumRsaModulus <|> options.minimumRsaModulus
    purpose := purpose <|> options.purpose
    limits := settings.limits <|> options.limits }

/-- Assembles a verifier. There has to be a store; the time of validation is
`now` unless set. -/
def assemble (options : VerifierOptions) (now : DateTime)
    (subject : Option Subject) (defaultPurpose : Oid)
    (defaultLeafRules : ExtensionPolicy) :
    Logged (Except Failure PathVerifier) :=
  match options.store with
  | none => .quiet (.error (.misconfigured .missingTrustStore))
  | some store =>
    let policy : Policy :=
      ⟨options.validationTime.getD now,
        options.maxChainDepth.getD defaultMaxChainDepth, subject,
        options.purpose.getD defaultPurpose,
        options.minimumRsaModulus.getD defaultMinimumRsaModulus,
          options.limits.getD .standard,
        plainKeyFault⟩
    .noting .debug
      ("Building verifier with validation time " ++
        policy.validationTime.text ++ " and maximum chain depth " ++
        toString policy.maxChainDepth.toNat)
      (.ok ⟨policy, store,
        options.authorityRules.getD ExtensionPolicy.WebPki.authorities,
        options.leafRules.getD defaultLeafRules,
          options.environment.getD .standard⟩)

/-- Assembles a verifier of servers. -/
def server (options : VerifierOptions) (now : DateTime) (subject : Subject) :
    Logged (Except Failure ServerVerifier) :=
  let inner := options.assemble now
      (some subject) .serverAuth ExtensionPolicy.WebPki.servers
  ⟨inner.value.map fun inner => ⟨inner, subject⟩, inner.log⟩

/-- Assembles a verifier of clients. -/
def client (options : VerifierOptions) (now : DateTime) :
    Logged (Except Failure ClientVerifier) :=
  let inner := options.assemble now none .clientAuth
      ExtensionPolicy.WebPki.clients
  ⟨inner.value.map fun inner => ⟨inner⟩, inner.log⟩

end VerifierOptions

end TrustPath
