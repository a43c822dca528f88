import TrustPath.ExtensionPolicy
import TrustPath.NameSubtrees
import TrustPath.Path

/-!
The search for a certification path. It is depth first: a path is closed by an
anchor that issued its top certificate, or else continued with one intermediate
after the other in the order given. An intermediate is on a path at most once,
so no path is longer than the number of different certificates. Two budgets
bound the work. `PathSearch.run` answers the first path in this order, or the
first failure at the greatest length, and the progress made.
-/

namespace TrustPath

/-- A failure, and the length of the path on which it arose. -/
structure PathFailure where
  length : Nat
  failure : Failure
deriving DecidableEq

namespace PathFailure

/-- Of failures, the latest first, the earliest one at the greatest length. -/
def deepest? : List PathFailure → Option PathFailure
  | [] => none
  | f :: earlier =>
    match deepest? earlier with
    | none => some f
    | some g => if g.length < f.length then some f else some g

end PathFailure

/-- A path that was looked at for continuations, with its number of
intermediates that are not self-issued, as far as it is counted. -/
structure PathVisit where
  path : Path
  depth : Nat
deriving DecidableEq

/-- What a search has done so far. Lists have the latest entry first. -/
structure SearchProgress where
  /-- The signatures that were checked. -/
  signatureChecks : Nat
  /-- The possible issuers that were looked at. -/
  candidatesExamined : Nat
  /-- The paths that were looked at for continuations. -/
  visits : List PathVisit
  /-- The failures that arose. -/
  failures : List PathFailure
  /-- What was logged. -/
  log : List LogEntry
deriving DecidableEq

namespace SearchProgress

def start : SearchProgress :=
  ⟨0, 0, [], [], []⟩

def note (p : SearchProgress) (level : LogLevel) (text : String) :
    SearchProgress :=
  { p with log := ⟨level, text⟩ :: p.log }

def fail (p : SearchProgress) (path : Path) (failure : Failure) :
    SearchProgress :=
  { p with failures := ⟨path.length, failure⟩ :: p.failures }

def visit (p : SearchProgress) (path : Path) (depth : Nat) : SearchProgress :=
  { p with visits := ⟨path, depth⟩ :: p.visits }

end SearchProgress

/-- How the search of some part of the alternatives ends. -/
inductive SearchOutcome where
  | found (verified : VerifiedPath)
  | exhausted
  | aborted (failure : Failure)
deriving DecidableEq

abbrev SearchStep := SearchProgress → SearchOutcome × SearchProgress

/-- Tries alternatives in order until one does not end exhausted. -/
def tryEach {α : Type} (attempt : α → SearchStep) : List α → SearchStep
  | [], p => (.exhausted, p)
  | a :: rest, p =>
    match attempt a p with
    | (.exhausted, p) => tryEach attempt rest p
    | ended => ended

/-- What a search starts from. -/
structure PathSearch where
  environment : SignatureEnvironment
  policy : Policy
  /-- The rules for the extensions of intermediates. -/
  authorityRules : ExtensionPolicy
  store : TrustStore
  leaf : EncodedCertificate
  /-- Intermediates, of which no two, and none and the leaf, have one
  encoding. -/
  pool : List EncodedCertificate

namespace PathSearch

/-- Keeps the first certificate with each encoding that has not been seen. -/
def fresh (seen : List Bytes) : List EncodedCertificate →
      List EncodedCertificate
  | [] => []
  | c :: rest =>
    if seen.contains c.encoding then fresh seen rest
      else c :: fresh (c.encoding :: seen) rest

/-- A search for a path from a leaf by way of some of the intermediates
given. -/
def ofIntermediates (environment : SignatureEnvironment) (policy : Policy)
    (authorityRules : ExtensionPolicy) (store : TrustStore)
    (leaf : EncodedCertificate) (intermediates : List EncodedCertificate) :
    PathSearch :=
  ⟨environment, policy, authorityRules, store, leaf,
    fresh [leaf.encoding] intermediates⟩

/-- The checks of the leaf alone. -/
def checkLeaf (search : PathSearch) (leafRules : ExtensionPolicy) :
    Except Failure Unit := do
  search.policy.checkForm search.leaf
  Policy.checkAlgorithms search.leaf
  leafRules.check search.policy search.leaf
  search.policy.checkEndEntity search.leaf

/-- The count of intermediates stops here: no greater one can be written as a
limit. -/
def maxDepth : Nat := 255

/-- The number of intermediates that are not self-issued, with one more
above. -/
def depthAbove (c : EncodedCertificate) (depth : Nat) : Nat :=
  if c.isSelfIssued then depth else min (depth + 1) maxDepth

/-- The checks of a possible issuer that has `depth` intermediates below it;
answers the depth above it. -/
def checkCandidate (search : PathSearch) (c : EncodedCertificate)
    (depth : Nat) : Except Failure Nat := do
  search.policy.checkForm c
  Policy.checkAlgorithms c
  Policy.checkAuthority c depth
  let above := depthAbove c depth
  let maximum := search.policy.maxChainDepth.toNat
  if maximum < above then
    .error (.rejectedAs .invalidPathLength
      ("path would include " ++ toString above ++
        " intermediates, more than the maximum of " ++ toString maximum))
  else
    search.authorityRules.check search.policy c
    return above

def checkKeySizes (policy : Policy) : List PublicKey → Except Failure Unit
  | [] => .ok ()
  | key :: rest => do
    policy.checkKeySize key
    checkKeySizes policy rest

/-- Checks alternative names against every list of constraints. -/
def checkNames (names : List GeneralName) : List NameConstraints →
      Except Failure Unit
  | [] => .ok ()
  | constraints :: rest => do
    (NameSubtrees.ofConstraints constraints).check names
    checkNames names rest

/-- The checks that depend on a whole path and its anchor: the sizes of all
keys, and the leaf's alternative names against the name constraints of
everything above it. -/
def checkWholePath (search : PathSearch) (path : Path) (anchor : TrustAnchor) :
    Except Failure Unit := do
  checkKeySizes search.policy
    (path.certificates.map (·.publicKey) ++ [anchor.publicKey])
  match search.leaf.subjectAltName? with
  | none => return ()
  | some names =>
    checkNames names
      (path.intermediates.filterMap (·.nameConstraints?) ++
        anchor.nameConstraints?.toList)

def countCandidate (search : PathSearch) (p : SearchProgress) :
    Except Failure SearchProgress :=
  if search.policy.limits.maxCandidates.toNat ≤ p.candidatesExamined then
    .error (.rejectedAs .pathBuildingBudgetExceeded
      ("examined " ++ toString p.candidatesExamined ++
        " prospective issuers without finding a path"))
  else .ok { p with candidatesExamined := p.candidatesExamined + 1 }

/-- What a failure to verify a certificate's signature becomes. -/
def unverified (c : EncodedCertificate) : Failure → Failure
  | .rejected r =>
    .rejectedAs .signatureVerificationFailure
      ("signature on " ++ c.subject.text ++ " does not verify: " ++
        (Failure.rejected r).text)
  | failure => failure

/-- Checks the signature of a certificate with an issuer's key. -/
def verifies (search : PathSearch) (c : EncodedCertificate) (key : PublicKey) :
    SignatureCheck.Outcome :=
  search.environment.verify c.signedBytes c.signature c.signatureAlgorithm key

/-- Counts and makes a check of a certificate's signature, unless the budget is
used up. -/
def verifySignature (search : PathSearch) (c : EncodedCertificate)
    (key : PublicKey) (p : SearchProgress) :
    Except Failure (Except Failure Unit × SearchProgress) :=
  if search.policy.limits.maxSignatureChecks.toNat ≤ p.signatureChecks then
    .error (.rejectedAs .pathBuildingBudgetExceeded
      ("performed " ++ toString p.signatureChecks ++
        " signature verifications without finding a path"))
  else
    let outcome := search.verifies c key
    .ok (outcome.value.mapError (unverified c),
      { p with
        signatureChecks := p.signatureChecks + 1
        log := outcome.log.reverse ++ p.log })

/-- Tries to close a path with an anchor. -/
def attemptAnchor (search : PathSearch) (path : Path) (anchor : TrustAnchor) :
    SearchStep := fun p =>
  match search.countCandidate p with
  | .error e => (.aborted e, p)
  | .ok p =>
    match search.verifySignature path.top anchor.publicKey p with
    | .error e => (.aborted e, p)
    | .ok (.error e, p) =>
      (.exhausted,
        (p.note .debug ("Trust anchor " ++ anchor.subject.text ++
          " did not verify " ++ path.top.subject.text ++ ": " ++ e.text)).fail
          path e)
    | .ok (.ok (), p) =>
      match search.checkWholePath path anchor with
      | .ok () => (.found ⟨path, anchor⟩, p)
      | .error e =>
        (.exhausted,
          (p.note .debug
            ("Path terminating at " ++ anchor.subject.text ++ " rejected: " ++
              e.text)).fail path e)

def reject (path : Path) (candidate : EncodedCertificate) (e : Failure)
    (p : SearchProgress) : SearchOutcome × SearchProgress :=
  (.exhausted,
    (p.note .debug
      ("Rejected candidate with subject " ++ candidate.subject.text ++ ": " ++
        e.text)).fail path e)

/-- Tries to continue a path with an intermediate; `descend` searches the
continued path. -/
def attemptIssuer (search : PathSearch) (descend : Path → Nat → SearchStep)
    (path : Path) (depth : Nat) (candidate : EncodedCertificate) : SearchStep :=
  fun p =>
  match search.countCandidate p with
  | .error e => (.aborted e, p)
  | .ok p =>
    match search.checkCandidate candidate depth with
    | .error e => reject path candidate e p
    | .ok above =>
      match search.verifySignature path.top candidate.publicKey p with
      | .error e => (.aborted e, p)
      | .ok (.error e, p) => reject path candidate e p
      | .ok (.ok (), p) => descend (path.push candidate) above p

def anchorsFor (search : PathSearch) (path : Path) : List TrustAnchor :=
  search.store.named path.top.issuer

def issuersFor (search : PathSearch) (path : Path) : List EncodedCertificate :=
  search.pool.filter fun c => c.subject.isMatch path.top.issuer && !path.has c

/-- The failure of a path whose top certificate's issuer is unknown. -/
def noIssuer (c : EncodedCertificate) : Failure :=
  .rejectedAs .noPathsFound ("no issuer found for " ++ c.subject.text)

def visit (search : PathSearch) (descend : Path → Nat → SearchStep)
    (path : Path) (depth : Nat) : SearchStep := fun p =>
  match tryEach (search.attemptAnchor path) (search.anchorsFor path)
    (p.visit path depth) with
  | (.exhausted, p) =>
    match tryEach (search.attemptIssuer descend path depth)
      (search.issuersFor path) p with
    | (.exhausted, p) =>
      (.exhausted,
        if (search.anchorsFor path).isEmpty &&
        (search.issuersFor path).isEmpty then
          p.fail path (noIssuer path.top)
        else p)
    | ended => ended
  | ended => ended

/-- Searches the continuations of a path by at most `room` intermediates. -/
def explore (search : PathSearch) : (room : Nat) → Path → Nat → SearchStep
  | 0 => search.visit fun _ _ p => (.exhausted, p)
  | room + 1 => search.visit (search.explore room)

/-- Searches from the leaf. The pool has no more certificates than there is room
for. -/
def exploreAll (search : PathSearch) : SearchStep :=
  search.explore search.pool.length ⟨search.leaf, []⟩ 0

/-- Checks the leaf and searches for a path. -/
def run (search : PathSearch) (leafRules : ExtensionPolicy) :
    Except Failure VerifiedPath × SearchProgress :=
  let subject := search.leaf.subject.text
  match search.checkLeaf leafRules with
  | .error e =>
    (.error e,
      SearchProgress.start.note .info
        ("End entity certificate " ++ subject ++ " rejected: " ++ e.text))
  | .ok () =>
    match search.exploreAll .start with
    | (.aborted e, p) => (.error e, p)
    | (.found verified, p) =>
      (.ok verified,
        p.note .info ("Found path of length " ++
          toString verified.path.length ++ " for " ++
          subject ++ " terminating at " ++ verified.anchor.subject.text))
    | (.exhausted, p) =>
      let e := match PathFailure.deepest? p.failures with
        | some deepest => deepest.failure
        | none => noIssuer search.leaf
      (.error e, p.note .info ("No valid path found for " ++ subject ++ ": " ++
        e.text))

end PathSearch

end TrustPath
