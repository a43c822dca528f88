import TrustPath.Failure
import TrustPath.Log
import TrustPath.Signature.Ecdsa
import TrustPath.Signature.Rsa

/-!
Checking a signature with the algorithm that an algorithm identifier names: RSA
PKCS #1 v1.5, RSASSA-PSS in three parameter profiles, and ECDSA over two curves.
What cannot be checked is logged as an error and refused.
-/

namespace TrustPath

open Der

/-- Which signature scheme an algorithm names. -/
inductive SignatureScheme where
  | rsaPkcs1 (digest : Digest)
  | rsaPss
  | ecdsa (digest : Digest)
deriving DecidableEq

def SignatureScheme.ofAlgorithm? (algorithm : Oid) : Option SignatureScheme :=
  if algorithm = .rsaSha256 then some (.rsaPkcs1 .sha256)
  else if algorithm = .rsaSha384 then some (.rsaPkcs1 .sha384)
  else if algorithm = .rsaSha512 then some (.rsaPkcs1 .sha512)
  else if algorithm = .rsaPss then some .rsaPss
  else if algorithm = .ecdsaSha256 then some (.ecdsa .sha256)
  else if algorithm = .ecdsaSha384 then some (.ecdsa .sha384)
  else if algorithm = .ecdsaSha512 then some (.ecdsa .sha512)
  else none

/-- The PSS parameters under which a digest is supported: the digest for the
message and for the mask, and a salt as long as the digest. -/
def pssParameters (digest : Digest) : Bytes :=
  [0x30, 0x34, 0xa0, 0x0f, 0x30, 0x0d, 0x06, 0x09, 0x60, 0x86, 0x48, 0x01, 0x65,
    0x03, 0x04, 0x02, digest.arc, 0x05, 0x00, 0xa1, 0x1c, 0x30, 0x1a, 0x06,
    0x09, 0x2a, 0x86, 0x48, 0x86, 0xf7, 0x0d, 0x01, 0x01, 0x08, 0x30, 0x0d,
    0x06, 0x09, 0x60, 0x86, 0x48, 0x01, 0x65, 0x03, 0x04, 0x02, digest.arc,
    0x05, 0x00, 0xa2, 0x03, 0x02, 0x01, UInt8.ofNat digest.size]

/-- The digest of a PSS algorithm identifier, if its parameters are exactly one
of the profiles. -/
def pssDigest? (algorithm : AlgorithmIdentifier) : Option Digest :=
  if algorithm.algorithm = .rsaPss then
    algorithm.parameters.bind fun parameters =>
      Digest.all.find? fun digest => parameters.encode = pssParameters digest
  else none

def namedCurve (algorithm : AlgorithmIdentifier) : Except Failure Oid :=
  match algorithm.namedCurve? with
  | some curve => .ok curve
  | none =>
    .error (.rejectedAs .prohibitedAlgorithm "public key does not name a curve")

/-- The procedures that the schemes are made of: how keys and signatures are
read, and whether a signature is one of a message, or of its digest. -/
structure SignatureProcedures where
  rsaKey? : PublicKey → Option Rsa.Key
  verifyPkcs1 : Digest → Rsa.Key → Bytes → Bytes → Bool
  verifyPss : Digest → Rsa.Key → Bytes → Bytes → Bool
  point? : Ecdsa.Curve → Bytes → Option Ecdsa.Point
  ecdsaSignature? : Ecdsa.Curve → Bytes → Option Ecdsa.Signature
  verifyEcdsa : Ecdsa.Curve → Ecdsa.Point → Bytes → Ecdsa.Signature → Bool

def SignatureProcedures.standard : SignatureProcedures where
  rsaKey? := Rsa.key?
  verifyPkcs1 := Rsa.verifyPkcs1
  verifyPss := Rsa.verifyPss
  point? := Ecdsa.Curve.point?
  ecdsaSignature? := Ecdsa.signature?
  verifyEcdsa := Ecdsa.verify

namespace SignatureCheck

abbrev Outcome := Logged (Except Failure Unit)

/-- The algorithm or the key is not supported. -/
def unsupported (message : String) : Outcome :=
  .noting .error message (.error (.rejectedAs .prohibitedAlgorithm message))

/-- A signature that was checked with the algorithm's own procedure. -/
def judged (isValid : Bool) : Outcome :=
  .quiet (if isValid then .ok ()
    else .error (.rejectedAs .signatureVerificationFailure
      "signature did not verify"))

/-- Checks an RSA signature; the key is looked at first. To that end it is
encoded, which fails only for a key above the greatest length; no key that was
read is, and none is looked for. -/
def checkRsa (procedures : SignatureProcedures) (key : PublicKey)
    (verify : Rsa.Key → Outcome) : Outcome :=
  match procedures.rsaKey? key with
  | none => unsupported "failed to parse RSA public key"
  | some k => verify k

/-- Checks an ECDSA signature on a curve; the key is read before the
signature. -/
def checkOnCurve (procedures : SignatureProcedures) (curve : Ecdsa.Curve)
    (curveName : String) (digest : Digest) (message signature : Bytes)
    (key : PublicKey) : Outcome :=
  match procedures.point? curve key.key.octets with
  | none => unsupported ("failed to parse " ++ curveName ++ " public key")
  | some point =>
    match procedures.ecdsaSignature? curve signature with
    | none => judged false
    | some s =>
        judged (procedures.verifyEcdsa curve point (digest.hash message) s)

def checkEcdsa (procedures : SignatureProcedures) (digest : Digest)
    (message signature : Bytes) (key : PublicKey) : Outcome :=
  match namedCurve key.algorithm with
  | .error e => .quiet (.error e)
  | .ok curve =>
    if curve = .secp256r1 then
      checkOnCurve procedures Ecdsa.p256 "P-256" digest message signature key
    else if curve = .secp384r1 then
      checkOnCurve procedures Ecdsa.p384 "P-384" digest message signature key
    else unsupported ("Unsupported named curve " ++ curve.text)

/-- Checks a signature on a message with the algorithm that the identifier
names, by the procedures given. -/
def checkWith (procedures : SignatureProcedures) (message signature : Bytes)
    (algorithm : AlgorithmIdentifier) (key : PublicKey) : Outcome :=
  match SignatureScheme.ofAlgorithm? algorithm.algorithm with
  | some (.rsaPkcs1 digest) =>
    checkRsa procedures key fun k =>
      judged (procedures.verifyPkcs1 digest k message signature)
  | some .rsaPss =>
    checkRsa procedures key fun k =>
      match pssDigest? algorithm with
      | none => unsupported "unsupported RSASSA-PSS parameters"
      | some digest => judged (procedures.verifyPss digest k message signature)
  | some (.ecdsa digest) => checkEcdsa procedures digest message signature key
  | none =>
    unsupported ("Unrecognized signature algorithm: " ++
      algorithm.algorithm.text)

/-- Checks a signature on a message with the algorithm that the identifier
names. -/
def check (message signature : Bytes) (algorithm : AlgorithmIdentifier)
    (key : PublicKey) : Outcome :=
  checkWith .standard message signature algorithm key

end SignatureCheck

/-- A way of checking signatures: message, signature, algorithm and key. One
that does not know the algorithm or the kind of key fails, so that another may
answer. -/
abbrev SignatureChecker := Bytes → Bytes → AlgorithmIdentifier → PublicKey →
    SignatureCheck.Outcome

/-- A function that an environment asks. It is handed the environment, too, and
may ask it in turn, or one that it makes of it. An environment is nothing but a
list of functions of the program, so all that a function learns from it depends
on where these stand. -/
structure RegisteredChecker where
  /-- Where the function stands in the program. -/
  address : Nat
  /-- What the function does when it is handed an environment of the functions
  at some addresses. -/
  run : List Nat → SignatureChecker

/-- The ways of checking signatures that are available, in the order in which
they are asked. -/
structure SignatureEnvironment where
  checkers : List RegisteredChecker

namespace SignatureEnvironment

def empty : SignatureEnvironment :=
  ⟨[]⟩

def addresses (environment : SignatureEnvironment) : List Nat :=
  environment.checkers.map (·.address)

def register (environment : SignatureEnvironment)
    (checker : RegisteredChecker) : SignatureEnvironment :=
  ⟨environment.checkers ++ [checker]⟩

/-- An address at which none of the functions stands. -/
def freeAddress (environment : SignatureEnvironment) : Nat :=
  environment.addresses.foldr (fun address free => max (address + 1) free) 0

/-- Adds a function of its own that makes nothing of the environment it is
handed. -/
def add (environment : SignatureEnvironment) (checker : SignatureChecker) :
    SignatureEnvironment :=
  environment.register ⟨environment.freeAddress, fun _ => checker⟩

def clear (_environment : SignatureEnvironment) : SignatureEnvironment :=
  empty

def addStandard (environment : SignatureEnvironment) : SignatureEnvironment :=
  environment.add SignatureCheck.check

/-- The library's own checks alone. -/
def standard : SignatureEnvironment :=
  empty.addStandard

/-- Asks one way after the other until one accepts; if none does, the last
failure stands. -/
def ask (run : RegisteredChecker → SignatureCheck.Outcome) (last : Failure) :
    List RegisteredChecker → SignatureCheck.Outcome
  | [] => .quiet (.error last)
  | checker :: rest =>
    match run checker with
    | ⟨.ok (), log⟩ => ⟨.ok (), log⟩
    | ⟨.error e, log⟩ =>
      let others := ask run e rest
      ⟨others.value, log ++ others.log⟩

/-- Asks functions about a signature, each of which is handed the environment of
some addresses. -/
def askHanding (handed : List Nat) (checkers : List RegisteredChecker)
    (message signature : Bytes) (algorithm : AlgorithmIdentifier)
    (key : PublicKey) : SignatureCheck.Outcome :=
  ask (fun checker => checker.run handed message signature algorithm key)
    (.rejectedAs .signatureVerificationFailure
      ("no signature verification support registered for " ++
        algorithm.algorithm.text))
    checkers

/-- Checks a signature with the ways that are available; each of them is handed
the environment. -/
def verify (environment : SignatureEnvironment) (message signature : Bytes)
    (algorithm : AlgorithmIdentifier) (key : PublicKey) :
    SignatureCheck.Outcome :=
  askHanding environment.addresses environment.checkers message signature
    algorithm key

end SignatureEnvironment

end TrustPath
