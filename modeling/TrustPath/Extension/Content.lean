import TrustPath.Certificate
import TrustPath.GeneralName

/-!
The contents of the extensions that take part in path validation, one type for
each, and how the value of an extension is read as the type that belongs to its
identifier.
-/

namespace TrustPath

open Der

/-- Whether a key belongs to an authority, and how many intermediates may follow
one. -/
structure BasicConstraints where
  isAuthority : Bool
  pathLength : Option UInt8
deriving DecidableEq

namespace BasicConstraints

def authorityFlag? : List Element → Option (Bool × List Element)
  | e :: rest =>
    if e.tag = .boolean then (boolean? e.contents).map fun flag => (flag, rest)
    else some (false, e :: rest)
  | [] => some (false, [])

/-- Reads a value; a flag that is not written is off. -/
def ofElement? (e : Element) : Option BasicConstraints := do
  let (isAuthority, rest) ← authorityFlag? (← e.sequence?)
  match rest with
  | [] => return ⟨isAuthority, none⟩
  | [n] =>
    return ⟨isAuthority,
      some (UInt8.ofNat (← natBelow? 256 (← n.expect? .integer)))⟩
  | _ => none

end BasicConstraints

/-- What a key may be used for. -/
inductive KeyUse where
  | digitalSignature
  | nonRepudiation
  | keyEncipherment
  | dataEncipherment
  | keyAgreement
  | keyCertSign
  | crlSign
  | encipherOnly
  | decipherOnly
deriving DecidableEq

def KeyUse.all : List KeyUse :=
  [.digitalSignature, .nonRepudiation, .keyEncipherment, .dataEncipherment,
    .keyAgreement, .keyCertSign, .crlSign, .encipherOnly, .decipherOnly]

/-- The uses that a bit string of at most sixteen bits turns on. Bits after the
last use have no meaning. -/
def keyUses? (e : Element) : Option (List KeyUse) := do
  let bits := (← BitString.ofElement? e).bits
  if bits.length ≤ 16 then
    return ((KeyUse.all.zip bits).filter Prod.snd).map Prod.fst
  else none

/-- How to reach a service of an authority. -/
structure AccessDescription where
  method : Oid
  location : GeneralName
deriving DecidableEq

def AccessDescription.ofElement? (e : Element) : Option AccessDescription := do
  match ← e.sequence? with
  | [method, location] =>
      return ⟨← oid? method, ← GeneralName.ofElement? location⟩
  | _ => none

/-- A primitive field that may be missing, read from its contents. -/
def primitiveField? {α : Type} (read? : Bytes → Option α) :
    Option Element → Option (Option α)
  | none => some none
  | some field =>
    if field.tag.isConstructed then none else (read? field.contents).map some

/-- A constructed field that may be missing, read from its contents. -/
def constructedField? {α : Type} (read? : Bytes → Option α) :
    Option Element → Option (Option α)
  | none => some none
  | some field =>
    if field.tag.isConstructed then (read? field.contents).map some else none

def nat32? : Bytes → Option Nat :=
  natBelow? UInt32.size

/-- A subtree of names. -/
structure Subtree where
  base : GeneralName
  minimum : Nat
  maximum : Option Nat
deriving DecidableEq

/-- Reads a subtree; a minimum that is not written is zero. -/
def Subtree.ofElement? (e : Element) : Option Subtree := do
  match ← e.sequence? with
  | base :: rest =>
    let (minimum, rest) := takeField 0 rest
    let (maximum, rest) := takeField 1 rest
    match rest with
    | [] =>
      return {
        base := ← GeneralName.ofElement? base
        minimum := (← primitiveField? nat32? minimum).getD 0
        maximum := ← primitiveField? nat32? maximum }
    | _ :: _ => none
  | [] => none

def Subtree.list? (contents : Bytes) : Option (List Subtree) := do
  (← elements? contents).mapM Subtree.ofElement?

/-- The subtrees in which the names of certificates further down may lie, and
those where they may not. -/
structure NameConstraints where
  permitted : Option (List Subtree)
  excluded : Option (List Subtree)
deriving DecidableEq

def NameConstraints.ofElement? (e : Element) : Option NameConstraints := do
  let (permitted, rest) := takeField 0 (← e.sequence?)
  let (excluded, rest) := takeField 1 rest
  match rest with
  | [] =>
    return ⟨← constructedField? Subtree.list? permitted,
      ← constructedField? Subtree.list? excluded⟩
  | _ :: _ => none

/-- Which key of an authority signed the certificate. -/
structure AuthorityKeyIdentifier where
  keyIdentifier : Option Bytes
  issuer : Option (List GeneralName)
  serialNumber : Option Bytes
deriving DecidableEq

def AuthorityKeyIdentifier.ofElement? (e : Element) :
    Option AuthorityKeyIdentifier := do
  let (keyIdentifier, rest) := takeField 0 (← e.sequence?)
  let (issuer, rest) := takeField 1 rest
  let (serialNumber, rest) := takeField 2 rest
  match rest with
  | [] =>
    return {
      keyIdentifier := ← primitiveField? some keyIdentifier
      issuer := ← constructedField? GeneralName.list? issuer
      serialNumber := ← primitiveField? serialNumber? serialNumber }
  | _ :: _ => none

/-- After how many certificates policies have to be explicit, or may not be
mapped any more. -/
structure PolicyConstraints where
  requireExplicitPolicy : Option Nat
  inhibitPolicyMapping : Option Nat
deriving DecidableEq

def PolicyConstraints.ofElement? (e : Element) : Option PolicyConstraints := do
  let (requireExplicitPolicy, rest) := takeField 0 (← e.sequence?)
  let (inhibitPolicyMapping, rest) := takeField 1 rest
  match rest with
  | [] =>
    return ⟨← primitiveField? nat32? requireExplicitPolicy,
      ← primitiveField? nat32? inhibitPolicyMapping⟩
  | _ :: _ => none

/-- The contents of an extension that takes part in path validation. -/
inductive ExtensionContent where
  | basicConstraints (value : BasicConstraints)
  | keyUsage (uses : List KeyUse)
  | extKeyUsage (purposes : List Oid)
  | subjectAltName (names : List GeneralName)
  | nameConstraints (value : NameConstraints)
  | authorityKeyIdentifier (value : AuthorityKeyIdentifier)
  | subjectKeyIdentifier (key : Bytes)
  | policyConstraints (value : PolicyConstraints)
  | authorityInfoAccess (descriptions : List AccessDescription)
deriving DecidableEq

namespace ExtensionContent

/-- The extensions whose contents are read when a certificate is. -/
def recognized : List Oid :=
  [.basicConstraints, .keyUsage, .extKeyUsage, .subjectAltName,
    .nameConstraints, .authorityKeyIdentifier, .subjectKeyIdentifier,
    .policyConstraints, .authorityInfoAccess]

def altNames? (e : Element) : Option (List GeneralName) :=
  (e.expect? .sequence).bind GeneralName.list?

/-- Reads an element as the type that belongs to a recognized identifier. -/
def ofElement? (id : Oid) (e : Element) : Option ExtensionContent :=
  if id = .basicConstraints then (BasicConstraints.ofElement? e).map
    basicConstraints
  else if id = .keyUsage then (keyUses? e).map keyUsage
  else if id = .extKeyUsage then do
    return extKeyUsage (← (← e.sequence?).mapM oid?)
  else if id = .subjectAltName then (altNames? e).map subjectAltName
  else if id = .nameConstraints then (NameConstraints.ofElement? e).map
    nameConstraints
  else if id = .authorityKeyIdentifier then
    (AuthorityKeyIdentifier.ofElement? e).map authorityKeyIdentifier
  else if id = .subjectKeyIdentifier then (e.expect? .octetString).map
    subjectKeyIdentifier
  else if id = .policyConstraints then (PolicyConstraints.ofElement? e).map
    policyConstraints
  else if id = .authorityInfoAccess then do
    return authorityInfoAccess
      (← (← e.sequence?).mapM AccessDescription.ofElement?)
  else none

/-- Reads the value of an extension as the type that belongs to its
identifier. -/
def decode? (id : Oid) (value : Bytes) : Option ExtensionContent :=
  (element? value).bind (ofElement? id)

end ExtensionContent

end TrustPath
