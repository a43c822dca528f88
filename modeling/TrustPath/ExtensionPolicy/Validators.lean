import TrustPath.ExtensionPolicy

/-!
Checks of the content of single extensions. Each accepts the absence of its
extension.
-/

namespace TrustPath.ExtensionValidator

/-- A failure that says what is wrong with a certificate's extension. -/
def reject (c : EncodedCertificate) (what : String) : Except Failure Unit :=
  .error (.rejectedAs .extensionPolicyViolation
    (c.subject.text ++ ": " ++ what))

def whenPresent (x : Option Extension)
    (check : Extension → Except Failure Unit) : Except Failure Unit :=
  match x with
  | none => .ok ()
  | some x => check x

def authorityInfoAccess : ExtensionValidator := fun _ c x =>
  whenPresent x fun _ =>
    match c.content? .authorityInfoAccess with
    | some (.authorityInfoAccess (_ :: _)) => .ok ()
    | _ => reject c "authorityInfoAccess is empty"

/-- Whether a certificate asserts that it belongs to an authority. -/
def assertsAuthority (c : EncodedCertificate) : Bool :=
  c.basicConstraints?.any BasicConstraints.isAuthority

/-- An extKeyUsage extension lists a purpose, and in an authority's certificate
the policy's purpose or any purpose, since an authority limits what its
certificates are for. -/
def extKeyUsage : ExtensionValidator := fun policy c x =>
  whenPresent x fun _ =>
    match c.extKeyUsage? with
    | some (purpose :: rest) =>
      if assertsAuthority c && !policy.allowsPurpose (purpose :: rest) then
        reject c ("extKeyUsage does not permit " ++ policy.purpose.text)
      else .ok ()
    | _ => reject c "extKeyUsage is empty"

/-- An authority's authorityKeyIdentifier extension has a key identifier, and an
issuer if and only if it has a serial number. -/
def authorityKeyIdentifier : ExtensionValidator := fun _ c x =>
  whenPresent x fun _ =>
    match c.content? .authorityKeyIdentifier with
    | some (.authorityKeyIdentifier identifier) =>
      if identifier.keyIdentifier.isNone then
        reject c "authorityKeyIdentifier lacks keyIdentifier"
      else if identifier.issuer.isSome ≠ identifier.serialNumber.isSome then
        reject c
          "authorityKeyIdentifier features only one of authorityCertIssuer and authorityCertSerialNumber"
      else .ok ()
    | _ => reject c "authorityKeyIdentifier could not be read"

/-- An authority's keyUsage extension allows it to sign certificates. -/
def authorityKeyUsage : ExtensionValidator := fun _ c x =>
  whenPresent x fun _ =>
    if c.keyUsage?.any (·.contains .keyCertSign) then .ok ()
    else reject c "keyUsage does not assert keyCertSign"

/-- An authority's basicConstraints extension asserts that it is one. -/
def authorityConstraints : ExtensionValidator := fun _ c x =>
  whenPresent x fun _ =>
    if assertsAuthority c then .ok ()
      else reject c "basicConstraints does not assert cA"

/-- A nameConstraints extension has permitted or excluded subtrees. -/
def nameConstraints : ExtensionValidator := fun _ c x =>
  whenPresent x fun _ =>
    if c.nameConstraints?.any fun n =>
      n.permitted.isSome || n.excluded.isSome then .ok ()
    else reject c
      "nameConstraints features neither permittedSubtrees nor excludedSubtrees"

/-- An end entity's subjectAltName extension has a name, and is critical if
there is no subject. -/
def subjectAltName : ExtensionValidator := fun _ c x =>
  whenPresent x fun x =>
    match c.subjectAltName? with
    | some (_ :: _) =>
      if c.subject.isEmpty && !x.critical then
        reject c
          "subjectAltName must be critical when the subject name is empty"
      else .ok ()
    | _ => reject c "subjectAltName is empty"

/-- An end entity's basicConstraints extension does not assert that it is an
authority. -/
def endEntityConstraints : ExtensionValidator := fun _ c x =>
  whenPresent x fun _ =>
    if assertsAuthority c then reject c "end entity certificate asserts cA"
      else .ok ()

end TrustPath.ExtensionValidator
