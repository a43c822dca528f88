import TrustPath.ExtensionPolicy.Validators

/-!
The rules of the public web: tables of rules for authorities, for servers and
for clients, and the policies made of them.
-/

namespace TrustPath.ExtensionPolicy.WebPki

open ExtensionValidator

def commonRules : List ExtensionRule :=
  [⟨.subjectDirectoryAttributes, .maybePresent, .nonCritical, none⟩,
    ⟨.authorityInfoAccess, .maybePresent, .nonCritical,
      some authorityInfoAccess⟩,
    ⟨.extKeyUsage, .maybePresent, .nonCritical, some extKeyUsage⟩]

def authorityRules : List ExtensionRule :=
  [⟨.authorityKeyIdentifier, .maybePresent, .nonCritical,
    some authorityKeyIdentifier⟩,
    ⟨.subjectKeyIdentifier, .maybePresent, .nonCritical, none⟩,
    ⟨.keyUsage, .mustBePresent, .agnostic, some authorityKeyUsage⟩,
    ⟨.basicConstraints, .mustBePresent, .critical, some authorityConstraints⟩,
    ⟨.nameConstraints, .maybePresent, .agnostic, some nameConstraints⟩,
    ⟨.policyConstraints, .maybePresent, .critical, none⟩]

/-- Rules for end entities, which differ in whether alternative names have to be
there. -/
def endEntityRules (altNames : Disposition) : List ExtensionRule :=
  [⟨.authorityKeyIdentifier, .mustBePresent, .nonCritical, none⟩,
    ⟨.keyUsage, .maybePresent, .agnostic, none⟩,
    ⟨.subjectAltName, altNames, .agnostic, some subjectAltName⟩,
    ⟨.basicConstraints, .maybePresent, .agnostic, some endEntityConstraints⟩,
    .notPresent .nameConstraints]

def serverRules : List ExtensionRule :=
  endEntityRules .mustBePresent

def clientRules : List ExtensionRule :=
  endEntityRules .maybePresent

def authorities : ExtensionPolicy :=
  ⟨commonRules ++ authorityRules⟩

def servers : ExtensionPolicy :=
  ⟨commonRules ++ serverRules⟩

def clients : ExtensionPolicy :=
  ⟨commonRules ++ clientRules⟩

end TrustPath.ExtensionPolicy.WebPki
