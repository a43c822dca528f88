import TrustPath.Oid

/-!
The object identifiers that certification path validation knows by name.
-/

namespace TrustPath.Oid

/-! ### Public key algorithms and curves -/

/-- Identifier 1.2.840.113549.1.1.1 of RSA keys. -/
def rsaEncryption : Oid :=
  ⟨[0x2a, 0x86, 0x48, 0x86, 0xf7, 0x0d, 0x01, 0x01, 0x01]⟩

/-- Identifier 1.2.840.10045.2.1 of elliptic curve keys. -/
def ecPublicKey : Oid :=
  ⟨[0x2a, 0x86, 0x48, 0xce, 0x3d, 0x02, 0x01]⟩

/-- Identifier 1.2.840.10045.3.1.7 of the curve P-256. -/
def secp256r1 : Oid :=
  ⟨[0x2a, 0x86, 0x48, 0xce, 0x3d, 0x03, 0x01, 0x07]⟩

/-- Identifier 1.3.132.0.34 of the curve P-384. -/
def secp384r1 : Oid :=
  ⟨[0x2b, 0x81, 0x04, 0x00, 0x22]⟩

/-! ### Signature algorithms -/

/-- Identifier 1.2.840.113549.1.1.11 of RSA PKCS #1 v1.5 with SHA-256. -/
def rsaSha256 : Oid :=
  ⟨[0x2a, 0x86, 0x48, 0x86, 0xf7, 0x0d, 0x01, 0x01, 0x0b]⟩

/-- Identifier 1.2.840.113549.1.1.12 of RSA PKCS #1 v1.5 with SHA-384. -/
def rsaSha384 : Oid :=
  ⟨[0x2a, 0x86, 0x48, 0x86, 0xf7, 0x0d, 0x01, 0x01, 0x0c]⟩

/-- Identifier 1.2.840.113549.1.1.13 of RSA PKCS #1 v1.5 with SHA-512. -/
def rsaSha512 : Oid :=
  ⟨[0x2a, 0x86, 0x48, 0x86, 0xf7, 0x0d, 0x01, 0x01, 0x0d]⟩

/-- Identifier 1.2.840.113549.1.1.10 of RSASSA-PSS, whose parameters name the
digest. -/
def rsaPss : Oid :=
  ⟨[0x2a, 0x86, 0x48, 0x86, 0xf7, 0x0d, 0x01, 0x01, 0x0a]⟩

/-- Identifier 1.2.840.10045.4.3.2 of ECDSA with SHA-256. -/
def ecdsaSha256 : Oid :=
  ⟨[0x2a, 0x86, 0x48, 0xce, 0x3d, 0x04, 0x03, 0x02]⟩

/-- Identifier 1.2.840.10045.4.3.3 of ECDSA with SHA-384. -/
def ecdsaSha384 : Oid :=
  ⟨[0x2a, 0x86, 0x48, 0xce, 0x3d, 0x04, 0x03, 0x03]⟩

/-- Identifier 1.2.840.10045.4.3.4 of ECDSA with SHA-512. -/
def ecdsaSha512 : Oid :=
  ⟨[0x2a, 0x86, 0x48, 0xce, 0x3d, 0x04, 0x03, 0x04]⟩

/-! ### Key purposes -/

/-- Identifier 1.3.6.1.5.5.7.3.1 of authentication of servers as a key
purpose. -/
def serverAuth : Oid :=
  ⟨[0x2b, 0x06, 0x01, 0x05, 0x05, 0x07, 0x03, 0x01]⟩

/-- Identifier 1.3.6.1.5.5.7.3.2 of authentication of clients as a key
purpose. -/
def clientAuth : Oid :=
  ⟨[0x2b, 0x06, 0x01, 0x05, 0x05, 0x07, 0x03, 0x02]⟩

/-- Identifier 2.5.29.37.0 of every purpose as a key purpose. -/
def anyPurpose : Oid :=
  ⟨[0x55, 0x1d, 0x25, 0x00]⟩

/-! ### Certificate extensions -/

/-- Identifier 2.5.29.9 of the extension subjectDirectoryAttributes. -/
def subjectDirectoryAttributes : Oid :=
  ⟨[0x55, 0x1d, 0x09]⟩

/-- Identifier 2.5.29.14 of the extension subjectKeyIdentifier. -/
def subjectKeyIdentifier : Oid :=
  ⟨[0x55, 0x1d, 0x0e]⟩

/-- Identifier 2.5.29.15 of the extension keyUsage. -/
def keyUsage : Oid :=
  ⟨[0x55, 0x1d, 0x0f]⟩

/-- Identifier 2.5.29.17 of the extension subjectAltName. -/
def subjectAltName : Oid :=
  ⟨[0x55, 0x1d, 0x11]⟩

/-- Identifier 2.5.29.19 of the extension basicConstraints. -/
def basicConstraints : Oid :=
  ⟨[0x55, 0x1d, 0x13]⟩

/-- Identifier 2.5.29.30 of the extension nameConstraints. -/
def nameConstraints : Oid :=
  ⟨[0x55, 0x1d, 0x1e]⟩

/-- Identifier 2.5.29.35 of the extension authorityKeyIdentifier. -/
def authorityKeyIdentifier : Oid :=
  ⟨[0x55, 0x1d, 0x23]⟩

/-- Identifier 2.5.29.36 of the extension policyConstraints. -/
def policyConstraints : Oid :=
  ⟨[0x55, 0x1d, 0x24]⟩

/-- Identifier 2.5.29.37 of the extension extKeyUsage. -/
def extKeyUsage : Oid :=
  ⟨[0x55, 0x1d, 0x25]⟩

/-- Identifier 1.3.6.1.5.5.7.1.1 of the extension authorityInfoAccess. -/
def authorityInfoAccess : Oid :=
  ⟨[0x2b, 0x06, 0x01, 0x05, 0x05, 0x07, 0x01, 0x01]⟩

end TrustPath.Oid
