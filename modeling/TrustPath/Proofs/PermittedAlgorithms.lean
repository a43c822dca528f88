import TrustPath.Proofs.ChainFamily
import TrustPath.Proofs.DerElements

/-!
Which keys and signature algorithms are permitted. The kind of a key is the
curve that its parameters name, if it is an elliptic curve key, and otherwise
its algorithm. One list serves for both, so that keys pass too which have an
identifier of one sort in the place of the other; all other keys that pass are
documented.
-/

namespace TrustPath

open Der

theorem AlgorithmIdentifier.namedCurve?_eq_some_iff {a : AlgorithmIdentifier}
    {curve : Oid} (hformed : Oid.ofContent? curve.content = some curve) :
    a.namedCurve? = some curve ↔ a.parameters = some (oidElement curve) := by
  rw [namedCurve?, Option.bind_eq_some_iff]
  constructor
  · rintro ⟨parameters, hparameters, hread⟩
    rw [hparameters, (oid?_eq_some_iff hformed).mp hread]
  · intro hparameters
    exact ⟨_, hparameters, (oid?_eq_some_iff hformed).mpr rfl⟩

theorem namedCurve_eq_ok_iff {a : AlgorithmIdentifier} {curve : Oid} :
    namedCurve a = .ok curve ↔ a.namedCurve? = some curve := by
  rw [namedCurve]
  cases a.namedCurve? with
  | none => exact ⟨nofun, nofun⟩
  | some named => rw [Except.ok.injEq, Option.some.injEq]

namespace PublicKey

variable {key : PublicKey} {kind : Oid}

/-- A documented key: one of RSA, or one on an elliptic curve that its
parameters name, P-256 or P-384. -/
inductive IsDocumented (key : PublicKey) : Prop where
  | rsa (algorithm : key.algorithm.algorithm = .rsaEncryption)
  | onCurve (curve : Oid) (algorithm : key.algorithm.algorithm = .ecPublicKey)
      (parameters : key.algorithm.parameters = some (oidElement curve))
      (known : curve = .secp256r1 ∨ curve = .secp384r1)

/-- An identifier stands in the place of one of the other sort: a curve for the
algorithm of a key, or the algorithm of RSA keys for the curve. -/
inductive IsMisnamed (key : PublicKey) : Prop where
  | curveAsAlgorithm (algorithm : key.algorithm.algorithm = .secp256r1 ∨
      key.algorithm.algorithm = .secp384r1)
  | rsaAsCurve (algorithm : key.algorithm.algorithm = .ecPublicKey)
      (parameters : key.algorithm.parameters = some (oidElement .rsaEncryption))

theorem mem_permittedKeyKinds_iff :
    kind ∈ permittedKeyKinds ↔ kind = .rsaEncryption ∨ kind = .secp256r1 ∨
      kind = .secp384r1 := by
  simp [permittedKeyKinds]

theorem formed_of_permitted (hkind : kind ∈ permittedKeyKinds) :
    Oid.ofContent? kind.content = some kind := by
  rcases mem_permittedKeyKinds_iff.mp hkind with rfl | rfl | rfl
  · decide
  · decide
  · decide

/-- A permitted kind is that of the elliptic curve keys whose parameters name
it, and of the keys for which it is the algorithm. -/
theorem kind_eq_ok_iff (hpermitted : kind ∈ permittedKeyKinds) :
    key.kind = .ok kind ↔
      (key.algorithm.algorithm = .ecPublicKey ∧
        key.algorithm.parameters = some (oidElement kind)) ∨
      key.algorithm.algorithm = kind := by
  rw [PublicKey.kind]
  by_cases hcurve : key.algorithm.algorithm = .ecPublicKey
  · have hne : Oid.ecPublicKey ≠ kind := by
      rintro rfl
      exact absurd hpermitted (by decide)
    rw [if_pos hcurve, namedCurve_eq_ok_iff,
      AlgorithmIdentifier.namedCurve?_eq_some_iff
      (formed_of_permitted hpermitted), hcurve,
      and_iff_right rfl, or_iff_left hne]
  · rw [if_neg hcurve, Except.ok.injEq, or_iff_right (mt And.left hcurve)]

/-- The kind of a key is permitted if the key is a documented one, or names the
wrong sort of thing. -/
theorem permitted_kind_iff :
    (∃ kind, key.kind = .ok kind ∧ kind ∈ permittedKeyKinds) ↔
      key.IsDocumented ∨ key.IsMisnamed := by
  have hrsa : Oid.rsaEncryption ∈ permittedKeyKinds := by decide
  constructor
  · rintro ⟨kind, hkind, hpermitted⟩
    rcases (kind_eq_ok_iff hpermitted).mp hkind
        with ⟨hcurve, hparameters⟩ | halgorithm
    · rcases mem_permittedKeyKinds_iff.mp hpermitted with rfl | hknown
      · exact Or.inr (.rsaAsCurve hcurve hparameters)
      · exact Or.inl (.onCurve kind hcurve hparameters hknown)
    · rcases mem_permittedKeyKinds_iff.mp hpermitted with rfl | hknown
      · exact Or.inl (.rsa halgorithm)
      · rw [← halgorithm] at hknown
        exact Or.inr (.curveAsAlgorithm hknown)
  · rintro (hdocumented | hmisnamed)
    · cases hdocumented with
      | rsa halgorithm =>
          exact ⟨_, (kind_eq_ok_iff hrsa).mpr (Or.inr halgorithm), hrsa⟩
      | onCurve curve hcurve hparameters hknown =>
          have hpermitted := mem_permittedKeyKinds_iff.mpr (Or.inr hknown)
          exact ⟨_, (kind_eq_ok_iff hpermitted).mpr
            (Or.inl ⟨hcurve, hparameters⟩), hpermitted⟩
    · cases hmisnamed with
      | curveAsAlgorithm hknown =>
          have hpermitted := mem_permittedKeyKinds_iff.mpr (Or.inr hknown)
          exact ⟨_, (kind_eq_ok_iff hpermitted).mpr (Or.inr rfl), hpermitted⟩
      | rsaAsCurve hcurve hparameters =>
          exact ⟨_, (kind_eq_ok_iff hrsa).mpr (Or.inl ⟨hcurve, hparameters⟩),
            hrsa⟩

theorem not_isMisnamed_of_isDocumented (hdocumented : key.IsDocumented) :
    ¬ key.IsMisnamed := by
  intro hmisnamed
  cases hdocumented with
  | rsa halgorithm =>
      cases hmisnamed with
      | curveAsAlgorithm hknown =>
          rw [halgorithm] at hknown
          exact absurd hknown (by decide)
      | rsaAsCurve hcurve _ =>
          rw [halgorithm] at hcurve
          exact absurd hcurve (by decide)
  | onCurve curve halgorithm hparameters hknown =>
      cases hmisnamed with
      | curveAsAlgorithm hother =>
          rw [halgorithm] at hother
          exact absurd hother (by decide)
      | rsaAsCurve _ hother =>
          rw [hparameters, Option.some.injEq] at hother
          rcases hknown with rfl | rfl
          · exact absurd hother (by decide)
          · exact absurd hother (by decide)

end PublicKey

/-- A permitted signature algorithm: one of the seven that are listed, and one
with PSS only with the parameters of a profile. -/
structure AlgorithmIdentifier.IsPermittedSignature (a : AlgorithmIdentifier) :
    Prop where
  listed : a.algorithm ∈ permittedSignatureAlgorithms
  profile : a.algorithm = .rsaPss → ∃ digest, pssDigest? a = some digest

namespace Policy

theorem checkAlgorithms_eq_ok_iff (c : EncodedCertificate) :
    checkAlgorithms c = .ok () ↔
      (∃ kind, c.publicKey.kind = .ok kind ∧ kind ∈ permittedKeyKinds) ∧
        c.signatureAlgorithm.IsPermittedSignature := by
  rw [checkAlgorithms]
  cases hkind : c.publicKey.kind with
  | error e => simp
  | ok kind =>
      have hpermitted : (∃ k, (.ok kind : Except Failure Oid) = .ok k ∧
          k ∈ permittedKeyKinds) ↔ kind ∈ permittedKeyKinds := by
        simp
      dsimp only
      rw [ite_error_eq_ok_iff, ite_error_eq_ok_iff, ite_error_eq_ok_iff,
        hpermitted]
      simp only [Bool.not_eq_true', Bool.not_eq_false, List.contains_iff_mem,
        Bool.and_eq_true, decide_eq_true_iff, and_true]
      refine and_congr_right fun _ => ?_
      constructor
      · rintro ⟨hlisted, hprofile⟩
        refine ⟨hlisted, ?_⟩
        intro hpss
        rw [not_and, Bool.not_eq_true, Option.isNone_eq_false_iff] at hprofile
        exact Option.isSome_iff_exists.mp (hprofile hpss)
      · rintro ⟨hlisted, hprofile⟩
        refine ⟨hlisted, ?_⟩
        rintro ⟨hpss, hnone⟩
        obtain ⟨digest, hdigest⟩ := hprofile hpss
        rw [hdigest] at hnone
        cases hnone

/-- A certificate's algorithms are accepted exactly if its signature algorithm
is permitted and its key is a documented one or is misnamed. So the documented
keys are those accepted, except where a misnamed key comes with a permitted
signature algorithm. -/
theorem algorithms_accepted_iff (c : EncodedCertificate) :
    (checkAlgorithms c = .ok () ↔
      (c.publicKey.IsDocumented ∨ c.publicKey.IsMisnamed) ∧
        c.signatureAlgorithm.IsPermittedSignature) ∧
    ((checkAlgorithms c = .ok () ↔
      c.publicKey.IsDocumented ∧ c.signatureAlgorithm.IsPermittedSignature) ↔
      ¬ (c.publicKey.IsMisnamed ∧
        c.signatureAlgorithm.IsPermittedSignature)) := by
  have haccepted : checkAlgorithms c = .ok () ↔
      (c.publicKey.IsDocumented ∨ c.publicKey.IsMisnamed) ∧
        c.signatureAlgorithm.IsPermittedSignature := by
    rw [checkAlgorithms_eq_ok_iff, PublicKey.permitted_kind_iff]
  refine ⟨haccepted, ?_⟩
  rw [haccepted]
  constructor
  · rintro hexact ⟨hmisnamed, hsignature⟩
    obtain ⟨hdocumented, _⟩ := hexact.mp ⟨Or.inr hmisnamed, hsignature⟩
    exact PublicKey.not_isMisnamed_of_isDocumented hdocumented hmisnamed
  · intro hnone
    constructor
    · rintro ⟨hdocumented | hmisnamed, hsignature⟩
      · exact ⟨hdocumented, hsignature⟩
      · exact absurd ⟨hmisnamed, hsignature⟩ hnone
    · rintro ⟨hdocumented, hsignature⟩
      exact ⟨Or.inl hdocumented, hsignature⟩

end Policy

namespace ChainFamily

/-- An elliptic curve key whose parameters name RSA for a curve. -/
def misnamedKey : PublicKey :=
  ⟨⟨.ecPublicKey, some (oidElement .rsaEncryption)⟩, ⟨0, [4]⟩⟩

def misnamedLeaf : EncodedCertificate :=
  let c := certificate 0 ⟨[part 3 [0x4c]]⟩ rootName (some leafExtensions)
  encoded { c with tbs := { c.tbs with publicKey := misnamedKey } }
    [(.subjectAltName, .subjectAltName alternativeNames)]

/-- The leaf is read from its encoding, and its algorithms are accepted; but its
key is none of the documented ones. -/
theorem misnamed_leaf_accepted :
    EncodedCertificate.ofBytes? misnamedLeaf.encoding = some misnamedLeaf ∧
      Policy.checkAlgorithms misnamedLeaf = .ok () ∧
        ¬ misnamedLeaf.publicKey.IsDocumented := by
  refine ⟨by decide +kernel, by decide +kernel, ?_⟩
  intro hdocumented
  apply PublicKey.not_isMisnamed_of_isDocumented hdocumented
  exact .rsaAsCurve rfl rfl

end ChainFamily

end TrustPath
