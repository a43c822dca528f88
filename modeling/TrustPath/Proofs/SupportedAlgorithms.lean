import TrustPath.Proofs.PermittedAlgorithms

/-!
The signature algorithms that can be checked are those that are permitted. They
are written down as a list, as the schemes that a check is dispatched on, and as
the parameters of the PSS profiles; here the three are brought together. So a
check with a permitted algorithm fails only for the key or for the signature,
whatever the procedures of the schemes are.
-/

namespace TrustPath

open Der

theorem SignatureScheme.exists_ofAlgorithm?_iff {id : Oid} :
    (∃ scheme, ofAlgorithm? id = some scheme) ↔
      id ∈ permittedSignatureAlgorithms := by
  rw [ofAlgorithm?, permittedSignatureAlgorithms]
  simp only [List.mem_cons, List.not_mem_nil, or_false]
  split_ifs <;> simp_all

/-- Only the identifier of PSS names it. -/
theorem SignatureScheme.ofAlgorithm?_eq_rsaPss {id : Oid}
    (hscheme : ofAlgorithm? id = some .rsaPss) : id = .rsaPss := by
  by_contra hother
  rw [ofAlgorithm?] at hscheme
  split_ifs at hscheme
  all_goals cases hscheme

/-- A digest is supported with PSS under the parameters of its own profile. -/
theorem pssDigest?_eq_some {a : AlgorithmIdentifier} {digest : Digest}
    (hdigest : pssDigest? a = some digest) :
    ∃ parameters, a.parameters = some parameters ∧
      parameters.encode = pssParameters digest := by
  rw [pssDigest?] at hdigest
  split at hdigest
  next =>
    obtain ⟨parameters, hparameters, hfound⟩ :=
      Option.bind_eq_some_iff.mp hdigest
    have hprofile := List.find?_some hfound
    exact ⟨parameters, hparameters, of_decide_eq_true hprofile⟩
  next => cases hdigest

theorem exists_pssDigest? {a : AlgorithmIdentifier} {parameters : Element}
    {digest : Digest} (halgorithm : a.algorithm = .rsaPss)
    (hparameters : a.parameters = some parameters)
    (hprofile : parameters.encode = pssParameters digest) :
    ∃ found, pssDigest? a = some found := by
  rw [pssDigest?, if_pos halgorithm, hparameters]
  refine Option.isSome_iff_exists.mp
    (List.find?_isSome.mpr ⟨digest, ?_, decide_eq_true hprofile⟩)
  cases digest <;> decide

/-- Permitted are the algorithms of the list, and PSS only with the parameters
of one of the profiles. -/
theorem AlgorithmIdentifier.isPermittedSignature_iff {a : AlgorithmIdentifier} :
    a.IsPermittedSignature ↔ a.algorithm ∈ permittedSignatureAlgorithms ∧
      (a.algorithm = .rsaPss → ∃ digest parameters,
        a.parameters = some parameters ∧
          parameters.encode = pssParameters digest) := by
  constructor
  · rintro ⟨hlisted, hprofile⟩
    refine ⟨hlisted, fun hpss => ?_⟩
    obtain ⟨digest, hdigest⟩ := hprofile hpss
    exact ⟨digest, pssDigest?_eq_some hdigest⟩
  · rintro ⟨hlisted, hprofile⟩
    refine ⟨hlisted, fun hpss => ?_⟩
    obtain ⟨digest, parameters, hparameters, hencode⟩ := hprofile hpss
    exact exists_pssDigest? hpss hparameters hencode

namespace SignatureCheck

/-- The failure is that of the algorithm: it is not known, or its PSS parameters
are of no profile. -/
def BlamesAlgorithm (e : Failure) : Prop :=
  (∃ id : Oid, e = .rejectedAs .prohibitedAlgorithm
    ("Unrecognized signature algorithm: " ++ id.text)) ∨
    e = .rejectedAs .prohibitedAlgorithm "unsupported RSASSA-PSS parameters"

/-- The failure is that of the key, which cannot be used, or of the signature,
which is not one of the message. -/
inductive BlamesKeyOrSignature (procedures : SignatureProcedures)
    (key : PublicKey) : Failure → Prop where
  | rsaKey (unread : procedures.rsaKey? key = none) :
      BlamesKeyOrSignature procedures key
        (.rejectedAs .prohibitedAlgorithm "failed to parse RSA public key")
  | noCurve (unnamed : key.algorithm.namedCurve? = none) :
      BlamesKeyOrSignature procedures key
        (.rejectedAs .prohibitedAlgorithm "public key does not name a curve")
  | otherCurve {curve : Oid} (named : key.algorithm.namedCurve? = some curve)
      (other : curve ≠ .secp256r1 ∧ curve ≠ .secp384r1) :
      BlamesKeyOrSignature procedures key
        (.rejectedAs .prohibitedAlgorithm
          ("Unsupported named curve " ++ curve.text))
  | p256Point (named : key.algorithm.namedCurve? = some .secp256r1)
      (unread : procedures.point? Ecdsa.p256 key.key.octets = none) :
      BlamesKeyOrSignature procedures key
        (.rejectedAs .prohibitedAlgorithm "failed to parse P-256 public key")
  | p384Point (named : key.algorithm.namedCurve? = some .secp384r1)
      (unread : procedures.point? Ecdsa.p384 key.key.octets = none) :
      BlamesKeyOrSignature procedures key
        (.rejectedAs .prohibitedAlgorithm "failed to parse P-384 public key")
  | signature :
      BlamesKeyOrSignature procedures key
        (.rejectedAs .signatureVerificationFailure "signature did not verify")

def beginning : Failure → List Char
  | .rejected r => r.message.toList.take 3
  | _ => []

theorem beginning_append (reason : Reason) {text : String} (rest : String)
    (hlong : 3 ≤ text.toList.length) :
    beginning (.rejectedAs reason (text ++ rest)) = text.toList.take 3 := by
  rw [Failure.rejectedAs, beginning, String.toList_append,
    List.take_append_of_le_length hlong]

variable {procedures : SignatureProcedures} {message signature : Bytes}
  {a : AlgorithmIdentifier} {key : PublicKey} {e : Failure} {digest : Digest}

theorem BlamesAlgorithm.beginning_eq (hblames : BlamesAlgorithm e) :
    beginning e = ['U', 'n', 'r'] ∨ beginning e = ['u', 'n', 's'] := by
  rcases hblames with ⟨id, rfl⟩ | rfl
  · exact Or.inl (beginning_append _ _ (by decide))
  · exact Or.inr rfl

/-- The messages tell the failures apart, whatever they quote. -/
theorem BlamesKeyOrSignature.not_blamesAlgorithm
    (hblames : BlamesKeyOrSignature procedures key e) :
    ¬ BlamesAlgorithm e := by
  intro halgorithm
  have hbeginning := halgorithm.beginning_eq
  cases hblames with
  | rsaKey => exact absurd hbeginning (by decide)
  | noCurve => exact absurd hbeginning (by decide)
  | otherCurve =>
      rw [beginning_append _ _ (by decide)] at hbeginning
      exact absurd hbeginning (by decide)
  | p256Point => exact absurd hbeginning (by decide)
  | p384Point => exact absurd hbeginning (by decide)
  | signature => exact absurd hbeginning (by decide)

/-! ### Permitted algorithms -/

theorem blames_of_judged {isValid : Bool}
    (hfails : (judged isValid).value = .error e) :
    BlamesKeyOrSignature procedures key e := by
  cases isValid with
  | true => cases hfails
  | false =>
      cases hfails
      exact .signature

theorem blames_of_checkRsa {verify : Rsa.Key → Outcome}
    (hverify : ∀ k, (verify k).value = .error e →
      BlamesKeyOrSignature procedures key e)
    (hfails : (checkRsa procedures key verify).value = .error e) :
    BlamesKeyOrSignature procedures key e := by
  rw [checkRsa] at hfails
  split at hfails
  next hunread =>
    cases hfails
    exact .rsaKey hunread
  next k _ => exact hverify k hfails

theorem blames_of_checkOnCurve {curve : Ecdsa.Curve} {name : String}
    (hpoint : procedures.point? curve key.key.octets = none →
      BlamesKeyOrSignature procedures key
      (.rejectedAs .prohibitedAlgorithm
        ("failed to parse " ++ name ++ " public key")))
    (hfails : (checkOnCurve procedures curve name digest message signature
      key).value = .error e) :
    BlamesKeyOrSignature procedures key e := by
  rw [checkOnCurve] at hfails
  split at hfails
  next hunread =>
    cases hfails
    exact hpoint hunread
  next =>
    split at hfails
    next => exact blames_of_judged hfails
    next => exact blames_of_judged hfails

theorem blames_of_checkEcdsa
    (hfails : (checkEcdsa procedures digest message signature key).value =
      .error e) :
    BlamesKeyOrSignature procedures key e := by
  rw [checkEcdsa, namedCurve] at hfails
  cases hnamed : key.algorithm.namedCurve? with
  | none =>
      rw [hnamed] at hfails
      cases hfails
      exact .noCurve hnamed
  | some curve =>
      rw [hnamed] at hfails
      dsimp only at hfails
      split_ifs at hfails with hfirst hsecond
      · exact blames_of_checkOnCurve (.p256Point (hfirst ▸ hnamed)) hfails
      · exact blames_of_checkOnCurve (.p384Point (hsecond ▸ hnamed)) hfails
      · cases hfails
        exact .otherCurve hnamed ⟨hfirst, hsecond⟩

/-- A check with a permitted algorithm fails only for the key or the
signature. -/
theorem blames_of_isPermittedSignature (hpermitted : a.IsPermittedSignature)
    (hfails : (checkWith procedures message signature a key).value = .error e) :
    BlamesKeyOrSignature procedures key e := by
  obtain ⟨scheme, hscheme⟩ :=
    SignatureScheme.exists_ofAlgorithm?_iff.mpr hpermitted.listed
  rw [checkWith, hscheme] at hfails
  cases scheme with
  | rsaPkcs1 digest =>
      exact blames_of_checkRsa (fun _ => blames_of_judged) hfails
  | rsaPss =>
      obtain ⟨digest, hdigest⟩ :=
        hpermitted.profile (SignatureScheme.ofAlgorithm?_eq_rsaPss hscheme)
      rw [hdigest] at hfails
      exact blames_of_checkRsa (fun _ => blames_of_judged) hfails
  | ecdsa digest => exact blames_of_checkEcdsa hfails

/-! ### Other algorithms -/

/-- A check with any other algorithm fails for the algorithm, unless an RSA key
was looked at before. -/
theorem fails_of_not_isPermittedSignature (hother : ¬ a.IsPermittedSignature) :
    ∃ e, (checkWith procedures message signature a key).value = .error e ∧
      (BlamesAlgorithm e ∨ procedures.rsaKey? key = none) := by
  rw [checkWith]
  cases hscheme : SignatureScheme.ofAlgorithm? a.algorithm with
  | none => exact ⟨_, rfl, Or.inl (Or.inl ⟨_, rfl⟩)⟩
  | some scheme =>
      have hlisted := SignatureScheme.exists_ofAlgorithm?_iff.mp
          ⟨scheme, hscheme⟩
      -- only PSS asks for more than to be listed
      have hpss : a.algorithm = .rsaPss := by
        by_contra hnot
        exact hother ⟨hlisted, fun hpss => absurd hpss hnot⟩
      have hnone : pssDigest? a = none := by
        rw [Option.eq_none_iff_forall_ne_some]
        exact fun digest hdigest => hother ⟨hlisted, fun _ => ⟨digest, hdigest⟩⟩
      have hsame : some scheme = some .rsaPss := by
        rw [← hscheme, hpss]
        rfl
      cases hsame
      dsimp only
      rw [checkRsa, hnone]
      split
      next hunread => exact ⟨_, rfl, Or.inr hunread⟩
      next => exact ⟨_, rfl, Or.inl (Or.inr rfl)⟩

/-- The permitted signature algorithms are those that can be checked, whatever
the procedures of the schemes are: a signature that is accepted is made with one
that certificates may have, and a check with such a one never fails for the
algorithm, but for the key or the signature. -/
theorem permitted_algorithms_checked (procedures : SignatureProcedures)
    (message signature : Bytes) (a : AlgorithmIdentifier) (key : PublicKey) :
    (∀ c : EncodedCertificate, c.signatureAlgorithm = a →
      (Policy.checkAlgorithms c = .ok () ↔
        (∃ kind, c.publicKey.kind = .ok kind ∧ kind ∈ permittedKeyKinds) ∧
          a.IsPermittedSignature)) ∧
    (a.IsPermittedSignature ↔ a.algorithm ∈ permittedSignatureAlgorithms ∧
      (a.algorithm = .rsaPss → ∃ digest parameters,
        a.parameters = some parameters ∧
          parameters.encode = pssParameters digest)) ∧
    ((checkWith procedures message signature a key).value = .ok () →
      a.IsPermittedSignature) ∧
    (a.IsPermittedSignature → ∀ e,
      (checkWith procedures message signature a key).value = .error e →
      BlamesKeyOrSignature procedures key e ∧ ¬ BlamesAlgorithm e) := by
  refine ⟨?_, a.isPermittedSignature_iff, ?_, ?_⟩
  · rintro c rfl
    exact Policy.checkAlgorithms_eq_ok_iff c
  · intro haccepted
    by_contra hother
    obtain ⟨e, hfails, _⟩ :
        ∃ e, (checkWith procedures message signature a key).value = .error e ∧
        _ :=
      fails_of_not_isPermittedSignature hother
    rw [haccepted] at hfails
    cases hfails
  · intro hpermitted e hfails
    have hblames := blames_of_isPermittedSignature hpermitted hfails
    exact ⟨hblames, hblames.not_blamesAlgorithm⟩

/-- A key on the curve P-256, as a point with both coordinates. -/
def pointKey : PublicKey :=
  ⟨⟨.ecPublicKey, some (oidElement .secp256r1)⟩, ⟨0,
    [0x04, 0x1e, 0x18, 0x53, 0x2f, 0xd4, 0x75, 0x4c, 0x02, 0xf3, 0x04, 0x1d,
      0x9c, 0x75, 0xce, 0xb3, 0x3b, 0x83, 0xff, 0xd8, 0x1a, 0xc7, 0xce, 0x4f,
      0xe8, 0x82, 0xcc, 0xb1, 0xc9, 0x8b, 0xc5, 0x89, 0x6e, 0xa4, 0x6c, 0x31,
      0x1c, 0x4e, 0x2f, 0xf4, 0x0d, 0xd9, 0x6a, 0x36, 0x53, 0xe6, 0xe4, 0x54,
      0x45, 0xd3, 0x2d, 0xfe, 0x48, 0x6e, 0xce, 0xd7, 0x5c, 0x7a, 0x90, 0xc6,
      0xa1, 0x88, 0x81, 0xc0, 0xa3]⟩⟩

def signedText : Bytes :=
  [0x74, 0x6f, 0x20, 0x62, 0x65, 0x20, 0x73, 0x69, 0x67, 0x6e, 0x65, 0x64]

/-- A signature of the text with the key, by ECDSA with SHA-256. -/
def textSignature : Bytes :=
  [0x30, 0x45, 0x02, 0x20, 0x3e, 0xd7, 0xa2, 0x8e, 0xc6, 0x48, 0xed, 0xce, 0x5d,
    0x5b, 0x7e, 0x25, 0x2f, 0x6b, 0x2a, 0xaf, 0xbb, 0x44, 0x83, 0x51, 0x14,
    0xa2, 0x4b, 0x3c, 0xaa, 0x8f, 0x71, 0x0f, 0x64, 0x99, 0x3b, 0xc2, 0x02,
    0x21, 0x00, 0xa6, 0xa1, 0xd4, 0x21, 0x5e, 0x63, 0xc3, 0x35, 0x0b, 0x54,
    0x3b, 0x91, 0x20, 0xb0, 0x0c, 0x85, 0xef, 0xd5, 0xfb, 0xf3, 0x44, 0x8e,
    0x34, 0x05, 0xe8, 0x4b, 0x34, 0xfb, 0xca, 0x48, 0xa6, 0x67]

/-- The library's own procedures accept the signature. With an RSA algorithm,
which is permitted too, the same check fails for the key. -/
theorem text_signature_checked :
    (check signedText textSignature ⟨.ecdsaSha256, none⟩ pointKey).value =
        .ok () ∧
      (⟨.ecdsaSha256, none⟩ : AlgorithmIdentifier).IsPermittedSignature ∧
      ∃ e, (check signedText textSignature ⟨.rsaSha256, none⟩ pointKey).value =
        .error e ∧ BlamesKeyOrSignature .standard pointKey e := by
  have haccepted : (checkWith .standard signedText textSignature
      ⟨.ecdsaSha256, none⟩ pointKey).value = .ok () := by
    decide +kernel
  have hrefused : (checkWith .standard signedText textSignature
      ⟨.rsaSha256, none⟩ pointKey).value =
      .error (.rejectedAs .prohibitedAlgorithm
        "failed to parse RSA public key") := by
    decide +kernel
  obtain ⟨_, _, hpermits, _⟩ :=
    permitted_algorithms_checked .standard signedText textSignature
      ⟨.ecdsaSha256, none⟩ pointKey
  obtain ⟨_, hrsa, _, hblames⟩ :=
    permitted_algorithms_checked .standard signedText textSignature
      ⟨.rsaSha256, none⟩ pointKey
  refine ⟨haccepted, hpermits haccepted, _, hrefused, ?_⟩
  exact (hblames (hrsa.mpr ⟨by decide, fun hpss => absurd hpss (by decide)⟩) _
    hrefused).1

end SignatureCheck

end TrustPath
