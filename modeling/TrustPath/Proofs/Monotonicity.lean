import TrustPath.Proofs.Completeness
import TrustPath.Proofs.Soundness

/-!
More to choose from and weaker limits never turn success into failure, but for
the budgets. Every check that a valid path passes it passes again under a policy
that asks no more, so the path is still there to be found, in whatever order
certificates and anchors are tried; and the search is complete.
-/

namespace TrustPath

/-- A verifier that asks no more than another and trusts no less: it judges
certificates by the same rules, at the same moment and for the same purpose, has
all the anchors of the other, and its limits on depth and key size are no
stricter. -/
structure PathVerifier.Relaxes (relaxed verifier : PathVerifier) : Prop where
  environment : relaxed.environment = verifier.environment
  authorityRules : relaxed.authorityRules = verifier.authorityRules
  leafRules : relaxed.leafRules = verifier.leafRules
  validationTime : relaxed.policy.validationTime =
    verifier.policy.validationTime
  subject : relaxed.policy.subject = verifier.policy.subject
  purpose : relaxed.policy.purpose = verifier.policy.purpose
  anchors : ∀ anchor ∈ verifier.store.anchors, anchor ∈ relaxed.store.anchors
  maxChainDepth : verifier.policy.maxChainDepth ≤ relaxed.policy.maxChainDepth
  minimumRsaModulus : relaxed.policy.minimumRsaModulus ≤
    verifier.policy.minimumRsaModulus
  authorityAnswers : verifier.authorityRules.AnswersAlike verifier.policy
    relaxed.policy
  leafAnswers : verifier.leafRules.AnswersAlike verifier.policy relaxed.policy

section

variable {verifier relaxed : PathVerifier} {leaf : EncodedCertificate}
  {intermediates others : List EncodedCertificate} {v : VerifiedPath}

/-! ### The checks under the two policies -/

theorem Policy.checkEndEntity_eq_of_role {policy other : Policy}
    (hsubject : other.subject = policy.subject)
    (hpurpose : other.purpose = policy.purpose)
    (leaf : EncodedCertificate) :
    other.checkEndEntity leaf = policy.checkEndEntity leaf := by
  have hallows : other.allowsPurpose = policy.allowsPurpose := by
    funext purposes
    rw [allowsPurpose, allowsPurpose, hpurpose]
  rw [checkEndEntity, checkEndEntity, hallows, hsubject, hpurpose]

/-- A key that is large enough for one minimum is large enough for a smaller
one. -/
theorem Policy.checkKeySize_of_le {policy other : Policy}
    (hminimum : other.minimumRsaModulus ≤ policy.minimumRsaModulus)
    {key : PublicKey} (hpasses : policy.checkKeySize key = .ok ()) :
    other.checkKeySize key = .ok () := by
  have hle := UInt64.le_iff_toNat_le.mp hminimum
  rw [checkKeySize] at hpasses ⊢
  split
  next => rfl
  next hrsa =>
    rw [if_neg hrsa] at hpasses
    rw [PublicKey.rsaModulusBitsOr] at hpasses ⊢
    cases hread : RsaPublicKey.ofOctets? key.key.octets with
    | none =>
        rw [hread] at hpasses
        cases hpasses
    | some k =>
        rw [hread] at hpasses
        dsimp only at hpasses ⊢
        split at hpasses
        next => cases hpasses
        next hlarge => rw [if_neg (by omega)]

theorem PathVerifier.Relaxes.checkLeaf (hrelaxes : relaxed.Relaxes verifier)
    (hleaf : (verifier.search leaf intermediates).checkLeaf verifier.leafRules =
      .ok ()) :
    (relaxed.search leaf others).checkLeaf relaxed.leafRules = .ok () := by
  rw [PathSearch.checkLeaf_eq_ok_iff] at hleaf ⊢
  obtain ⟨hform, halgorithms, hrules, hrole⟩ := hleaf
  refine ⟨?_, halgorithms, ?_, ?_⟩
  · exact (Policy.checkForm_eq_of_validationTime hrelaxes.validationTime
      leaf).trans hform
  · rw [hrelaxes.leafRules]
    exact (hrelaxes.leafAnswers.check_eq leaf).trans hrules
  · exact (Policy.checkEndEntity_eq_of_role hrelaxes.subject hrelaxes.purpose
      leaf).trans hrole

theorem PathVerifier.Relaxes.fits (hrelaxes : relaxed.Relaxes verifier)
    {c : EncodedCertificate} {depth : Nat}
    (hfits : (verifier.search leaf intermediates).AuthorityFits c depth) :
    (relaxed.search leaf others).AuthorityFits c depth where
  form := (Policy.checkForm_eq_of_validationTime hrelaxes.validationTime
    c).trans hfits.form
  algorithms := hfits.algorithms
  authority := hfits.authority
  depth_le := Nat.le_trans hfits.depth_le
    (UInt8.le_iff_toNat_le.mp hrelaxes.maxChainDepth)
  rules := by
    have hsame : (relaxed.search leaf others).authorityRules =
        verifier.authorityRules :=
      hrelaxes.authorityRules
    rw [hsame]
    exact (hrelaxes.authorityAnswers.check_eq c).trans hfits.rules

/-! ### Valid paths -/

/-- A path that is valid for a verifier is valid for one that asks no more. -/
theorem PathVerifier.Relaxes.valid (hrelaxes : relaxed.Relaxes verifier)
    (hsupplied : ∀ c ∈ intermediates, c ∈ others)
    (hvalid : (verifier.search leaf intermediates).Valid intermediates v) :
    (relaxed.search leaf others).Valid others v where
  leaf_eq := hvalid.leaf_eq
  supplied := fun c hc => hsupplied c (hvalid.supplied c hc)
  distinct := hvalid.distinct
  linked := by
    have hsame : (relaxed.search leaf others).environment =
        verifier.environment :=
      hrelaxes.environment
    rw [hsame]
    exact hvalid.linked
  passed := by
    intro below c above hsplit
    refine ⟨_, (PathSearch.checkCandidate_eq_ok_iff _ c _ _).mpr ⟨?_, rfl⟩⟩
    exact hrelaxes.fits (hvalid.fits hsplit)
  trusted := hrelaxes.anchors v.anchor hvalid.trusted
  closed := by
    have hsame : (relaxed.search leaf others).environment =
        verifier.environment :=
      hrelaxes.environment
    rw [hsame]
    exact hvalid.closed
  whole := by
    have hwhole := hvalid.whole
    rw [PathSearch.checkWholePath_eq_ok_iff] at hwhole ⊢
    refine ⟨?_, hwhole.2⟩
    intro key hkey
    exact Policy.checkKeySize_of_le hrelaxes.minimumRsaModulus
      (hwhole.1 key hkey)

/-- Where one verifier answers a path, one that asks no more has accepted the
leaf, and there is a valid path for it. -/
theorem PathVerifier.Relaxes.exists_valid (hrelaxes : relaxed.Relaxes verifier)
    (hsupplied : ∀ c ∈ intermediates, c ∈ others)
    (hverify : (verifier.verify leaf intermediates).value = .ok v) :
    (relaxed.search leaf others).checkLeaf relaxed.leafRules = .ok () ∧
      (relaxed.search leaf others).Valid others v := by
  obtain ⟨hleaf, hvalid⟩ := PathSearch.run_ok hverify
  exact ⟨hrelaxes.checkLeaf hleaf, hrelaxes.valid hsupplied hvalid.of_pool⟩

/-- Where one verifier answers a path, one that asks no more answers one too,
unless a budget is used up. -/
theorem PathVerifier.Relaxes.verify_ok (hrelaxes : relaxed.Relaxes verifier)
    (hencodings : ∀ a ∈ leaf :: others, ∀ b ∈ leaf :: others,
      a.encoding = b.encoding → a = b)
    (hsupplied : ∀ c ∈ intermediates, c ∈ others)
    (hverify : (verifier.verify leaf intermediates).value = .ok v)
    (hbudget : ∀ e, (relaxed.verify leaf others).value = .error e →
      ¬ e.IsBudget) :
    ∃ w, (relaxed.verify leaf others).value = .ok w := by
  obtain ⟨hleaf, hvalid⟩ := hrelaxes.exists_valid hsupplied hverify
  cases houtcome : (relaxed.verify leaf others).value with
  | ok w => exact ⟨w, rfl⟩
  | error e =>
      have hnone := PathVerifier.no_valid_of_verify_error hencodings hleaf
          houtcome
        (hbudget e houtcome)
      exact absurd ⟨v, hvalid⟩ hnone

/-- The same anchors in another order are no less. -/
theorem PathVerifier.Relaxes.of_perm {store : TrustStore}
    (hanchors : store.anchors.Perm verifier.store.anchors) :
    { verifier with store := store }.Relaxes verifier where
  environment := rfl
  authorityRules := rfl
  leafRules := rfl
  validationTime := rfl
  subject := rfl
  purpose := rfl
  anchors := fun _ hanchor => hanchors.mem_iff.mpr hanchor
  maxChainDepth := UInt8.le_refl _
  minimumRsaModulus := UInt64.le_refl _
  authorityAnswers := fun _ _ _ _ _ _ => rfl
  leafAnswers := fun _ _ _ _ _ _ => rfl

/-- Where the names of one client can be read, so they can on any path that its
verifier answers. -/
theorem ClientVerifier.verify_ok_of_inner {client relaxed : ClientVerifier}
    {w : VerifiedClient} {v : VerifiedPath}
    (hverify : (client.verify leaf intermediates).value = .ok w)
    (hother : (relaxed.inner.verify leaf others).value = .ok v) :
    ∃ x, (relaxed.verify leaf others).value = .ok x := by
  obtain ⟨found, hfound, hnames⟩ := bind_eq_ok_iff.mp hverify
  have hleaf : v.path.leaf = found.path.leaf :=
    (PathSearch.run_ok hother).2.leaf_eq.trans
      (PathSearch.run_ok hfound).2.leaf_eq.symm
  obtain ⟨x, hx⟩ := VerifiedClient.ofPath_ok_of_leaf_eq hleaf hnames
  exact ⟨x, bind_eq_ok_iff.mpr ⟨v, hother, hx⟩⟩

end

/-- Verification is monotone: where it succeeds, it succeeds with more
intermediates and anchors, in any order, and with weaker limits, unless a budget
is used up; for clients too; and so the order of intermediates and anchors never
decides whether it succeeds. -/
theorem verify_monotone (leaf : EncodedCertificate)
    (intermediates others : List EncodedCertificate)
    (hencodings : ∀ a ∈ leaf :: others, ∀ b ∈ leaf :: others,
      a.encoding = b.encoding → a = b) :
    (∀ verifier relaxed : PathVerifier, relaxed.Relaxes verifier →
      (∀ c ∈ intermediates, c ∈ others) →
      (∃ v, (verifier.verify leaf intermediates).value = .ok v) →
      (∀ e, (relaxed.verify leaf others).value = .error e → ¬ e.IsBudget) →
        ∃ w, (relaxed.verify leaf others).value = .ok w) ∧
    (∀ client relaxed : ClientVerifier, relaxed.inner.Relaxes client.inner →
      (∀ c ∈ intermediates, c ∈ others) →
      (∃ v, (client.verify leaf intermediates).value = .ok v) →
      (∀ e, (relaxed.verify leaf others).value = .error e → ¬ e.IsBudget) →
        ∃ w, (relaxed.verify leaf others).value = .ok w) ∧
    ∀ (verifier : PathVerifier) (store : TrustStore),
      store.anchors.Perm verifier.store.anchors → others.Perm intermediates →
      (∃ v, (verifier.verify leaf intermediates).value = .ok v) →
      (∀ e, ({ verifier with store := store }.verify leaf others).value =
        .error e → ¬ e.IsBudget) →
        ∃ w, ({ verifier with store := store }.verify leaf others).value =
          .ok w := by
  refine ⟨?_, ?_, ?_⟩
  · rintro verifier relaxed hrelaxes hsupplied ⟨v, hverify⟩ hbudget
    exact hrelaxes.verify_ok hencodings hsupplied hverify hbudget
  · rintro client relaxed hrelaxes hsupplied ⟨w, hverify⟩ hbudget
    have hinner := ClientVerifier.inner_verify_eq hverify
    obtain ⟨v, hv⟩ := hrelaxes.verify_ok hencodings hsupplied hinner
        fun e hfails => by
      apply hbudget e
      exact bind_eq_error_iff.mpr (Or.inl hfails)
    exact ClientVerifier.verify_ok_of_inner hverify hv
  · rintro verifier store hanchors hintermediates ⟨v, hverify⟩ hbudget
    exact (PathVerifier.Relaxes.of_perm hanchors).verify_ok hencodings
      (fun c hc => hintermediates.mem_iff.mpr hc) hverify hbudget

namespace ChainFamily

/-- What is supplied with the leaf of a chain of three, in reverse order and
after a false lead. -/
def detour : List EncodedCertificate :=
  authorityWith 9 (name 0) (name 7) :: (authorities 2 2).reverse

/-- A verifier of clients with another anchor before that of the family, a
higher limit on the depth and none on the size of keys. -/
def lenient : PathVerifier :=
  { verifier 9 none .clientAuth with
    store := ⟨[⟨authorityWith 8 (name 7) (name 9)⟩, anchor]⟩
    policy := ⟨now, 9, none, .clientAuth, 0, ⟨9, 9⟩, plainKeyFault⟩ }

theorem lenient_relaxes : lenient.Relaxes (verifier 2 none .clientAuth) where
  environment := rfl
  authorityRules := rfl
  leafRules := rfl
  validationTime := rfl
  subject := rfl
  purpose := rfl
  anchors := by simp [lenient, verifier]
  maxChainDepth := by decide
  minimumRsaModulus := by decide
  authorityAnswers := nofun
  leafAnswers := nofun

end ChainFamily

open ChainFamily in
/-- A chain of three certificates, which the lenient verifier finds by way of
the detour, and with all certificates and anchors in reverse order. -/
theorem chain_monotone :
    (∃ w, (lenient.verify (leaf 2) detour).value = .ok w) ∧
      (∃ w, ((ClientVerifier.mk lenient).verify (leaf 2) detour).value =
        .ok w) ∧
      ∃ w, ({ lenient with store := ⟨lenient.store.anchors.reverse⟩ }.verify
        (leaf 2) detour.reverse).value = .ok w := by
  have hencodings : ∀ a ∈ leaf 2 :: detour, ∀ b ∈ leaf 2 :: detour,
      a.encoding = b.encoding → a = b := by
    decide +kernel
  have hbackwards : ∀ a ∈ leaf 2 :: detour.reverse,
      ∀ b ∈ leaf 2 :: detour.reverse, a.encoding = b.encoding → a = b := by
    decide +kernel
  have hreached {α : Type} {result : Except Failure α}
      (hok : result.isOk = true) :
      ∀ e, result = .error e → ¬ e.IsBudget := by
    rintro e rfl
    cases hok
  have hclient : ((client 2).verify (leaf 2) (authorities 2 2)).value =
      .ok ⟨chain 2, some [.dns "*.example"]⟩ :=
    client_verify_chain (by decide) (by decide)
  have hpath := ClientVerifier.inner_verify_eq hclient
  have hsupplied : ∀ c ∈ authorities 2 2, c ∈ detour := by
    intro c hc
    exact List.mem_cons_of_mem _ (List.mem_reverse.mpr hc)
  obtain ⟨hpaths, hclients, _⟩ :=
    verify_monotone (leaf 2) (authorities 2 2) detour hencodings
  obtain ⟨_, _, horder⟩ :=
    verify_monotone (leaf 2) detour detour.reverse hbackwards
  have hfound := hpaths _ lenient lenient_relaxes hsupplied ⟨_, hpath⟩
    (hreached (by decide +kernel))
  refine ⟨hfound, ?_, ?_⟩
  · exact hclients (client 2) ⟨lenient⟩ lenient_relaxes hsupplied ⟨_, hclient⟩
      (hreached (by decide +kernel))
  · exact horder lenient _ (List.reverse_perm _) (List.reverse_perm _) hfound
      (hreached (by decide +kernel))

end TrustPath
