import TrustPath.Proofs.ChainFamily
import TrustPath.Proofs.Lockstep

/-!
Larger budgets. A search with higher limits goes step by step as one with lower
limits does, until the lower limits stop it: an answer that does not say that a
budget is used up stays as it is.
-/

namespace TrustPath

namespace PathSearch

variable {search : PathSearch} {limits : SearchLimits}

def withLimits (search : PathSearch) (limits : SearchLimits) : PathSearch :=
  { search with policy := { search.policy with limits := limits } }

theorem checkLeaf_withLimits {leafRules : ExtensionPolicy}
    (halike : leafRules.AnswersAlike search.policy
      (search.withLimits limits).policy) :
    (search.withLimits limits).checkLeaf leafRules =
      search.checkLeaf leafRules := by
  have hrules : leafRules.check (search.withLimits limits).policy
      (search.withLimits limits).leaf =
      leafRules.check search.policy search.leaf := halike.check_eq search.leaf
  rw [checkLeaf, checkLeaf, hrules]
  rfl

/-- Under limits that are no lower, the search goes in step with the one before,
which may abort. -/
theorem lockstep_withLimits
    (hchecks : search.policy.limits.maxSignatureChecks ≤
      limits.maxSignatureChecks)
    (hcandidates : search.policy.limits.maxCandidates ≤ limits.maxCandidates)
    (halike : search.authorityRules.AnswersAlike search.policy
      (search.withLimits limits).policy) :
    Lockstep True (· = ·) search (search.withLimits limits) := by
  apply lockstep_withPolicy { search.policy with limits := limits }
    ⟨rfl, rfl, rfl, rfl⟩ halike
  · intro p
    cases hcount : search.countCandidate p with
    | error e => exact .aborted trivial e _
    | ok q =>
        obtain ⟨hleft, rfl⟩ := (countCandidate_eq_ok_iff search p q).mp hcount
        have hother := (countCandidate_eq_ok_iff (search.withLimits limits)
            p _).mpr
          ⟨Nat.lt_of_lt_of_le hleft (UInt64.le_iff_toNat_le.mp hcandidates),
            rfl⟩
        change Agree _ _ _ ((search.withLimits limits).countCandidate p)
        rw [hother]
        exact .ok rfl
  · intro p c key
    cases hverify : search.verifySignature c key p with
    | error e => exact .aborted trivial e _
    | ok x =>
        obtain ⟨hleft, hverdict, hq⟩ := verifySignature_eq_ok_iff.mp hverify
        have hother : (search.withLimits limits).verifySignature c key p =
            .ok x :=
          verifySignature_eq_ok_iff.mpr
            ⟨Nat.lt_of_lt_of_le hleft (UInt64.le_iff_toNat_le.mp hchecks),
              hverdict, hq⟩
        change Agree _ _ _ ((search.withLimits limits).verifySignature c key p)
        rw [hother]
        exact .ok ⟨rfl, rfl⟩

end PathSearch

def PathVerifier.withLimits (verifier : PathVerifier) (limits : SearchLimits) :
    PathVerifier :=
  { verifier with policy := { verifier.policy with limits := limits } }

/-- Raising the limits never changes an answer that was reached: a run that does
not fail for a budget gives the same result, and makes the same progress, under
limits that are no lower, if the validators answer alike. -/
theorem explore_withLimits_eq (verifier : PathVerifier) (limits : SearchLimits)
    (leaf : EncodedCertificate) (intermediates : List EncodedCertificate)
    (hchecks : verifier.policy.limits.maxSignatureChecks ≤
      limits.maxSignatureChecks)
    (hcandidates : verifier.policy.limits.maxCandidates ≤ limits.maxCandidates)
    (hauthorities : verifier.authorityRules.AnswersAlike verifier.policy
      (verifier.withLimits limits).policy)
    (hleaf : verifier.leafRules.AnswersAlike verifier.policy
      (verifier.withLimits limits).policy)
    (hreached : ∀ e, (verifier.explore leaf intermediates).1 = .error e →
      ¬ e.IsBudget) :
    (verifier.withLimits limits).explore leaf intermediates =
      verifier.explore leaf intermediates := by
  have hlockstep : PathSearch.Lockstep True (· = ·)
      (verifier.search leaf intermediates)
      ((verifier.search leaf intermediates).withLimits limits) :=
    PathSearch.lockstep_withLimits hchecks hcandidates hauthorities
  have haccepted : ((verifier.search leaf intermediates).withLimits
      limits).checkLeaf
      verifier.leafRules = (verifier.search leaf intermediates).checkLeaf
        verifier.leafRules :=
    PathSearch.checkLeaf_withLimits hleaf
  rcases hlockstep.run rfl rfl haccepted (fun hsame => by rw [hsame]) rfl with
    ⟨_, e, q, haborted, hbudget⟩ | ⟨hresult, hprogress⟩
  · exact absurd hbudget (hreached e (congrArg Prod.fst haborted))
  · exact Prod.ext hresult hprogress.symm

open ChainFamily in
/-- A chain of three certificates: limits of three steps just suffice, and so do
greater ones. -/
theorem chain_withLimits :
    (((verifier 2 none .clientAuth).withLimits ⟨3, 3⟩).explore (leaf 2)
        (authorities 2 2)).1 = .ok (chain 2) ∧
      (((verifier 2 none .clientAuth).withLimits ⟨3, 3⟩).withLimits
          ⟨5, 4⟩).explore (leaf 2) (authorities 2 2) =
        ((verifier 2 none .clientAuth).withLimits ⟨3, 3⟩).explore (leaf 2)
          (authorities 2 2) := by
  have hreached : (((verifier 2 none .clientAuth).withLimits ⟨3, 3⟩).explore
      (leaf 2) (authorities 2 2)).1 = .ok (chain 2) := by
    decide +kernel
  refine ⟨hreached, explore_withLimits_eq _ ⟨5, 4⟩ (leaf 2) (authorities 2 2)
    (by decide) (by decide) ?_ ?_ ?_⟩
  · intro rule hrule
    cases hrule
  · intro rule hrule
    cases hrule
  · intro e hfails
    rw [hreached] at hfails
    cases hfails

end TrustPath
