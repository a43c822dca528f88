import TrustPath.Proofs.ChainFamily

/-!
The limits on the number of authorities. The count that they are compared with
stops at the greatest limit that can be written, so every smaller limit is kept,
and the greatest one is none.
-/

namespace TrustPath

/-- A count that stops at the greatest limit is within a limit, and the true
count is not, only where the limit is the greatest. -/
theorem exceeds_iff_of_saturated_le {count : Nat} {limit : UInt8}
    (hcounted : min count PathSearch.maxDepth ≤ limit.toNat) :
    limit.toNat < count ↔ limit = 255 ∧ PathSearch.maxDepth < count := by
  have htop : limit = 255 ↔ limit.toNat = PathSearch.maxDepth := by
    rw [← UInt8.toNat_inj]
    rfl
  have hbound : limit.toNat < 256 := limit.toNat_lt
  rw [htop]
  rw [PathSearch.maxDepth] at hcounted ⊢
  omega

namespace PathSearch

variable {search : PathSearch} {supplied : List EncodedCertificate}
  {path : Path}

/-- The depth of a path on course is within the limit: nothing was pushed beyond
it. -/
theorem OnCourse.depthOf_le (hcourse : search.OnCourse supplied path) :
    depthOf path.intermediates ≤ search.policy.maxChainDepth.toNat := by
  rcases List.eq_nil_or_concat' path.intermediates
      with hnil | ⟨below, c, hsplit⟩
  · rw [hnil, depthOf_nil]
    exact Nat.zero_le _
  · rw [hsplit, depthOf_concat]
    exact (hcourse.fits hsplit).depth_le

/-- The depth below an authority is within its own path length constraint. -/
theorem OnCourse.depthOf_le_pathLength (hcourse : search.OnCourse supplied path)
    {below above : List EncodedCertificate} {c : EncodedCertificate}
    (hsplit : path.intermediates = below ++ c :: above)
    {constraints : BasicConstraints} {limit : UInt8}
    (hconstraints : c.basicConstraints? = some constraints)
    (hlimit : constraints.pathLength = some limit) :
    depthOf below ≤ limit.toNat := by
  obtain ⟨others, hothers, _, hlength, _⟩ :=
    (Policy.checkAuthority_eq_ok_iff c _).mp (hcourse.fits hsplit).authority
  rw [hconstraints] at hothers
  cases hothers
  exact hlength limit hlimit

end PathSearch

/-- On a verified path, the authorities that are not self-issued exceed the
greatest chain depth, or those below an authority its path length constraint,
exactly where that limit is the greatest octet and there are more of them. -/
theorem limit_exceeded_iff (verifier : PathVerifier) (leaf : EncodedCertificate)
    (intermediates : List EncodedCertificate) (v : VerifiedPath)
    (hverify : (verifier.verify leaf intermediates).value = .ok v) :
    (verifier.policy.maxChainDepth.toNat < nonSelfIssued v.path.intermediates ↔
      verifier.policy.maxChainDepth = 255 ∧
        255 < nonSelfIssued v.path.intermediates) ∧
    ∀ below c above constraints limit,
      v.path.intermediates = below ++ c :: above →
      c.basicConstraints? = some constraints →
      constraints.pathLength = some limit →
        (limit.toNat < nonSelfIssued below ↔
          limit = 255 ∧ 255 < nonSelfIssued below) := by
  have hvalid := (PathSearch.run_ok hverify).2
  refine ⟨exceeds_iff_of_saturated_le hvalid.depthOf_le, ?_⟩
  intro below c above constraints limit hsplit hconstraints hlimit
  apply exceeds_iff_of_saturated_le
  exact hvalid.depthOf_le_pathLength hsplit hconstraints hlimit

open ChainFamily in
/-- Two authorities keep a limit of two, and the constraint of the upper one. -/
theorem chain_keeps_limits :
    nonSelfIssued (authorities 2 2) ≤ 2 ∧
      nonSelfIssued (authorities 2 1) ≤ 255 := by
  obtain ⟨hdepth, hlengths⟩ := limit_exceeded_iff (verifier 2 none .clientAuth)
      (leaf 2)
    (authorities 2 2) (chain 2) (verify_chain (by simp) (by decide) (by decide))
  constructor
  · refine Nat.le_of_not_lt fun hexceeds => ?_
    exact absurd (hdepth.mp hexceeds).1 (by decide)
  · refine Nat.le_of_not_lt fun hexceeds => ?_
    have hiff := hlengths (authorities 2 1) (authority 2 1)
        [] basicConstraints 255 rfl rfl rfl
    have hmany := (hiff.mp hexceeds).2
    rw [nonSelfIssued_authorities] at hmany
    exact absurd hmany (by decide)

open ChainFamily in
/-- A limit of 255 does not stop a chain of 257 authorities, and neither do
their own constraints. -/
theorem chain_exceeds_limits :
    ((verifier 255 none .clientAuth).verify (leaf 257)
        (authorities 257 257)).value = .ok (chain 257) ∧
      (verifier 255 none .clientAuth).policy.maxChainDepth.toNat <
        nonSelfIssued (chain 257).path.intermediates ∧
      (chain 257).path.intermediates =
        authorities 257 256 ++ [authority 257 256] ∧
      (authority 257 256).basicConstraints? = some ⟨true, some 255⟩ ∧
      (255 : UInt8).toNat < nonSelfIssued (authorities 257 256) := by
  refine ⟨verify_chain (by simp) (by decide) (by decide), ?_, ?_, rfl, ?_⟩
  · rw [show (chain 257).path.intermediates = authorities 257 257 from rfl,
      nonSelfIssued_authorities]
    decide
  · change authorities 257 257 = _
    rw [authorities, List.range_succ, List.map_append]
    rfl
  · rw [nonSelfIssued_authorities]
    decide

end TrustPath
