import TrustPath.Proofs.ChainFamily

/-!
The search is complete: it fails for want of a path only where there is none. It
goes back from dead ends, passes over what is on the path already and drops
certificates that it has twice, and none of this loses a path.
-/

namespace TrustPath

section

variable {verifier : PathVerifier} {leaf : EncodedCertificate}
  {intermediates : List EncodedCertificate} {v : VerifiedPath} {e : Failure}

/-- Where an encoding belongs to one certificate only, the pool suffices for
every valid path. -/
theorem PathSearch.Valid.in_pool
    (hencodings : ∀ a ∈ leaf :: intermediates, ∀ b ∈ leaf :: intermediates,
      a.encoding = b.encoding → a = b)
    (hvalid : (verifier.search leaf intermediates).Valid intermediates v) :
    (verifier.search leaf intermediates).Valid
      (verifier.search leaf intermediates).pool v := by
  refine { hvalid with supplied := ?_ }
  intro c hc
  have hdistinct := hvalid.distinct
  rw [Path.certificates, List.map_cons, List.nodup_cons, hvalid.leaf_eq]
    at hdistinct
  have hleaf : c.encoding ≠ leaf.encoding := by
    intro hencoding
    exact hdistinct.1 (hencoding ▸ List.mem_map_of_mem hc)
  exact mem_pool_of_mem hencodings (hvalid.supplied c hc) hleaf

/-- A failure that is due neither to the leaf nor to the budgets rules out every
valid path. -/
theorem PathVerifier.no_valid_of_verify_error
    (hencodings : ∀ a ∈ leaf :: intermediates, ∀ b ∈ leaf :: intermediates,
      a.encoding = b.encoding → a = b)
    (hleaf : (verifier.search leaf intermediates).checkLeaf verifier.leafRules =
      .ok ())
    (hfails : (verifier.verify leaf intermediates).value = .error e)
    (hbudget : ¬ e.IsBudget) :
    ¬ ∃ v, (verifier.search leaf intermediates).Valid intermediates v := by
  rintro ⟨v, hvalid⟩
  rcases PathSearch.run_error hleaf hfails with hspent | hnone
  · exact hbudget hspent
  · exact hnone v (hvalid.in_pool hencodings)

end

/-- Once the leaf is accepted, a verifier answers a path wherever there is a
valid one, unless a budget is used up; any other failure means that there is
none. -/
theorem verify_complete (verifier : PathVerifier) (leaf : EncodedCertificate)
    (intermediates : List EncodedCertificate)
    (hencodings : ∀ a ∈ leaf :: intermediates, ∀ b ∈ leaf :: intermediates,
      a.encoding = b.encoding → a = b)
    (hleaf : (verifier.search leaf intermediates).checkLeaf verifier.leafRules =
      .ok ()) :
    ((∃ v, (verifier.search leaf intermediates).Valid intermediates v) →
      (∃ v, (verifier.verify leaf intermediates).value = .ok v) ∨
        ∃ e, (verifier.verify leaf intermediates).value = .error e ∧
          e.IsBudget) ∧
    ∀ e, (verifier.verify leaf intermediates).value = .error e → ¬ e.IsBudget →
      ¬ ∃ v, (verifier.search leaf intermediates).Valid intermediates v := by
  refine ⟨?_, ?_⟩
  · intro hpath
    cases houtcome : (verifier.verify leaf intermediates).value with
    | ok v => exact Or.inl ⟨v, rfl⟩
    | error e =>
        refine Or.inr ⟨e, rfl, ?_⟩
        by_contra hbudget
        exact PathVerifier.no_valid_of_verify_error hencodings hleaf houtcome
          hbudget hpath
  · intro e hfails hbudget
    exact PathVerifier.no_valid_of_verify_error hencodings hleaf hfails hbudget

open ChainFamily in
/-- A chain of three certificates: with its authorities there is a path, without
them there is none. -/
theorem chain_complete :
    ((∃ v, ((verifier 2 none .clientAuth).verify (leaf 2)
      (authorities 2 2)).value = .ok v) ∨
      ∃ e, ((verifier 2 none .clientAuth).verify (leaf 2)
        (authorities 2 2)).value = .error e ∧ e.IsBudget) ∧
    ¬ ∃ v, ((verifier 2 none .clientAuth).search (leaf 2) []).Valid [] v := by
  refine ⟨?_, ?_⟩
  · apply (verify_complete (verifier 2 none .clientAuth) (leaf 2)
      (authorities 2 2) (eq_of_encoding_eq (by decide))
      (checkLeaf_eq _ (by simp))).1
    exact ⟨chain 2, valid (by decide) (by decide)⟩
  · apply (verify_complete (verifier 2 none .clientAuth) (leaf 2) [] (by simp)
      (checkLeaf_eq _ (by simp))).2 (PathSearch.noIssuer (leaf 2))
    · rfl
    · intro hbudget
      cases hbudget

end TrustPath
