import TrustPath.Proofs.ChainFamily
import TrustPath.Proofs.ClientNames

/-!
Verifiers are sound: a path that one answers runs from the leaf over supplied
certificates to a trusted anchor, and has passed every check there is, each
authority at its own depth.
-/

namespace TrustPath

/-- Everything that a verifier vouches for when it answers a path, said of the
path alone. -/
structure PathVerifier.Justified (verifier : PathVerifier)
    (leaf : EncodedCertificate) (intermediates : List EncodedCertificate)
    (v : VerifiedPath) : Prop where
  leaf_first : v.path.certificates.head? = some leaf
  supplied : ∀ c ∈ v.path.certificates.tail, c ∈ intermediates
  distinct : (v.path.certificates.map (·.encoding)).Nodup
  trusted : v.anchor ∈ verifier.store.anchors
  /-- Each certificate is issued by the next one. -/
  linked : v.path.certificates.IsChain fun c issuer =>
    verifier.environment.Issued c issuer.subject issuer.publicKey
  /-- The last certificate is issued by the anchor. -/
  closed : ∀ top, v.path.certificates.getLast? = some top →
    verifier.environment.Issued top v.anchor.subject v.anchor.publicKey
  leaf_form : verifier.policy.checkForm leaf = .ok ()
  leaf_algorithms : Policy.checkAlgorithms leaf = .ok ()
  leaf_rules : verifier.leafRules.check verifier.policy leaf = .ok ()
  leaf_role : verifier.policy.checkEndEntity leaf = .ok ()
  /-- Each authority fits the depth that the intermediates below it make up. -/
  authorities : ∀ below c above, v.path.intermediates = below ++ c :: above →
    (verifier.search leaf intermediates).AuthorityFits c
    (PathSearch.depthOf below)
  key_sizes : ∀ key ∈ PathSearch.keysOf v.path v.anchor,
    verifier.policy.checkKeySize key = .ok ()
  names : ∀ names, leaf.subjectAltName? = some names →
    ∀ constraints ∈ PathSearch.constraintsOn v.path v.anchor, ∀ entry ∈ names,
      (NameSubtrees.ofConstraints constraints).permits entry = true

section

variable {verifier : PathVerifier} {leaf : EncodedCertificate}
  {intermediates : List EncodedCertificate} {v : VerifiedPath}

/-- A valid path under an accepted leaf is justified. -/
theorem PathSearch.Valid.justified
    (hvalid : (verifier.search leaf intermediates).Valid intermediates v)
    (hleaf : (verifier.search leaf intermediates).checkLeaf verifier.leafRules =
      .ok ()) :
    verifier.Justified leaf intermediates v := by
  obtain ⟨hform, halgorithms, hrules, hrole⟩ :=
    (checkLeaf_eq_ok_iff _ _).mp hleaf
  obtain ⟨hsizes, hnames⟩ := (checkWholePath_eq_ok_iff _ _ _).mp hvalid.whole
  refine {
    leaf_first := congrArg some hvalid.leaf_eq
    supplied := hvalid.supplied
    distinct := hvalid.distinct
    trusted := hvalid.trusted
    linked := hvalid.linked
    closed := ?_
    leaf_form := hform
    leaf_algorithms := halgorithms
    leaf_rules := hrules
    leaf_role := hrole
    authorities := ?_
    key_sizes := hsizes
    names := ?_ }
  · intro top htop
    rw [v.path.getLast?_certificates] at htop
    cases htop
    exact hvalid.closed
  · intro below c above hsplit
    exact hvalid.fits hsplit
  · intro names hsome constraints hconstraints
    exact (NameSubtrees.check_eq_ok_iff _ names).mp
      (hnames names hsome constraints hconstraints)

/-- What is valid over the pool is valid over what was supplied. -/
theorem PathSearch.Valid.of_pool
    (hvalid : (verifier.search leaf intermediates).Valid
      (verifier.search leaf intermediates).pool v) :
    (verifier.search leaf intermediates).Valid intermediates v :=
  { hvalid with supplied := fun c hc => mem_of_mem_pool (hvalid.supplied c hc) }

theorem PathVerifier.justified_of_verify_eq
    (hverify : (verifier.verify leaf intermediates).value = .ok v) :
    verifier.Justified leaf intermediates v := by
  obtain ⟨hleaf, hvalid⟩ := PathSearch.run_ok hverify
  exact hvalid.of_pool.justified hleaf

/-- A client's path is the one that the search answers. -/
theorem ClientVerifier.inner_verify_eq {client : ClientVerifier}
    {w : VerifiedClient}
    (hverify : (client.verify leaf intermediates).value = .ok w) :
    (client.inner.verify leaf intermediates).value = .ok w.verified := by
  obtain ⟨found, hfound, hnames⟩ := bind_eq_ok_iff.mp hverify
  rw [hfound, VerifiedClient.verified_eq_of_ofPath hnames]

/-- A client's answer is made of the path that the search answers. -/
theorem ClientVerifier.verify_of_inner {client : ClientVerifier}
    {v : VerifiedPath}
    (hv : (client.inner.verify leaf intermediates).value = .ok v) :
    (client.verify leaf intermediates).value = VerifiedClient.ofPath v := by
  rw [ClientVerifier.verify]
  dsimp only
  rw [hv]
  rfl

end

/-- Verifiers of every kind answer only justified paths, whatever is supplied to
them. -/
theorem verified_path_justified (leaf : EncodedCertificate)
    (intermediates : List EncodedCertificate) :
    (∀ (verifier : PathVerifier) v,
      (verifier.verify leaf intermediates).value = .ok v →
        verifier.Justified leaf intermediates v) ∧
    (∀ (server : ServerVerifier) v,
      (server.verify leaf intermediates).value = .ok v →
        server.inner.Justified leaf intermediates v) ∧
    (∀ (client : ClientVerifier) w,
      (client.verify leaf intermediates).value = .ok w →
        client.inner.Justified leaf intermediates w.verified) := by
  refine ⟨?_, ?_, ?_⟩
  · intro verifier v hverify
    exact PathVerifier.justified_of_verify_eq hverify
  · intro server v hverify
    exact PathVerifier.justified_of_verify_eq hverify
  · intro client w hverify
    exact PathVerifier.justified_of_verify_eq
      (ClientVerifier.inner_verify_eq hverify)

open ChainFamily in
/-- A chain of three certificates, as every kind of verifier answers it. -/
theorem chain_justified :
    (verifier 2 none .serverAuth).Justified (leaf 2) (authorities 2 2)
        (chain 2) ∧
      (server 2).inner.Justified (leaf 2) (authorities 2 2) (chain 2) ∧
      (client 2).inner.Justified (leaf 2) (authorities 2 2) (chain 2) := by
  obtain ⟨hpath, hserver, hclient⟩ :=
    verified_path_justified (leaf 2) (authorities 2 2)
  refine ⟨?_, ?_, ?_⟩
  · apply hpath
    exact verify_chain (by simp) (by decide) (by decide)
  · apply hserver
    exact server_verify_chain (by decide) (by decide)
  · exact hclient (client 2) _ (client_verify_chain (by decide) (by decide))

end TrustPath
