import TrustPath.Proofs.Ascent
import TrustPath.Proofs.Budget
import TrustPath.Proofs.ChainFamily

/-!
A verified path verifies again by itself. Over its own intermediates alone,
under the same store or under one of its anchor alone, the search goes straight
up the path: every anchor tried on the way was refused on the first way too, and
nothing else is tried. So it costs no more than it did.
-/

namespace TrustPath

namespace PathSearch

variable {search : PathSearch} {store : TrustStore} {path : Path}
  {v : VerifiedPath}

def narrowed (search : PathSearch) (store : TrustStore)
    (pool : List EncodedCertificate) : PathSearch :=
  { search with store := store, pool := pool }

/-- A store that is the same, or holds one of its anchors alone, has no other
anchors for a path. -/
theorem anchorsFor_narrowed_sublist (hanchor : v.anchor ∈ search.store.anchors)
    (hstore : store = search.store ∨ store = ⟨[v.anchor]⟩)
    (pool : List EncodedCertificate) (path : Path) :
    List.Sublist ((search.narrowed store pool).anchorsFor path)
      (search.anchorsFor path) := by
  have hanchors : List.Sublist store.anchors search.store.anchors := by
    rcases hstore with rfl | rfl
    · exact List.Sublist.refl _
    · exact List.singleton_sublist.mpr hanchor
  exact hanchors.filter _

/-- An ascent is a way straight up over the intermediates of its path, at no
greater cost. -/
theorem Ascent.straight {cost : Nat} (hascent : search.Ascent path v cost)
    (hanchor : v.anchor ∈ search.store.anchors)
    (hstore : store = search.store ∨ store = ⟨[v.anchor]⟩) :
    ∃ less, less ≤ cost ∧
      (search.narrowed store v.path.intermediates).Straight path v less := by
  induction hascent with
  | @close path before after anchor hsplit hbefore hcloses =>
      rcases hstore with rfl | rfl
      · exact ⟨_, Nat.le_refl _, .close hsplit hbefore hcloses⟩
      · have hmem : anchor ∈ search.anchorsFor path := by simp [hsplit]
        have hname := ((search.mem_anchorsFor_iff path anchor).mp hmem).2
        have halone : (search.narrowed ⟨[anchor]⟩ path.intermediates).anchorsFor
            path = [] ++ anchor :: [] := by
          simp [anchorsFor, TrustStore.named, narrowed, hname]
        exact ⟨0 + 1, by omega, .close halone (by simp) hcloses⟩
  | @extend path before after c above cost v hanchors hsplit _ hcontinues hrest
        ih =>
      obtain ⟨less, hless, hstraight⟩ := ih hanchor hstore
      have hissuer : c ∈ search.issuersFor path := by simp [hsplit]
      obtain ⟨_, hname, hfresh⟩ := (search.mem_issuersFor_iff path c).mp hissuer
      obtain ⟨rest, hpath⟩ := hrest.completion.extends_path
      have hpool : (search.narrowed store v.path.intermediates).pool =
          path.intermediates ++ c :: rest := by
        rw [narrowed, hpath, Path.intermediates_push, List.append_assoc,
          List.singleton_append]
      -- every anchor that is tried here again was refused before
      have hsublist := anchorsFor_narrowed_sublist hanchor hstore
          v.path.intermediates path
      have hfewer := hsublist.length_le
      obtain ⟨others, hfirst⟩ := issuersFor_eq_cons hpool hname hfresh
      refine ⟨_, ?_, .extend (fun other hother =>
        hanchors other (hsublist.subset hother)) hfirst
        hcontinues hstraight⟩
      omega

variable {leafRules : ExtensionPolicy} {progress : SearchProgress}

/-- A run that answers a path answers it again over the intermediates of the
path, and counts no more. -/
theorem run_narrowed (hrun : search.run leafRules = (.ok v, progress))
    (hstore : store = search.store ∨ store = ⟨[v.anchor]⟩) :
    ∃ again, (search.narrowed store v.path.intermediates).run leafRules =
      (.ok v, again) ∧ again.signatureChecks ≤ progress.signatureChecks ∧
      again.candidatesExamined ≤ progress.candidatesExamined := by
  obtain ⟨hleaf, hvalid⟩ := run_ok (congrArg Prod.fst hrun)
  obtain ⟨cost, hascent, hspent⟩ := run_ascent hrun
  obtain ⟨less, hless, hstraight⟩ := hascent.straight hvalid.trusted hstore
  have hlimits := search.run_inBudget leafRules
  rw [hrun] at hlimits
  have hchecks := Nat.le_trans (Nat.add_le_add_left hless 0)
      hspent.signatureChecks
  have hcandidates :=
    Nat.le_trans (Nat.add_le_add_left hless 0) hspent.candidates
  have hbudget : (search.narrowed store v.path.intermediates).HasBudget
      .start less :=
    ⟨Nat.le_trans hchecks hlimits.signatureChecks,
      Nat.le_trans hcandidates hlimits.candidates⟩
  obtain ⟨again, hagain, hfound⟩ := hstraight.run_eq hleaf hbudget
  refine ⟨again, hfound, ?_, ?_⟩
  · rw [hagain.signatureChecks]
    exact hchecks
  · rw [hagain.candidates]
    exact hcandidates

end PathSearch

/-- The verifier answers the path over the intermediates of the path alone, and
counts no more than was counted before. -/
def PathVerifier.Reverifies (verifier : PathVerifier)
    (leaf : EncodedCertificate) (v : VerifiedPath)
    (progress : SearchProgress) : Prop :=
  ∃ again, verifier.explore leaf v.path.intermediates = (.ok v, again) ∧
    again.signatureChecks ≤ progress.signatureChecks ∧
    again.candidatesExamined ≤ progress.candidatesExamined

/-- A verifier that has answered a path answers it again over the path's own
intermediates, under its store and under a store of the path's anchor alone. -/
theorem verified_path_reverifies (verifier : PathVerifier)
    (leaf : EncodedCertificate) (intermediates : List EncodedCertificate)
    (v : VerifiedPath) (progress : SearchProgress)
    (hverify : verifier.explore leaf intermediates = (.ok v, progress)) :
    verifier.Reverifies leaf v progress ∧
      ∃ alone,
        (TrustStore.ofCertificates [v.anchor.certificate]).value = .ok alone ∧
          { verifier with store := alone }.Reverifies leaf v progress := by
  obtain ⟨_, hvalid⟩ := PathSearch.run_ok (congrArg Prod.fst hverify)
  have hpool : PathSearch.fresh [leaf.encoding] v.path.intermediates =
      v.path.intermediates := by
    have hdistinct := hvalid.distinct
    rw [Path.certificates, List.map_cons, hvalid.leaf_eq] at hdistinct
    exact PathSearch.fresh_eq_self hdistinct
  have hagain (store : TrustStore) (hstore : store = verifier.store ∨
      store = ⟨[v.anchor]⟩) :
      { verifier with store := store }.Reverifies leaf v progress := by
    have hsame : { verifier with store := store }.search leaf
        v.path.intermediates = (verifier.search leaf intermediates).narrowed
        store v.path.intermediates := by
      rw [PathVerifier.search, PathSearch.ofIntermediates, hpool]
      rfl
    rw [PathVerifier.Reverifies, PathVerifier.explore, hsame]
    exact PathSearch.run_narrowed hverify hstore
  exact ⟨hagain verifier.store (Or.inl rfl), ⟨[v.anchor]⟩, rfl,
    hagain _ (Or.inr rfl)⟩

open ChainFamily in
/-- A chain of three certificates, found after a dead end: it is found again
without the detour. -/
theorem chain_reverifies :
    ∃ progress, (verifier 2 none .clientAuth).explore (leaf 2)
        (authorityWith 9 (name 0) (name 7) :: authorities 2 2) =
          (.ok (chain 2), progress) ∧
      progress.signatureChecks = 4 ∧
      (verifier 2 none .clientAuth).Reverifies (leaf 2) (chain 2) progress := by
  rcases hrun : (verifier 2 none .clientAuth).explore (leaf 2)
    (authorityWith 9 (name 0) (name 7) :: authorities 2 2)
    with ⟨result, progress⟩
  have hfound : ((verifier 2 none .clientAuth).explore (leaf 2)
      (authorityWith 9 (name 0) (name 7) :: authorities 2 2)).1 =
      .ok (chain 2) := by
    decide +kernel
  have hchecks : ((verifier 2 none .clientAuth).explore (leaf 2)
      (authorityWith 9 (name 0) (name 7) :: authorities 2 2)).2.signatureChecks
      = 4 := by
    decide +kernel
  rw [hrun] at hfound hchecks
  subst hfound
  exact ⟨progress, rfl, hchecks, (verified_path_reverifies _ _ _ _ _ hrun).1⟩

end TrustPath
