import Mathlib.Data.List.Chain
import Mathlib.Data.List.Nodup
import TrustPath.Proofs.Checks

/-!
What a valid certification path is, said without the search: a leaf and some of
the certificates supplied, no two with one encoding, each issued by the next and
the last by a trusted anchor, each authority fit for its depth, and the whole
fit for the anchor. The partial paths that the search pushes and pops are the
same without the anchor.
-/

namespace TrustPath

/-- The number of certificates that are not self-issued, counted without a
bound. -/
def nonSelfIssued (cs : List EncodedCertificate) : Nat :=
  cs.countP fun c => !c.isSelfIssued

theorem nonSelfIssued_concat (cs : List EncodedCertificate)
    (c : EncodedCertificate) :
    nonSelfIssued (cs ++ [c]) = nonSelfIssued cs + if c.isSelfIssued then 0
      else 1 := by
  cases hc : c.isSelfIssued <;> simp [nonSelfIssued, List.countP_append, hc]

/-- The name and the key are those of an issuer of the certificate: the name
matches, and the key verifies the signature over the signed bytes under the
outer algorithm. -/
def SignatureEnvironment.Issued (environment : SignatureEnvironment)
    (c : EncodedCertificate) (name : Name) (key : PublicKey) : Prop :=
  name.isMatch c.issuer = true ∧
    (environment.verify c.signedBytes c.signature c.signatureAlgorithm
      key).value = .ok ()

namespace Path

@[simp] theorem intermediates_push (path : Path) (c : EncodedCertificate) :
    (path.push c).intermediates = path.intermediates ++ [c] := rfl

@[simp] theorem certificates_push (path : Path) (c : EncodedCertificate) :
    (path.push c).certificates = path.certificates ++ [c] := rfl

theorem getLast?_certificates (path : Path) :
    path.certificates.getLast? = some path.top := by
  simp [certificates, top, List.getLast?_cons]

/-- What is on a path is decided by encodings. -/
theorem has_eq_true_iff (path : Path) (c : EncodedCertificate) :
    path.has c = true ↔ c.encoding ∈ path.certificates.map (·.encoding) := by
  simp [has]

theorem has_eq_false_iff (path : Path) (c : EncodedCertificate) :
    path.has c = false ↔ c.encoding ∉ path.certificates.map (·.encoding) := by
  rw [← path.has_eq_true_iff c, Bool.not_eq_true]

theorem has_push (path : Path) (c other : EncodedCertificate) :
    (path.push c).has other =
      (path.has other || decide (c.encoding = other.encoding)) := by
  simp [has]

end Path

namespace PathSearch

/-- The depth at which the search stands above some intermediates: the number of
those that are not self-issued, as far as it is counted. -/
def depthOf (cs : List EncodedCertificate) : Nat :=
  min (nonSelfIssued cs) maxDepth

@[simp] theorem depthOf_nil : depthOf [] = 0 := rfl

/-- The counter that the search carries is the depth: it saturates, and never
lags behind. -/
theorem depthOf_concat (cs : List EncodedCertificate) (c : EncodedCertificate) :
    depthOf (cs ++ [c]) = depthAbove c (depthOf cs) := by
  rw [depthOf, nonSelfIssued_concat, depthAbove, depthOf]
  split <;> omega

/-- A partial path that the search may stand on: from its leaf over supplied
certificates, no two with one encoding, each issued by the next and each
accepted at its depth. -/
structure OnCourse (search : PathSearch) (supplied : List EncodedCertificate)
    (path : Path) : Prop where
  leaf_eq : path.leaf = search.leaf
  supplied : ∀ c ∈ path.intermediates, c ∈ supplied
  distinct : (path.certificates.map (·.encoding)).Nodup
  linked : path.certificates.IsChain fun c issuer =>
    search.environment.Issued c issuer.subject issuer.publicKey
  passed : ∀ below c above, path.intermediates = below ++ c :: above →
    ∃ depth, search.checkCandidate c (depthOf below) = .ok depth

/-- A partial path that an anchor of the store closes, with everything that
depends on the whole. -/
structure Valid (search : PathSearch) (supplied : List EncodedCertificate)
    (v : VerifiedPath) : Prop extends OnCourse search supplied v.path where
  trusted : v.anchor ∈ search.store.anchors
  closed : search.environment.Issued v.path.top v.anchor.subject
    v.anchor.publicKey
  whole : search.checkWholePath v.path v.anchor = .ok ()

variable {search : PathSearch} {supplied : List EncodedCertificate}
  {path : Path}

theorem OnCourse.start (search : PathSearch)
    (supplied : List EncodedCertificate) :
    search.OnCourse supplied ⟨search.leaf, []⟩ where
  leaf_eq := rfl
  supplied := by simp
  distinct := by simp [Path.certificates]
  linked := by simp [Path.certificates]
  passed := by simp

/-- Going on to an issuer keeps a partial path on course. -/
theorem OnCourse.push (hcourse : search.OnCourse supplied path)
    {c : EncodedCertificate} {depth : Nat} (hsupplied : c ∈ supplied)
    (hfresh : path.has c = false)
    (hissued : search.environment.Issued path.top c.subject c.publicKey)
    (hpassed : search.checkCandidate c (depthOf path.intermediates) =
      .ok depth) :
    search.OnCourse supplied (path.push c) where
  leaf_eq := hcourse.leaf_eq
  supplied := by
    intro other hother
    rw [Path.intermediates_push, List.mem_append, List.mem_singleton] at hother
    rcases hother with hother | rfl
    · exact hcourse.supplied other hother
    · exact hsupplied
  distinct := by
    rw [Path.certificates_push, List.map_append, List.map_singleton,
      List.nodup_append]
    refine ⟨hcourse.distinct, List.nodup_singleton _, ?_⟩
    intro encoding hencoding other hother
    rw [List.mem_singleton.mp hother]
    exact ne_of_mem_of_not_mem hencoding ((path.has_eq_false_iff c).mp hfresh)
  linked := by
    rw [Path.certificates_push, List.isChain_append]
    refine ⟨hcourse.linked, List.IsChain.singleton c, ?_⟩
    intro top htop issuer hissuer
    rw [path.getLast?_certificates] at htop
    cases htop
    cases hissuer
    exact hissued
  passed := by
    intro below other above hsplit
    rw [Path.intermediates_push] at hsplit
    rcases List.append_eq_append_iff.mp hsplit
        with ⟨rest, hbelow, hrest⟩ | ⟨rest, hwhole, hrest⟩
    · -- `other` is at the end, or two would be the single certificate pushed
      cases rest with
      | nil =>
          simp only [List.nil_append, List.cons.injEq] at hrest
          rw [hbelow, List.append_nil, ← hrest.1]
          exact ⟨depth, hpassed⟩
      | cons head tail => simp at hrest
    · cases rest with
      | nil =>
          simp only [List.nil_append, List.cons.injEq] at hrest
          rw [List.append_nil] at hwhole
          rw [hrest.1, ← hwhole]
          exact ⟨depth, hpassed⟩
      | cons head tail =>
          simp only [List.cons_append, List.cons.injEq] at hrest
          rw [hrest.1]
          exact hcourse.passed below head tail hwhole

/-- Each intermediate of a path on course goes on from the part of the path
below it. -/
theorem OnCourse.extends_below (hcourse : search.OnCourse supplied path)
    {below above : List EncodedCertificate} {c : EncodedCertificate}
    (hsplit : path.intermediates = below ++ c :: above) :
    c ∈ supplied ∧ Path.has ⟨path.leaf, below⟩ c = false ∧
      search.environment.Issued (Path.top ⟨path.leaf, below⟩) c.subject
        c.publicKey ∧
      ∃ depth, search.checkCandidate c (depthOf below) = .ok depth := by
  have hcertificates :
      path.certificates = (Path.certificates ⟨path.leaf, below⟩) ++
      c :: above := by
    simp [Path.certificates, hsplit]
  have hdistinct := hcourse.distinct
  have hlinked := hcourse.linked
  rw [hcertificates, List.map_append, List.map_cons, List.nodup_append]
    at hdistinct
  rw [hcertificates, List.isChain_append] at hlinked
  refine ⟨hcourse.supplied c (by simp [hsplit]), ?_, ?_,
    hcourse.passed below c above hsplit⟩
  · rw [Path.has_eq_false_iff]
    intro hmem
    exact hdistinct.2.2 c.encoding hmem c.encoding List.mem_cons_self rfl
  · exact hlinked.2.2 _ (Path.getLast?_certificates _) c rfl

/-- Each intermediate of a path on course fits the depth that those below it
make up. -/
theorem OnCourse.fits (hcourse : search.OnCourse supplied path)
    {below above : List EncodedCertificate} {c : EncodedCertificate}
    (hsplit : path.intermediates = below ++ c :: above) :
    search.AuthorityFits c (depthOf below) := by
  obtain ⟨depth, hpassed⟩ := hcourse.passed below c above hsplit
  exact ((search.checkCandidate_eq_ok_iff c _ depth).mp hpassed).1

end PathSearch

end TrustPath
