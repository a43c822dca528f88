import TrustPath.Proofs.ChainFamily
import TrustPath.Proofs.DeepestFailure

/-!
What kind of failure a verifier answers. If the checkers of signatures only
reject, so does the verifier, whatever the validators of extensions fail with.
There is one gap: the size of an RSA key is checked on whole paths only, and a
key that cannot be read fails there without a reason.
-/

namespace TrustPath

/-! ### Signatures -/

/-- The checkers of signatures fail only with rejections. -/
def SignatureEnvironment.OnlyRejects (environment : SignatureEnvironment) :
    Prop :=
  ∀ checker ∈ environment.checkers, ∀ message signature algorithm key,
    FailsOnly Failure.IsRejection
      (checker.run environment.addresses message signature algorithm key).value

namespace SignatureEnvironment

/-- Of the checkers that are asked, the last has the say. -/
theorem failsOnly_ask {P : Failure → Prop}
    {run : RegisteredChecker → SignatureCheck.Outcome}
    {last : Failure} {checkers : List RegisteredChecker} (hlast : P last)
    (hrun : ∀ checker ∈ checkers, FailsOnly P (run checker).value) :
    FailsOnly P (ask run last checkers).value := by
  induction checkers generalizing last with
  | nil => exact (failsOnly_error_iff last).mpr hlast
  | cons checker rest ih =>
      rw [ask]
      split
      next => exact failsOnly_ok ()
      next e log hasked =>
        have he : P e := hrun checker List.mem_cons_self e (by rw [hasked])
        exact ih he fun other hother =>
          hrun other (List.mem_cons_of_mem checker hother)

theorem OnlyRejects.verify {environment : SignatureEnvironment}
    (honly : environment.OnlyRejects) (message signature : Bytes)
    (algorithm : AlgorithmIdentifier) (key : PublicKey) :
    FailsOnly Failure.IsRejection
      (environment.verify message signature algorithm key).value :=
  failsOnly_ask ⟨_, rfl⟩ fun checker hchecker =>
    honly checker hchecker message signature algorithm key

end SignatureEnvironment

namespace PathSearch

variable {search : PathSearch}

theorem failsOnly_signatureVerdict (honly : search.environment.OnlyRejects)
    (c : EncodedCertificate) (key : PublicKey) :
    FailsOnly Failure.IsRejection
      ((search.verifies c key).value.mapError (unverified c)) := by
  intro e hfails
  obtain ⟨cause, hcause, rfl⟩ := mapError_eq_error_iff.mp hfails
  obtain ⟨r, rfl⟩ := honly.verify _ _ _ _ cause hcause
  exact ⟨_, rfl⟩

/-! ### Paths that come to nothing -/

/-- A path would be closed by an anchor that verifies its top certificate, if a
key could be read. -/
def LacksReadableKey (search : PathSearch) (path : Path) (key : PublicKey) :
    Prop :=
  ∃ anchor ∈ search.anchorsFor path,
    (search.verifies path.top anchor.publicKey).value = .ok () ∧
      search.EndsAtUnreadableKey path anchor key

/-- A path comes to nothing by a rejection, or else for a key that cannot be
read. -/
theorem Refuses.isRejection_or {visit : PathVisit} {e : Failure}
    (hrefuses : search.Refuses visit e)
    (honly : search.environment.OnlyRejects) :
    e.IsRejection ∨ ∃ key, e = .unreadableKey search.policy.keyFault key ∧
      search.LacksReadableKey visit.path key := by
  cases hrefuses with
  | @anchor anchor _ hanchor hverdict =>
      rcases bind_eq_error_iff.mp hverdict
          with hsignature | ⟨_, hsignature, hwhole⟩
      · exact Or.inl (failsOnly_signatureVerdict honly _ _ e hsignature)
      · rcases search.failsOnly_checkWholePath _ _ e hwhole
            with hjudged | ⟨key, hfailure, hkey⟩
        · exact Or.inl hjudged.1
        · exact Or.inr ⟨key, hfailure, anchor, hanchor,
            mapError_eq_ok_iff.mp hsignature, hkey⟩
  | issuer _ hverdict =>
      left
      rcases bind_eq_error_iff.mp hverdict with hcandidate | ⟨_, _, hverdict⟩
      · exact (search.judgesOnly_checkCandidate _ _ e hcandidate).1
      · rcases bind_eq_error_iff.mp hverdict with hsignature | ⟨_, _, hreturn⟩
        · exact failsOnly_signatureVerdict honly _ _ e hsignature
        · cases hreturn
  | unknown _ => exact Or.inl ⟨_, rfl⟩

/-- The search comes to nothing, and its deepest failure is that of a path for
which a key cannot be read. -/
def StopsAtKey (search : PathSearch) (leafRules : ExtensionPolicy)
    (key : PublicKey) : Prop :=
  search.checkLeaf leafRules = .ok () ∧ ∃ p,
    search.exploreAll .start = (.exhausted, p) ∧ ∃ visit ∈ p.visits,
      PathFailure.deepest? p.failures =
          some ⟨visit.path.length, .unreadableKey search.policy.keyFault key⟩ ∧
        search.LacksReadableKey visit.path key

/-- The search stops at some key that cannot be read. -/
def StopsAtUnreadableKey (search : PathSearch) (leafRules : ExtensionPolicy) :
    Prop :=
  ∃ key, search.StopsAtKey leafRules key

variable {leafRules : ExtensionPolicy} {e : Failure} {key : PublicKey}

/-- A failure with a reason is a rejection. -/
theorem isRejection_of_reason? {reason : Reason}
    (hreason : e.reason? = some reason) : e.IsRejection := by
  cases e with
  | rejected r => exact ⟨r, rfl⟩
  | _ => cases hreason

/-- A run fails with a rejection, unless it stops at a key that cannot be
read. -/
theorem run_isRejection_or (honly : search.environment.OnlyRejects)
    (hfails : (search.run leafRules).1 = .error e) :
    e.IsRejection ∨ search.StopsAtUnreadableKey leafRules := by
  obtain ⟨progress, hrun⟩ : ∃ progress,
      search.run leafRules = (.error e, progress) :=
    ⟨_, Prod.ext hfails rfl⟩
  cases ends_of_run_eq hrun with
  | rejected hleaf text =>
      exact Or.inl (search.judgesOnly_checkLeaf leafRules e hleaf).1
  | aborted hleaf hsearch =>
    exact Or.inl (isRejection_of_reason? (explore_aborted hsearch).isBudget)
  | @exhausted _ p hleaf hsearch _ text =>
      obtain ⟨⟨length, cause⟩, hf, hexplains⟩ := exists_explains hsearch
      have he : e = cause :=
        Except.error.inj (hfails.symm.trans (run_of_deepest? hleaf hsearch hf))
      obtain ⟨visit, hvisit, rfl, hrefuses⟩ :=
        (hexplains.recorded _).mp (List.mem_reverse.mp hexplains.first.mem)
      rcases hrefuses.isRejection_or honly with hrejection | ⟨key, rfl, hlacks⟩
      · exact Or.inl (he ▸ hrejection)
      · exact Or.inr ⟨key, hleaf, p, hsearch, visit, hvisit, hf, hlacks⟩

/-- A run that stops at such a key says so, without a reason. -/
theorem StopsAtKey.run_eq (hstops : search.StopsAtKey leafRules key) :
    (search.run leafRules).1 =
      .error (.unreadableKey search.policy.keyFault key) := by
  obtain ⟨hleaf, p, hsearch, visit, _, hdeepest, _⟩ := hstops
  exact run_of_deepest? hleaf hsearch hdeepest

/-- A key at which a search stops is that of the leaf, of an intermediate or of
an anchor. -/
theorem StopsAtKey.isUnreadable_and_mem
    (hstops : search.StopsAtKey leafRules key) : key.IsUnreadableRsa ∧
      ((∃ c ∈ search.leaf :: search.pool, c.publicKey = key) ∨
        ∃ anchor ∈ search.store.anchors, anchor.publicKey = key) := by
  obtain ⟨_, p, hsearch, visit, hvisit, _, anchor, hanchor, _, before, after,
      hkeys, _, hkey⟩ := hstops
  refine ⟨hkey, ?_⟩
  have hmem : key ∈ keysOf visit.path anchor := by
    rw [hkeys]
    simp
  rw [keysOf, List.mem_append, List.mem_map, List.mem_singleton] at hmem
  rcases hmem with ⟨c, hc, hckey⟩ | hanchorKey
  · left
    refine ⟨c, ?_, hckey⟩
    rw [Path.certificates, List.mem_cons, leaf_of_visited hsearch hvisit] at hc
    rcases hc with rfl | hc
    · exact List.mem_cons_self
    · exact List.mem_cons_of_mem _ (mem_pool_of_visited hsearch hvisit c hc)
  · right
    exact ⟨anchor, ((mem_anchorsFor_iff _ _ _).mp hanchor).1, hanchorKey.symm⟩

end PathSearch

/-- A verifier of servers whose checkers of signatures only reject fails with a
rejection, whatever the validators of extensions fail with, but for one case:
the search comes to nothing, and its deepest failure is that of an RSA key that
cannot be read. So it always rejects if every key can be read. -/
theorem server_rejects_iff (server : ServerVerifier) (leaf : EncodedCertificate)
    (intermediates : List EncodedCertificate) (e : Failure)
    (honly : server.inner.environment.OnlyRejects)
    (hfails : (server.verify leaf intermediates).value = .error e) :
    (e.IsRejection ↔
      ¬ (server.inner.search leaf intermediates).StopsAtUnreadableKey
        server.inner.leafRules) ∧
    (¬ e.IsRejection → ∃ key : PublicKey, key.IsUnreadableRsa ∧
      e = .unreadableKey server.inner.policy.keyFault key) ∧
    ((∀ c ∈ leaf :: intermediates, ¬ c.publicKey.IsUnreadableRsa) →
      (∀ anchor ∈ server.inner.store.anchors,
        ¬ anchor.publicKey.IsUnreadableRsa) → e.IsRejection) := by
  have hkind : e.IsRejection ∨
      (server.inner.search leaf intermediates).StopsAtUnreadableKey
      server.inner.leafRules :=
    PathSearch.run_isRejection_or honly hfails
  have hunreadable {key : PublicKey}
      (hstops : (server.inner.search leaf intermediates).StopsAtKey
      server.inner.leafRules key) :
        e = .unreadableKey server.inner.policy.keyFault key :=
    Except.error.inj (hfails.symm.trans hstops.run_eq)
  refine ⟨⟨?_, hkind.resolve_right⟩, ?_, ?_⟩
  · rintro ⟨r, rfl⟩ ⟨key, hstops⟩
    cases hunreadable hstops
  · intro hother
    obtain ⟨key, hstops⟩ := hkind.resolve_left hother
    exact ⟨key, hstops.isUnreadable_and_mem.1, hunreadable hstops⟩
  · intro hcertificates hanchors
    apply hkind.resolve_right
    rintro ⟨key, hstops⟩
    obtain ⟨hkey, ⟨c, hc, rfl⟩ | ⟨anchor, hanchor, rfl⟩⟩ :=
      hstops.isUnreadable_and_mem
    · refine hcertificates c ?_ hkey
      rcases List.mem_cons.mp hc with rfl | hpool
      · exact List.mem_cons_self
      · exact List.mem_cons_of_mem _ (PathSearch.mem_of_mem_pool hpool)
    · exact hanchors anchor hanchor hkey

namespace ChainFamily

theorem onlyRejects_environment (maxChainDepth : UInt8) :
    (server maxChainDepth).inner.environment.OnlyRejects := by
  intro checker hchecker _ _ _ _
  rw [List.mem_singleton.mp hchecker]
  exact failsOnly_ok ()

/-- A chain of three that is too long by one is rejected; the keys of the family
are none of RSA. -/
theorem long_chain_rejected :
    ∃ e, ((server 1).verify (leaf 2) (authorities 2 2)).value = .error e ∧
      e.IsRejection := by
  have hfails : ((server 1).verify (leaf 2) (authorities 2 2)).value =
      .error (.rejectedAs .invalidPathLength
        "path would include 2 intermediates, more than the maximum of 1") := by
    decide +kernel
  obtain ⟨_, _, hreadable⟩ :=
    server_rejects_iff (server 1) (leaf 2) (authorities 2 2) _
      (onlyRejects_environment 1) hfails
  exact ⟨_, hfails, hreadable (by decide +kernel) (by decide +kernel)⟩

/-- A leaf below the anchor with an RSA key of no octets. -/
def unreadableLeaf : EncodedCertificate :=
  let c := certificate 0 ⟨[part 3 [0x4c]]⟩ rootName (some leafExtensions)
  let key : PublicKey := ⟨⟨.rsaEncryption, some ⟨.null, []⟩⟩, ⟨0, []⟩⟩
  encoded { c with tbs := { c.tbs with publicKey := key } }
    [(.subjectAltName, .subjectAltName alternativeNames)]

/-- The leaf is read from its encoding, and every signature is accepted; but the
failure is no rejection. -/
theorem unreadable_leaf_not_rejected :
    EncodedCertificate.ofBytes? unreadableLeaf.encoding = some unreadableLeaf ∧
      (server 2).inner.environment.OnlyRejects ∧
      ((server 2).verify unreadableLeaf []).value =
        .error (.malformed "RSA public key could not be read") ∧
      ¬ (Failure.malformed "RSA public key could not be read").IsRejection := by
  refine ⟨by decide +kernel, onlyRejects_environment 2, by decide +kernel, ?_⟩
  rintro ⟨r, hrejected⟩
  cases hrejected

end ChainFamily

end TrustPath
