import TrustPath.Proofs.ClientNames
import TrustPath.Proofs.Lockstep
import TrustPath.Proofs.Soundness

/-!
Verifiers of servers and of clients with the same options. The subject counts
for the leaf only, and there comes last, so both search in the same way: they
part where the leaf does not name the subject, and where one of its names cannot
be shown.
-/

namespace TrustPath

/-! ### Searches that differ in the subject -/

/-- The validators of the rules do not ask whom a certificate has to be issued
for. -/
def ExtensionPolicy.IgnoresSubject (rules : ExtensionPolicy) : Prop :=
  ∀ policy subject, rules.AnswersAlike policy { policy with subject := subject }

theorem ExtensionPolicy.WebPki.ignoresSubject_authorities :
    authorities.IgnoresSubject := by
  intro policy subject rule hrule
  simp only [authorities, commonRules, authorityRules, List.cons_append,
    List.nil_append, List.mem_cons, List.not_mem_nil, or_false] at hrule
  rcases hrule with rfl | rfl | rfl | rfl | rfl | rfl | rfl | rfl | rfl <;>
    rintro validator ⟨⟩ c x <;> rfl

namespace PathSearch

variable {search : PathSearch} {subject : Subject} {leafRules : ExtensionPolicy}

def withSubject (search : PathSearch) (subject : Option Subject) : PathSearch :=
  search.withPolicy { search.policy with subject := subject }

theorem lockstep_withSubject (hignores : search.authorityRules.IgnoresSubject)
    (subject : Option Subject) : Lockstep False (· = ·) search
      (search.withSubject subject) := by
  apply lockstep_withPolicy { search.policy with subject := subject }
    ⟨rfl, rfl, rfl, rfl⟩ (hignores _ _)
  · intro p
    exact Agree.refl (fun _ => rfl) (search.countCandidate p)
  · intro p c key
    exact Agree.refl (fun _ => ⟨rfl, rfl⟩) (search.verifySignature c key p)

def checkNamed (leaf : EncodedCertificate) (subject : Subject) :
    Except Failure Unit :=
  if leaf.subjectAltName?.any subject.isMatch then .ok ()
  else .error (.rejectedAs .subjectMismatch
    (leaf.subject.text ++ " was not issued for " ++ subject.text))

theorem checkNamed_eq_ok_iff {leaf : EncodedCertificate} :
    checkNamed leaf subject = .ok () ↔
      leaf.subjectAltName?.any subject.isMatch = true := by
  rw [checkNamed]
  split
  next hnamed => simp [hnamed]
  next hnamed => simp [hnamed]

theorem checkNamed_eq_error {leaf : EncodedCertificate} {e : Failure}
    (hfails : checkNamed leaf subject = .error e) :
    ∃ message, e = .rejectedAs .subjectMismatch message := by
  rw [checkNamed] at hfails
  split at hfails
  · cases hfails
  · cases hfails
    exact ⟨_, rfl⟩

theorem checkNamed_of_not_named {leaf : EncodedCertificate}
    (hnamed : leaf.subjectAltName?.any subject.isMatch = false) :
    ∃ message, checkNamed leaf subject =
      .error (.rejectedAs .subjectMismatch message) := by
  rw [checkNamed, hnamed]
  exact ⟨_, rfl⟩

theorem checkEndEntity_withSubject {policy : Policy}
    (hnobody : policy.subject = none) (leaf : EncodedCertificate)
    (subject : Subject) :
    Policy.checkEndEntity { policy with subject := some subject } leaf = (do
      policy.checkEndEntity leaf
      checkNamed leaf subject) := by
  rw [Policy.checkEndEntity, Policy.checkEndEntity, hnobody]
  by_cases hrefused : (leaf.extKeyUsage?.any fun purposes =>
    !policy.allowsPurpose purposes) = true
  · rw [if_pos hrefused]
    exact if_pos hrefused
  · rw [if_neg hrefused]
    exact if_neg hrefused

/-- A subject adds its check after all others. -/
theorem checkLeaf_withSubject (search : PathSearch) (subject : Subject)
    (hignores : leafRules.IgnoresSubject)
    (hnobody : search.policy.subject = none) :
    (search.withSubject (some subject)).checkLeaf leafRules = (do
      search.checkLeaf leafRules
      checkNamed search.leaf subject) := by
  have hrules : leafRules.check { search.policy with subject := some subject }
      search.leaf = leafRules.check search.policy search.leaf :=
    (hignores _ _).check_eq search.leaf
  have hform : Policy.checkForm { search.policy with subject := some subject }
      search.leaf = search.policy.checkForm search.leaf := rfl
  simp only [checkLeaf, withSubject, withPolicy, hform, hrules,
    checkEndEntity_withSubject hnobody, bind_assoc]

/-- For a subject, the leaf is checked with all its names, and then the answer
is that for nobody in particular. -/
theorem run_withSubject (search : PathSearch) (subject : Subject)
    (hauthorities : search.authorityRules.IgnoresSubject)
    (hignores : leafRules.IgnoresSubject)
    (hnobody : search.policy.subject = none) :
    ((search.withSubject (some subject)).run leafRules).1 = (do
      search.checkLeaf leafRules
      checkNamed search.leaf subject
      (search.run leafRules).1) := by
  have hleaf := search.checkLeaf_withSubject subject hignores hnobody
  cases hchecked : search.checkLeaf leafRules with
  | error e =>
      rw [hchecked] at hleaf
      exact run_of_checkLeaf_error hleaf
  | ok _ =>
      rw [hchecked] at hleaf
      cases hnamed : checkNamed search.leaf subject with
      | error e =>
          rw [hnamed] at hleaf
          exact run_of_checkLeaf_error hleaf
      | ok _ =>
          -- the leaf passes with and without the subject, so the two searches
          -- stay in step
          rw [hnamed] at hleaf
          have hsame : (search.withSubject (some subject)).checkLeaf leafRules =
              search.checkLeaf leafRules := hleaf.trans hchecked.symm
          rcases (lockstep_withSubject hauthorities (some subject)).run rfl
              rfl hsame
            (fun heq => by rw [heq]) rfl with ⟨hfalse, _⟩ | ⟨hresult, _⟩
          · exact absurd hfalse not_false
          · exact hresult

end PathSearch

/-! ### Verifiers -/

/-- A verifier of servers, for a subject, and a verifier of clients answer alike
of a leaf, but for the subject and for names that cannot be shown. -/
structure ServerVerifier.AgreesWith (server : ServerVerifier)
    (client : ClientVerifier) (subject : Subject) (leaf : EncodedCertificate)
    (intermediates : List EncodedCertificate) : Prop where
  /-- A client is a server if its leaf names the subject. -/
  accepted : ∀ w, (client.verify leaf intermediates).value = .ok w →
    leaf.subjectAltName?.any subject.isMatch = true →
      (server.verify leaf intermediates).value = .ok w.verified
  mismatched : ∀ w, (client.verify leaf intermediates).value = .ok w →
    leaf.subjectAltName?.any subject.isMatch = false →
      ∃ message, (server.verify leaf intermediates).value =
        .error (.rejectedAs .subjectMismatch message)
  /-- A server is a client with one name for each entry of its leaf, unless one
  cannot be shown. -/
  found : ∀ v, (server.verify leaf intermediates).value = .ok v →
    (∃ names, (client.verify leaf intermediates).value = .ok ⟨v, names⟩ ∧
      names.map (List.map SubjectName.toGeneralName) = leaf.subjectAltName?) ∨
    (client.verify leaf intermediates).value = .error .unsupportedName
  unsupported : ∀ v, (server.verify leaf intermediates).value = .ok v →
    ((client.verify leaf intermediates).value = .error .unsupportedName ↔
      ∃ entries, leaf.subjectAltName? = some entries ∧ ∃ entry ∈ entries,
      entry.IsUnsupported)
  failed : ∀ e, (server.verify leaf intermediates).value = .error e →
    e.reason? ≠ some .subjectMismatch →
    (client.verify leaf intermediates).value = .error e

def PathVerifier.withSubject (verifier : PathVerifier) (subject : Subject) :
    PathVerifier :=
  { verifier with policy := { verifier.policy with subject := some subject } }

section

variable {verifier : PathVerifier} {subject : Subject}
  {leaf : EncodedCertificate} {intermediates : List EncodedCertificate}

/-- For a subject, a verifier also checks that the leaf names it. -/
theorem PathVerifier.verify_withSubject
    (hauthorities : verifier.authorityRules.IgnoresSubject)
    (hleaf : verifier.leafRules.IgnoresSubject)
    (hnobody : verifier.policy.subject = none) :
    ((verifier.withSubject subject).verify leaf intermediates).value = (do
      (verifier.search leaf intermediates).checkLeaf verifier.leafRules
      PathSearch.checkNamed leaf subject
      (verifier.verify leaf intermediates).value) :=
  (verifier.search leaf intermediates).run_withSubject subject hauthorities
    hleaf hnobody

/-- Two verifiers that share everything but the subject agree. -/
theorem PathVerifier.agreesWith_withSubject
    (hauthorities : verifier.authorityRules.IgnoresSubject)
    (hleaf : verifier.leafRules.IgnoresSubject)
    (hnobody : verifier.policy.subject = none) :
    ServerVerifier.AgreesWith ⟨verifier.withSubject subject, subject⟩
      ⟨verifier⟩ subject leaf
      intermediates := by
  have hserver : (ServerVerifier.verify ⟨verifier.withSubject subject,
      subject⟩ leaf intermediates).value = _ :=
    PathVerifier.verify_withSubject hauthorities hleaf hnobody
  have hfound {v : VerifiedPath}
      (hv : (ServerVerifier.verify ⟨verifier.withSubject subject, subject⟩
      leaf intermediates).value = .ok v) :
      (ClientVerifier.verify ⟨verifier⟩ leaf intermediates).value =
        VerifiedClient.ofPath v ∧ v.path.leaf = leaf := by
    rw [hserver, check_bind_eq_ok_iff, check_bind_eq_ok_iff] at hv
    obtain ⟨_, _, hinner⟩ := hv
    exact ⟨ClientVerifier.verify_of_inner hinner,
      (PathSearch.run_ok hinner).2.leaf_eq⟩
  refine ⟨?_, ?_, ?_, ?_, ?_⟩
  · intro w hw hnamed
    have hinner := ClientVerifier.inner_verify_eq hw
    rw [hserver, (PathSearch.run_ok hinner).1,
      PathSearch.checkNamed_eq_ok_iff.mpr hnamed]
    exact hinner
  · intro w hw hnamed
    have hinner := ClientVerifier.inner_verify_eq hw
    obtain ⟨message, hmismatch⟩ := PathSearch.checkNamed_of_not_named hnamed
    refine ⟨message, ?_⟩
    rw [hserver, (PathSearch.run_ok hinner).1, hmismatch]
    rfl
  · intro v hv
    obtain ⟨hsame, hend⟩ := hfound hv
    rw [hsame, ← hend]
    exact VerifiedClient.ofPath_cases v
  · intro v hv
    obtain ⟨hsame, hend⟩ := hfound hv
    rw [hsame, ← hend]
    exact VerifiedClient.ofPath_eq_error_iff v
  · intro e hfails hreason
    apply bind_eq_error_iff.mpr
    left
    rw [hserver, bind_eq_error_iff] at hfails
    rcases hfails with hchecked | ⟨_, _, hfails⟩
    · exact PathSearch.run_of_checkLeaf_error hchecked
    · rcases bind_eq_error_iff.mp hfails with hnamed | ⟨_, _, hinner⟩
      · obtain ⟨message, rfl⟩ := PathSearch.checkNamed_eq_error hnamed
        exact absurd rfl hreason
      · exact hinner

end

/-! ### Verifiers with the same options -/

namespace VerifierOptions

/-- What verifiers of both roles share if nothing is left to the role: all but
the subject. -/
def shared (options : VerifierOptions) (store : TrustStore) (time : DateTime)
    (purpose : Oid) (leafRules : ExtensionPolicy) : PathVerifier where
  policy :=
    ⟨time, options.maxChainDepth.getD defaultMaxChainDepth, none, purpose,
      options.minimumRsaModulus.getD defaultMinimumRsaModulus,
      options.limits.getD .standard, plainKeyFault⟩
  store := store
  authorityRules := options.authorityRules.getD
    ExtensionPolicy.WebPki.authorities
  leafRules := leafRules
  environment := options.environment.getD .standard

variable {options : VerifierOptions} {store : TrustStore} {time : DateTime}
  {purpose : Oid} {leafRules : ExtensionPolicy}

theorem server_eq_shared (hstore : options.store = some store)
    (htime : options.validationTime = some time)
    (hpurpose : options.purpose = some purpose)
    (hleafRules : options.leafRules = some leafRules) (now : DateTime)
    (subject : Subject) : (options.server now subject).value =
      .ok ⟨(options.shared store time purpose leafRules).withSubject subject,
        subject⟩ := by
  rw [server, assemble, hstore, htime, hpurpose, hleafRules]
  rfl

theorem client_eq_shared (hstore : options.store = some store)
    (htime : options.validationTime = some time)
    (hpurpose : options.purpose = some purpose)
    (hleafRules : options.leafRules = some leafRules) (now : DateTime) :
    (options.client now).value =
      .ok ⟨options.shared store time purpose leafRules⟩ := by
  rw [client, assemble, hstore, htime, hpurpose, hleafRules]
  rfl

end VerifierOptions

/-- With a store, a time, a purpose and rules for the leaf set, and validators
that do not ask for the subject, the verifier of servers for any subject and the
verifier of clients agree on every leaf. -/
theorem servers_and_clients_agree (options : VerifierOptions)
    (leafRules : ExtensionPolicy) (serverClock clientClock : DateTime)
    (subject : Subject) (leaf : EncodedCertificate)
    (intermediates : List EncodedCertificate)
    (hstore : options.store.isSome = true)
    (htime : options.validationTime.isSome = true)
    (hpurpose : options.purpose.isSome = true)
    (hleafRules : options.leafRules = some leafRules)
    (hleaf : leafRules.IgnoresSubject)
    (hauthorities : ∀ rules, options.authorityRules = some rules →
      rules.IgnoresSubject) :
    ∃ server client, (options.server serverClock subject).value = .ok server ∧
      (options.client clientClock).value = .ok client ∧
      server.AgreesWith client subject leaf intermediates := by
  obtain ⟨store, hstore⟩ := Option.isSome_iff_exists.mp hstore
  obtain ⟨time, htime⟩ := Option.isSome_iff_exists.mp htime
  obtain ⟨purpose, hpurpose⟩ := Option.isSome_iff_exists.mp hpurpose
  have hignores :
      (options.authorityRules.getD
        ExtensionPolicy.WebPki.authorities).IgnoresSubject := by
    cases hrules : options.authorityRules with
    | none => exact ExtensionPolicy.WebPki.ignoresSubject_authorities
    | some rules => exact hauthorities rules hrules
  refine ⟨_, _, VerifierOptions.server_eq_shared hstore htime hpurpose
    hleafRules _ _, VerifierOptions.client_eq_shared hstore htime hpurpose
    hleafRules _, ?_⟩
  exact PathVerifier.agreesWith_withSubject hignores hleaf rfl

namespace ChainFamily

def sharedOptions : VerifierOptions :=
  { options 2 with purpose := some .clientAuth }

theorem ignoresSubject_permitAll :
    ExtensionPolicy.permitAll.IgnoresSubject := by
  intro _ _ rule hrule
  cases hrule

/-- The client of a chain of three is also a server for the host that its leaf
names, and not for an address. -/
theorem chain_client_is_server :
    (∃ server, (sharedOptions.server now (.dns host)).value = .ok server ∧
      (server.verify (leaf 2) (authorities 2 2)).value = .ok (chain 2)) ∧
    ∃ server message,
      (sharedOptions.server now (.ip ⟨[127, 0, 0, 1], Or.inl rfl⟩)).value =
          .ok server ∧
        (server.verify (leaf 2) (authorities 2 2)).value =
          .error (.rejectedAs .subjectMismatch message) := by
  have hverify : ((client 2).verify (leaf 2) (authorities 2 2)).value =
      .ok ⟨chain 2, some [.dns "*.example"]⟩ :=
    client_verify_chain (by decide) (by decide)
  have hagree (subject : Subject) : ∃ server,
      (sharedOptions.server now subject).value = .ok server ∧
      server.AgreesWith (client 2) subject (leaf 2) (authorities 2 2) := by
    obtain ⟨server, other, hserver, hother, hagrees⟩ :=
      servers_and_clients_agree sharedOptions .permitAll now now subject
        (leaf 2) (authorities 2 2) rfl rfl rfl rfl ignoresSubject_permitAll
        (by rintro _ ⟨⟩; exact ignoresSubject_permitAll)
    cases hother
    exact ⟨server, hserver, hagrees⟩
  obtain ⟨named, hnamed, hagrees⟩ := hagree (.dns host)
  obtain ⟨stranger, hstranger, hdiffers⟩ :=
    hagree (.ip ⟨[127, 0, 0, 1], Or.inl rfl⟩)
  obtain ⟨message, hmismatch⟩ := hdiffers.mismatched _ hverify rfl
  exact ⟨⟨named, hnamed, hagrees.accepted _ hverify host_isMatch⟩,
    ⟨stranger, message, hstranger, hmismatch⟩⟩

end ChainFamily

end TrustPath
