import TrustPath.Proofs.Budget
import TrustPath.Proofs.LargerBudget

/-!
The work of a verifier is bounded. How often the environment is asked can be
told by asking one that answers alike and leaves a mark in the log each time:
the marks are as many as the signature checks counted. These, and the candidates
examined, keep to the limits at every moment, and only a search that is stopped
by a limit fails for a budget.
-/

namespace TrustPath

namespace SignatureEnvironment

/-- The environment that answers as another does, and leaves one mark in the log
each time it is asked. -/
def marking (environment : SignatureEnvironment) : SignatureEnvironment :=
  ⟨[⟨0, fun _ message signature algorithm key =>
    ⟨(environment.verify message signature algorithm key).value,
      [⟨.error, "asked"⟩]⟩⟩]⟩

theorem verify_marking (environment : SignatureEnvironment)
    (message signature : Bytes) (algorithm : AlgorithmIdentifier)
    (key : PublicKey) :
    environment.marking.verify message signature algorithm key =
      ⟨(environment.verify message signature algorithm key).value,
        [⟨.error, "asked"⟩]⟩ := by
  rw [verify, marking, askHanding, ask]
  split
  next hask =>
    injection hask with hvalue hlog
    rw [← hvalue, ← hlog]
  next hask =>
    injection hask with hvalue hlog
    rw [hvalue, ← hlog]
    rfl

end SignatureEnvironment

/-- The number of marks in the log. The search itself writes nothing of this
level. -/
def SearchProgress.marks (p : SearchProgress) : Nat :=
  p.log.countP fun entry => entry.level = .error

/-- The same progress but for what was logged. -/
structure SearchProgress.SameButLog (p q : SearchProgress) : Prop where
  signatureChecks : q.signatureChecks = p.signatureChecks
  candidates : q.candidatesExamined = p.candidatesExamined
  visits : q.visits = p.visits
  failures : q.failures = p.failures

namespace PathSearch

variable {search : PathSearch} {leafRules : ExtensionPolicy}

/-- The same search, with an environment that leaves a mark each time it is
asked. -/
def marking (search : PathSearch) : PathSearch :=
  { search with environment := search.environment.marking }

@[simp] theorem policy_marking (search : PathSearch) :
    search.marking.policy = search.policy := rfl

theorem verifies_marking (search : PathSearch) (c : EncodedCertificate)
    (key : PublicKey) :
    search.marking.verifies c key =
      ⟨(search.verifies c key).value, [⟨.error, "asked"⟩]⟩ :=
  search.environment.verify_marking _ _ _ _

/-- What the environment logs changes nothing but the log. -/
theorem lockstep_marking (search : PathSearch) :
    Lockstep False SearchProgress.SameButLog search search.marking where
  anchorsFor _ := rfl
  issuersFor _ := rfl
  checkCandidate _ _ := rfl
  checkWholePath _ _ := rfl
  visit _ _ hsame :=
    ⟨hsame.signatureChecks, hsame.candidates,
      by simp [SearchProgress.visit, hsame.visits], hsame.failures⟩
  note _ _ hsame := ⟨hsame.signatureChecks, hsame.candidates, hsame.visits,
    hsame.failures⟩
  fail _ _ hsame :=
    ⟨hsame.signatureChecks, hsame.candidates, hsame.visits,
      by simp [SearchProgress.fail, hsame.failures]⟩
  count := by
    intro p q hsame
    rw [countCandidate, countCandidate, hsame.candidates, policy_marking]
    by_cases hspent : search.policy.limits.maxCandidates.toNat ≤
        p.candidatesExamined
    · rw [if_pos hspent, if_pos hspent]
      exact .error _
    · rw [if_neg hspent, if_neg hspent]
      exact .ok ⟨hsame.signatureChecks, rfl, hsame.visits, hsame.failures⟩
  check := by
    intro p q c key hsame
    rw [verifySignature, verifySignature, verifies_marking,
      hsame.signatureChecks, policy_marking]
    by_cases hspent : search.policy.limits.maxSignatureChecks.toNat ≤
        p.signatureChecks
    · rw [if_pos hspent, if_pos hspent]
      exact .error _
    · rw [if_neg hspent, if_neg hspent]
      exact .ok ⟨rfl, rfl, hsame.candidates, hsame.visits, hsame.failures⟩

/-- Each signature check that is counted leaves one mark, and nothing else
does. -/
theorem respects_marks (search : PathSearch) :
    search.marking.Respects fun p q => q.marks + p.signatureChecks =
      p.marks + q.signatureChecks where
  refl _ := rfl
  trans p q r hfirst hsecond := by
    omega
  visit _ _ _ := rfl
  count := by
    intro p q hcount
    obtain ⟨_, rfl⟩ := (countCandidate_eq_ok_iff _ p q).mp hcount
    rfl
  check := by
    intro p q r c key verdict hcount hverify
    obtain ⟨_, rfl⟩ := (countCandidate_eq_ok_iff _ p q).mp hcount
    obtain ⟨_, _, rfl⟩ := verifySignature_eq_ok_iff.mp hverify
    -- the environment's own log is the mark alone
    rw [verifies_marking]
    simp only [SearchProgress.marks, List.reverse_singleton,
      List.singleton_append, decide_true, List.countP_cons_of_pos]
    omega
  note p text := by
    simp [SearchProgress.marks, SearchProgress.note]
  fail _ _ _ _ := rfl

/-- A run that leaves marks answers as one that does not, and leaves one for
each signature check counted. -/
theorem run_marking (search : PathSearch) (leafRules : ExtensionPolicy) :
    (search.marking.run leafRules).1 = (search.run leafRules).1 ∧
      (search.marking.run leafRules).2.marks =
        (search.run leafRules).2.signatureChecks := by
  have haccepted : search.marking.checkLeaf leafRules =
      search.checkLeaf leafRules := rfl
  rcases search.lockstep_marking.run rfl rfl haccepted
      (fun hsame => hsame.failures)
    ⟨rfl, rfl, rfl, rfl⟩ with ⟨⟨⟩, _⟩ | ⟨hresult, hsame⟩
  have hnote (p : SearchProgress) (text : String) :
      (p.note .info text).marks + p.signatureChecks =
        p.marks + (p.note .info text).signatureChecks := by
    simp [SearchProgress.marks, SearchProgress.note]
  have hmarks := search.respects_marks.run hnote leafRules
  refine ⟨hresult, ?_⟩
  rw [← hsame.signatureChecks]
  simpa [SearchProgress.marks, SearchProgress.start] using hmarks

end PathSearch

namespace PathVerifier

/-- The same verifier, with an environment that leaves a mark each time it is
asked. -/
def marking (verifier : PathVerifier) : PathVerifier :=
  { verifier with environment := verifier.environment.marking }

/-- What bounds the work of a verifier, and what it answers for it. -/
structure BoundedWork (verifier : PathVerifier) (leaf : EncodedCertificate)
    (intermediates : List EncodedCertificate) : Prop where
  /-- The environment is asked as often as signature checks are counted. -/
  asked : (verifier.marking.explore leaf intermediates).1 =
    (verifier.explore leaf intermediates).1 ∧
    (verifier.marking.explore leaf intermediates).2.marks =
      (verifier.explore leaf intermediates).2.signatureChecks
  /-- No anchor is looked at without being counted, unless the search stops
  instead. -/
  anchors : ∀ path anchor p,
    (∃ e, (verifier.search leaf intermediates).attemptAnchor path anchor p =
      (.aborted e, p)) ∨ p.candidatesExamined <
        ((verifier.search leaf intermediates).attemptAnchor path anchor
          p).2.candidatesExamined
  /-- No intermediate is looked at without being counted, unless the search
  stops instead. -/
  issuers : ∀ room path depth c p,
    (∃ e, (verifier.search leaf intermediates).attemptIssuer
        ((verifier.search leaf intermediates).exploreAbove room) path depth c
        p = (.aborted e, p)) ∨
      p.candidatesExamined < ((verifier.search leaf intermediates).attemptIssuer
        ((verifier.search leaf intermediates).exploreAbove room) path depth c
        p).2.candidatesExamined
  /-- In the end the counters keep to the limits. -/
  total : (verifier.search leaf intermediates).InBudget
    (verifier.explore leaf intermediates).2
  /-- So they do at every moment, and no more signatures were checked than
  candidates examined. -/
  moments : ∀ m, (verifier.search leaf intermediates).Moment
    (verifier.search leaf intermediates).pool.length ⟨leaf, []⟩ 0 .start m →
      (verifier.search leaf intermediates).InBudget m
  /-- From wherever it searches, it stops only for a budget, with the counter at
  its limit. -/
  stops : ∀ room path depth p e q,
    (verifier.search leaf intermediates).InBudget p →
    (verifier.search leaf intermediates).explore room path depth p =
      (.aborted e, q) → (verifier.search leaf intermediates).StopsAtLimit e q ∧
      e.IsBudget
  /-- It fails for a budget exactly where it accepts the leaf and then stops. -/
  answers : ∀ e, (verifier.explore leaf intermediates).1 = .error e →
    (e.IsBudget ↔
      (verifier.search leaf intermediates).checkLeaf verifier.leafRules =
      .ok () ∧
        ∃ q, (verifier.search leaf intermediates).exploreAll .start =
        (.aborted e, q))

end PathVerifier

/-- The limits bound the work of every verifier on every input, and nothing else
makes it stop. -/
theorem work_bounded (verifier : PathVerifier) (leaf : EncodedCertificate)
    (intermediates : List EncodedCertificate) :
    verifier.BoundedWork leaf intermediates where
  asked := (verifier.search leaf intermediates).run_marking verifier.leafRules
  anchors := (verifier.search leaf intermediates).attemptAnchor_counts
  issuers := (verifier.search leaf intermediates).attemptIssuer_counts
  total := (verifier.search leaf intermediates).run_inBudget verifier.leafRules
  moments _ hmoment := (PathSearch.respects_inBudget _).moment hmoment
    (.start _)
  stops _ _ _ _ _ _ hbudget hrun :=
    ⟨PathSearch.explore_aborted_at hbudget hrun,
      (PathSearch.explore_aborted hrun).isBudget⟩
  answers _ hfails := PathSearch.run_isBudget_iff (Prod.ext hfails rfl)

open ChainFamily in
/-- A chain of three certificates under a limit of two signature checks: two are
made and leave their marks, and before the third the search stops. -/
theorem chain_stops_at_limit :
    (((verifier 2 none .clientAuth).withLimits ⟨2, 70000⟩).marking.explore
        (leaf 2) (authorities 2 2)).2.marks = 2 ∧
      ∃ e q, (((verifier 2 none .clientAuth).withLimits ⟨2, 70000⟩).search
          (leaf 2) (authorities 2 2)).exploreAll .start = (.aborted e, q) ∧
        (((verifier 2 none .clientAuth).withLimits ⟨2, 70000⟩).search (leaf 2)
          (authorities 2 2)).StopsAtLimit e q := by
  have hwork := work_bounded
      ((verifier 2 none .clientAuth).withLimits ⟨2, 70000⟩) (leaf 2)
    (authorities 2 2)
  have hchecks : (((verifier 2 none .clientAuth).withLimits ⟨2, 70000⟩).explore
      (leaf 2) (authorities 2 2)).2.signatureChecks = 2 := by
    decide +kernel
  have hfails : (((verifier 2 none .clientAuth).withLimits ⟨2, 70000⟩).explore
      (leaf 2) (authorities 2 2)).1 =
      .error (.rejectedAs .pathBuildingBudgetExceeded
        "performed 2 signature verifications without finding a path") := by
    decide +kernel
  obtain ⟨_, q, haborted⟩ := (hwork.answers _ hfails).mp rfl
  exact ⟨hwork.asked.2.trans hchecks, _, q, haborted,
    (hwork.stops _ _ _ _ _ _ (.start _) haborted).1⟩

end TrustPath
