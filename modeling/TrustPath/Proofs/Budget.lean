import TrustPath.Proofs.Completion
import TrustPath.Proofs.SearchInvariant

/-!
The budgets of a search. At every moment the counters keep to the limits, and no
more signatures were checked than candidates counted; so where the search stops
for a budget, a counter is just at its limit. A failure that says that a budget
is used up is never recorded on the way: only a search that stops answers one.
-/

namespace TrustPath

/-- The deepest failure is one of those recorded. -/
theorem PathFailure.mem_of_deepest? {failures : List PathFailure}
    {f : PathFailure} (hdeepest : deepest? failures = some f) :
    f ∈ failures := by
  induction failures generalizing f with
  | nil => cases hdeepest
  | cons latest earlier ih =>
      rw [deepest?] at hdeepest
      split at hdeepest
      next =>
        cases hdeepest
        exact List.mem_cons_self
      next g hg =>
        split at hdeepest
        · cases hdeepest
          exact List.mem_cons_self
        · cases hdeepest
          exact List.mem_cons_of_mem latest (ih hg)

namespace PathSearch

variable {search : PathSearch} {R : SearchProgress → SearchProgress → Prop}
  {room depth : Nat} {path : Path} {p q m : SearchProgress}

/-! ### The moments of a search -/

/-- What a candidate does to the progress in its turn, moment by moment: nothing
yet, it is counted, and if it passes so far, the signature of the certificate
below is checked with its key. -/
inductive Trial (search : PathSearch) (c : EncodedCertificate) (key : PublicKey)
    (passes : Prop) (p : SearchProgress) : SearchProgress → Prop where
  | turn : Trial search c key passes p p
  | counted {q : SearchProgress} (hcount : search.countCandidate p = .ok q) :
      Trial search c key passes p q
  | checked {q r : SearchProgress} {verdict : Except Failure Unit}
      (hpasses : passes)
      (hcount : search.countCandidate p = .ok q)
      (hverify : search.verifySignature c key q = .ok (verdict, r)) :
      Trial search c key passes p r

/-- The progress at the moments of a search from a path: where it arrives, in
the turn of each anchor and of each intermediate, above those intermediates that
continue the path, and at its end. -/
inductive Moment (search : PathSearch) :
    (room : Nat) → Path → Nat → SearchProgress → SearchProgress → Prop where
  | arrival {room depth : Nat} {path : Path} {p : SearchProgress} :
      Moment search room path depth p (p.visit path depth)
  | anchor {room depth : Nat} {path : Path} {a : TrustAnchor}
      {p r m : SearchProgress}
      (hturn : search.AnchorTurn path depth p a r)
      (htrial : search.Trial path.top a.publicKey True r m) :
      Moment search room path depth p m
  | issuer {room depth : Nat} {path : Path} {c : EncodedCertificate}
      {p r m : SearchProgress}
      (hturn : search.IssuerTurn (search.exploreAbove room) path depth p c r)
      (htrial : search.Trial path.top c.publicKey
        (∃ above, search.checkCandidate c depth = .ok above) r m) :
      Moment search room path depth p m
  | above {room depth above : Nat} {path : Path} {c : EncodedCertificate}
      {p r s t m : SearchProgress}
      (hturn : search.IssuerTurn (search.explore room) path depth p c r)
      (hcount : search.countCandidate r = .ok s)
      (hcheck : search.checkCandidate c depth = .ok above)
      (hverify : search.verifySignature path.top c.publicKey s =
        .ok (.ok (), t))
      (habove : Moment search room (path.push c) above t m) :
      Moment search (room + 1) path depth p m
  | ending {room depth : Nat} {path : Path} {p : SearchProgress} :
      Moment search room path depth p (search.explore room path depth p).2

theorem Respects.trial (hR : search.Respects R) {c : EncodedCertificate}
    {key : PublicKey} {passes : Prop} (htrial : search.Trial c key passes p m) :
    R p m := by
  cases htrial with
  | turn => exact hR.refl p
  | counted hcount => exact hR.count hcount
  | checked _ hcount hverify => exact hR.check hcount hverify

theorem Respects.anchorTurn (hR : search.Respects R) {anchor : TrustAnchor}
    (hturn : search.AnchorTurn path depth p anchor q) : R p q := by
  obtain ⟨before, _, _, hbefore⟩ := hturn
  have hanchors := hR.tryAnchors path before (p.visit path depth)
  rw [hbefore] at hanchors
  exact hR.trans _ _ _ (hR.visit p path depth) hanchors

theorem Respects.issuerTurn (hR : search.Respects R)
    {descend : Path → Nat → SearchStep}
    (hdescend : ∀ path depth, Relates R (descend path depth))
    {c : EncodedCertificate}
    (hturn : search.IssuerTurn descend path depth p c q) : R p q := by
  obtain ⟨before, _, r, hall, _, hbefore⟩ := hturn
  have hanchors := hR.tryAnchors path (search.anchorsFor path)
      (p.visit path depth)
  rw [hall] at hanchors
  have hissuers := hR.tryIssuers hdescend path depth before r
  rw [hbefore] at hissuers
  exact hR.trans _ _ _ (hR.trans _ _ _ (hR.visit p path depth) hanchors)
    hissuers

theorem Respects.exploreAbove (hR : search.Respects R) (room : Nat)
    (path : Path) (depth : Nat) :
    Relates R (search.exploreAbove room path depth) := by
  cases room with
  | zero => exact fun p => hR.refl p
  | succ room => exact hR.explore room path depth

/-- A relation that holds of each thing the search does holds from its beginning
to each moment of it. -/
theorem Respects.moment (hR : search.Respects R)
    (hmoment : search.Moment room path depth p m) : R p m := by
  induction hmoment with
  | arrival => exact hR.visit _ _ _
  | anchor hturn htrial =>
    exact hR.trans _ _ _ (hR.anchorTurn hturn) (hR.trial htrial)
  | issuer hturn htrial =>
      exact hR.trans _ _ _ (hR.issuerTurn (hR.exploreAbove _) hturn)
        (hR.trial htrial)
  | above hturn hcount _ hverify _ ih =>
      have hfirst := hR.issuerTurn (hR.explore _) hturn
      exact hR.trans _ _ _ (hR.trans _ _ _ hfirst (hR.check hcount hverify)) ih
  | ending => exact hR.explore _ _ _ _

/-- Where it holds of a closing note too, it holds from the beginning of a run
to its end. -/
theorem Respects.run (hR : search.Respects R)
    (hnote : ∀ p text, R p (p.note .info text))
    (leafRules : ExtensionPolicy) : R .start (search.run leafRules).2 := by
  have hsearch : R .start (search.exploreAll .start).2 := hR.explore _ _ _ _
  rcases hrun : search.run leafRules with ⟨result, progress⟩
  cases ends_of_run_eq hrun with
  | rejected => exact hnote _ _
  | aborted _ haborted =>
      rw [haborted] at hsearch
      exact hsearch
  | found _ hfound =>
      rw [hfound] at hsearch
      exact hR.trans _ _ _ hsearch (hnote _ _)
  | exhausted _ hexhausted =>
      rw [hexhausted] at hsearch
      exact hR.trans _ _ _ hsearch (hnote _ _)

/-! ### The counters and their limits -/

/-- The counters keep to the limits, and every signature was checked with the
key of another candidate that was counted. -/
structure InBudget (search : PathSearch) (p : SearchProgress) : Prop where
  checks_le_candidates : p.signatureChecks ≤ p.candidatesExamined
  signatureChecks : p.signatureChecks ≤
    search.policy.limits.maxSignatureChecks.toNat
  candidates : p.candidatesExamined ≤ search.policy.limits.maxCandidates.toNat

theorem InBudget.start (search : PathSearch) : search.InBudget .start :=
  ⟨Nat.le_refl 0, Nat.zero_le _, Nat.zero_le _⟩

theorem respects_inBudget (search : PathSearch) :
    search.Respects fun p q => search.InBudget p → search.InBudget q where
  refl _ := id
  trans _ _ _ hfirst hsecond := hsecond ∘ hfirst
  visit _ _ _ hbudget := ⟨hbudget.1, hbudget.2, hbudget.3⟩
  count := by
    intro p q hcount hbudget
    obtain ⟨hleft, rfl⟩ := (countCandidate_eq_ok_iff search p q).mp hcount
    exact ⟨Nat.le_succ_of_le hbudget.checks_le_candidates,
      hbudget.signatureChecks, hleft⟩
  check := by
    intro p q r c key verdict hcount hverify hbudget
    obtain ⟨hcandidate, rfl⟩ := (countCandidate_eq_ok_iff search p q).mp hcount
    obtain ⟨hsignature, _, rfl⟩ := verifySignature_eq_ok_iff.mp hverify
    exact ⟨Nat.succ_le_succ hbudget.checks_le_candidates, hsignature,
      hcandidate⟩
  note _ _ hbudget := ⟨hbudget.1, hbudget.2, hbudget.3⟩
  fail _ _ _ _ hbudget := ⟨hbudget.1, hbudget.2, hbudget.3⟩

/-- The search cannot go on, and the counter that it is about to raise is just
at its limit. -/
def StopsAtLimit (search : PathSearch) (e : Failure) (p : SearchProgress) :
    Prop :=
  search.countCandidate p = .error e ∧
      p.candidatesExamined = search.policy.limits.maxCandidates.toNat ∨
    (∃ c key, search.verifySignature c key p = .error e) ∧
      p.signatureChecks = search.policy.limits.maxSignatureChecks.toNat

theorem Stops.at_limit {e : Failure} (hstops : search.Stops e p)
    (hbudget : search.InBudget p) : search.StopsAtLimit e p := by
  rcases hstops with hcount | ⟨c, key, hverify⟩
  · exact Or.inl ⟨hcount,
      Nat.le_antisymm hbudget.candidates (countCandidate_eq_error hcount).1⟩
  · exact Or.inr ⟨⟨c, key, hverify⟩,
      Nat.le_antisymm hbudget.signatureChecks
      (verifySignature_eq_error hverify).1⟩

/-- From within the limits, the search aborts only where a counter is just at
its limit. -/
theorem explore_aborted_at {e : Failure} (hbudget : search.InBudget p)
    (hrun : search.explore room path depth p = (.aborted e, q)) :
    search.StopsAtLimit e q := by
  have hend := (respects_inBudget search).explore room path depth p hbudget
  rw [hrun] at hend
  exact (explore_aborted hrun).at_limit hend

/-- In its turn an anchor stops the search where it stands, or is counted. -/
theorem attemptAnchor_counts (search : PathSearch) (path : Path)
    (anchor : TrustAnchor) (p : SearchProgress) :
    (∃ e, search.attemptAnchor path anchor p = (.aborted e, p)) ∨
      p.candidatesExamined <
        (search.attemptAnchor path anchor p).2.candidatesExamined := by
  rw [attemptAnchor]
  cases hcount : search.countCandidate p with
  | error e => exact Or.inl ⟨e, rfl⟩
  | ok q =>
      obtain ⟨_, rfl⟩ := (countCandidate_eq_ok_iff search p q).mp hcount
      refine Or.inr ?_
      dsimp only
      split
      next => exact Nat.lt_succ_self _
      next hverify =>
        obtain ⟨_, _, rfl⟩ := verifySignature_eq_ok_iff.mp hverify
        exact Nat.lt_succ_self _
      next hverify =>
        obtain ⟨_, _, rfl⟩ := verifySignature_eq_ok_iff.mp hverify
        split <;> exact Nat.lt_succ_self _

/-- In its turn an intermediate stops the search where it stands, or is
counted. -/
theorem attemptIssuer_counts (search : PathSearch) (room : Nat) (path : Path)
    (depth : Nat) (c : EncodedCertificate) (p : SearchProgress) :
    (∃ e, search.attemptIssuer (search.exploreAbove room) path depth c p =
      (.aborted e, p)) ∨ p.candidatesExamined <
        (search.attemptIssuer (search.exploreAbove room) path depth c
          p).2.candidatesExamined := by
  rw [attemptIssuer]
  cases hcount : search.countCandidate p with
  | error e => exact Or.inl ⟨e, rfl⟩
  | ok q =>
      obtain ⟨_, rfl⟩ := (countCandidate_eq_ok_iff search p q).mp hcount
      refine Or.inr ?_
      dsimp only
      split
      next => exact Nat.lt_succ_self _
      next above _ =>
        split
        next => exact Nat.lt_succ_self _
        next hverify =>
          obtain ⟨_, _, rfl⟩ := verifySignature_eq_ok_iff.mp hverify
          exact Nat.lt_succ_self _
        next r hverify =>
          obtain ⟨_, _, hr⟩ := verifySignature_eq_ok_iff.mp hverify
          have hcounted : r.candidatesExamined = p.candidatesExamined + 1 := by
            rw [hr]
          have habove :=
            ((respects_spentAtLeast search).exploreAbove room
              (path.push c) above r).candidates
          omega

/-! ### What a run answers when a budget is used up -/

/-- What the search records is a finding, or that no issuer is known. -/
theorem respects_recorded (search : PathSearch) :
    search.Respects fun p q =>
      (∀ f ∈ p.failures, IsRecorded f.failure) → ∀ f ∈ q.failures,
        IsRecorded f.failure where
  refl _ := id
  trans _ _ _ hfirst hsecond := hsecond ∘ hfirst
  visit _ _ _ := id
  count := by
    intro p q hcount
    obtain ⟨_, rfl⟩ := (countCandidate_eq_ok_iff search p q).mp hcount
    exact id
  check := by
    intro p q r c key verdict hcount hverify
    obtain ⟨_, rfl⟩ := (countCandidate_eq_ok_iff search p q).mp hcount
    obtain ⟨_, _, rfl⟩ := verifySignature_eq_ok_iff.mp hverify
    exact id
  note _ _ := id
  fail := by
    intro p path e hrecorded hbefore f hf
    rcases List.mem_cons.mp hf with rfl | hf
    · exact hrecorded
    · exact hbefore f hf

variable {leafRules : ExtensionPolicy}

/-- The counters of a whole run keep to the limits. -/
theorem run_inBudget (search : PathSearch) (leafRules : ExtensionPolicy) :
    search.InBudget (search.run leafRules).2 :=
  (respects_inBudget search).run (fun _ _ hbudget =>
    ⟨hbudget.1, hbudget.2, hbudget.3⟩) leafRules
    (.start search)

/-- A run fails for a budget exactly where its search aborts. -/
theorem run_isBudget_iff {e : Failure} {progress : SearchProgress}
    (hrun : search.run leafRules = (.error e, progress)) :
    e.IsBudget ↔
      search.checkLeaf leafRules = .ok () ∧ ∃ q,
        search.exploreAll .start = (.aborted e, q) := by
  cases ends_of_run_eq hrun with
  | rejected hrejected =>
      constructor
      · intro hbudget
        exact absurd hbudget
          (search.judgesOnly_checkLeaf leafRules e hrejected).2.not_isBudget
      · rintro ⟨hleaf, _⟩
        rw [hleaf] at hrejected
        cases hrejected
  | aborted hleaf haborted =>
      constructor
      · exact fun _ => ⟨hleaf, _, haborted⟩
      · exact fun _ => (explore_aborted haborted).isBudget
  | @exhausted _ p hleaf hexhausted hdeepest =>
      have hrecorded : ∀ f ∈ (search.exploreAll .start).2.failures,
          IsRecorded f.failure :=
        (respects_recorded search).explore _ _ _ _
          (by simp [SearchProgress.start])
      rw [hexhausted] at hrecorded
      constructor
      · intro hbudget
        rcases hdeepest with ⟨f, hf, rfl⟩ | ⟨_, rfl⟩
        · exact absurd hbudget
            (hrecorded f (PathFailure.mem_of_deepest? hf)).not_isBudget
        · exact absurd hbudget (IsRecorded.not_isBudget (Or.inr ⟨_, rfl⟩))
      · rintro ⟨_, q, haborted⟩
        rw [hexhausted] at haborted
        cases haborted

end PathSearch

end TrustPath
