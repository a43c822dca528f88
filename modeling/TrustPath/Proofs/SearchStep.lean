import TrustPath.Proofs.Checks

/-!
What one step of the search can do. A step ends in one of three ways, and each
way says what was tried and what was counted: an abort that a budget is used up,
an exhausted step that every alternative was refused, and a path that its last
alternative was accepted.
-/

namespace TrustPath

/-- The failure says that a budget is used up. -/
def Failure.IsBudget (e : Failure) : Prop :=
  e.reason? = some .pathBuildingBudgetExceeded

/-- Between two moments of a search, so many possible issuers were looked at,
and a signature was checked with the key of each. -/
structure SearchProgress.Spent (p : SearchProgress) (steps : Nat)
    (q : SearchProgress) : Prop where
  signatureChecks : q.signatureChecks = p.signatureChecks + steps
  candidates : q.candidatesExamined = p.candidatesExamined + steps

theorem SearchProgress.Spent.refl (p : SearchProgress) : p.Spent 0 p :=
  ⟨rfl, rfl⟩

theorem SearchProgress.Spent.trans {p q r : SearchProgress} {m n : Nat}
    (hfirst : p.Spent m q) (hsecond : q.Spent n r) : p.Spent (m + n) r where
  signatureChecks := by
    rw [hsecond.signatureChecks, hfirst.signatureChecks, Nat.add_assoc]
  candidates := by
    rw [hsecond.candidates, hfirst.candidates, Nat.add_assoc]

/-- To note and record a failure costs nothing. -/
theorem SearchProgress.Spent.fail {p q : SearchProgress} {n : Nat}
    (hspent : p.Spent n q) (level : LogLevel) (text : String) (path : Path)
    (e : Failure) : p.Spent n ((q.note level text).fail path e) :=
  ⟨hspent.signatureChecks, hspent.candidates⟩

/-- To arrive at a path costs nothing. -/
theorem SearchProgress.Spent.of_visit {p q : SearchProgress} {n depth : Nat}
    {path : Path} (hspent : (p.visit path depth).Spent n q) : p.Spent n q :=
  ⟨hspent.signatureChecks, hspent.candidates⟩

/-- At least so many steps were made. -/
structure SearchProgress.SpentAtLeast (p : SearchProgress) (steps : Nat)
    (q : SearchProgress) : Prop where
  signatureChecks : p.signatureChecks + steps ≤ q.signatureChecks
  candidates : p.candidatesExamined + steps ≤ q.candidatesExamined

theorem SearchProgress.Spent.atLeast {p q : SearchProgress} {n : Nat}
    (hspent : p.Spent n q) : p.SpentAtLeast n q :=
  ⟨Nat.le_of_eq hspent.signatureChecks.symm,
    Nat.le_of_eq hspent.candidates.symm⟩

theorem SearchProgress.SpentAtLeast.trans {p q r : SearchProgress} {m n : Nat}
    (hfirst : p.SpentAtLeast m q) (hsecond : q.SpentAtLeast n r) :
    p.SpentAtLeast (m + n) r where
  signatureChecks := by
    have hm := hfirst.signatureChecks
    have hn := hsecond.signatureChecks
    omega
  candidates := by
    have hm := hfirst.candidates
    have hn := hsecond.candidates
    omega

/-- A run over alternatives that does not end exhausted ends with one of them,
and those before it are exhausted. -/
theorem tryEach_ended {α : Type} {attempt : α → SearchStep} {xs : List α}
    {p q : SearchProgress} {outcome : SearchOutcome}
    (hrun : tryEach attempt xs p = (outcome, q))
    (hended : outcome ≠ .exhausted) : ∃ before a after r,
      xs = before ++ a :: after ∧ tryEach attempt before p = (.exhausted, r) ∧
      attempt a r = (outcome, q) := by
  induction xs generalizing p with
  | nil =>
      simp only [tryEach, Prod.mk.injEq] at hrun
      exact absurd hrun.1.symm hended
  | cons a rest ih =>
      rw [tryEach] at hrun
      split at hrun
      next r hfirst =>
        obtain ⟨before, b, after, s, hsplit, hbefore, hb⟩ := ih hrun
        refine ⟨a :: before, b, after, s,
          by rw [hsplit, List.cons_append], ?_, hb⟩
        rw [tryEach, hfirst]
        exact hbefore
      next => exact ⟨[], a, rest, p, rfl, rfl, hrun⟩

/-- A run over alternatives that ends exhausted has tried all of them in
vain. -/
theorem tryEach_exhausted {α : Type} {attempt : α → SearchStep} {xs : List α}
    {p q : SearchProgress} (hrun : tryEach attempt xs p = (.exhausted, q)) :
    ∀ a ∈ xs, ∃ r s, attempt a r = (.exhausted, s) := by
  induction xs generalizing p with
  | nil => simp
  | cons a rest ih =>
      rw [tryEach] at hrun
      split at hrun
      next r hfirst =>
        intro b hb
        rcases List.mem_cons.mp hb with rfl | hb
        · exact ⟨p, r, hfirst⟩
        · exact ih hrun b hb
      next hother => exact absurd hrun (hother q)

/-- Alternatives of which each costs one step cost as many steps as there
are. -/
theorem tryEach_spent {α : Type} {attempt : α → SearchStep} {xs : List α}
    {p q : SearchProgress} (hone : ∀ a ∈ xs, ∀ {r s : SearchProgress},
      attempt a r = (.exhausted, s) → r.Spent 1 s)
    (hrun : tryEach attempt xs p = (.exhausted, q)) : p.Spent xs.length q := by
  induction xs generalizing p with
  | nil =>
      cases hrun
      exact .refl _
  | cons a rest ih =>
      rw [tryEach] at hrun
      split at hrun
      next r hfirst =>
        rw [List.length_cons, Nat.add_comm]
        exact (hone a List.mem_cons_self hfirst).trans
          (ih (fun b hb => hone b (List.mem_cons_of_mem a hb)) hrun)
      next hother => exact absurd hrun (hother q)

namespace PathSearch

variable {search : PathSearch} {path : Path} {depth : Nat}
  {p q : SearchProgress} {outcome : SearchOutcome}

/-- The anchor ends a path: its key verifies the top certificate, and the whole
path passes. -/
def Closes (search : PathSearch) (path : Path) (anchor : TrustAnchor) : Prop :=
  (search.verifies path.top anchor.publicKey).value = .ok () ∧
    search.checkWholePath path anchor = .ok ()

/-- The candidate continues a path: it passes at the depth below it, and its key
verifies the top certificate. -/
def Continues (search : PathSearch) (path : Path) (depth : Nat)
    (c : EncodedCertificate) (above : Nat) : Prop :=
  search.checkCandidate c depth = .ok above ∧
    (search.verifies path.top c.publicKey).value = .ok ()

theorem countCandidate_eq_ok_iff (search : PathSearch) (p q : SearchProgress) :
    search.countCandidate p = .ok q ↔
      p.candidatesExamined < search.policy.limits.maxCandidates.toNat ∧
        q = { p with candidatesExamined := p.candidatesExamined + 1 } := by
  rw [countCandidate]
  split
  next hspent => simp [Nat.not_lt.mpr hspent]
  next hleft => simp [Nat.lt_of_not_le hleft, eq_comm]

theorem countCandidate_eq_error {e : Failure}
    (hcount : search.countCandidate p = .error e) :
    search.policy.limits.maxCandidates.toNat ≤ p.candidatesExamined ∧
      e.IsBudget := by
  rw [countCandidate] at hcount
  split at hcount
  next hspent =>
    cases hcount
    exact ⟨hspent, rfl⟩
  next => cases hcount

/-- A check of a signature that is made is counted, and finds what the
environment finds. -/
theorem verifySignature_eq_ok_iff {c : EncodedCertificate} {key : PublicKey}
    {verdict : Except Failure Unit} :
    search.verifySignature c key p = .ok (verdict, q) ↔
      p.signatureChecks < search.policy.limits.maxSignatureChecks.toNat ∧
        verdict = (search.verifies c key).value.mapError (unverified c) ∧
        q = { p with
          signatureChecks := p.signatureChecks + 1
          log := (search.verifies c key).log.reverse ++ p.log } := by
  rw [verifySignature]
  split
  next hspent => simp [Nat.not_lt.mpr hspent]
  next hleft => simp [Nat.lt_of_not_le hleft, eq_comm]

theorem verifySignature_eq_error {c : EncodedCertificate} {key : PublicKey}
    {e : Failure} (hverify : search.verifySignature c key p = .error e) :
    search.policy.limits.maxSignatureChecks.toNat ≤ p.signatureChecks ∧
      e.IsBudget := by
  rw [verifySignature] at hverify
  split at hverify
  next hspent =>
    cases hverify
    exact ⟨hspent, rfl⟩
  next => cases hverify

/-- The search cannot go on: a counter that it is about to raise is at its
limit. -/
def Stops (search : PathSearch) (e : Failure) (p : SearchProgress) : Prop :=
  search.countCandidate p = .error e ∨ ∃ c key,
    search.verifySignature c key p = .error e

theorem Stops.isBudget {e : Failure} (hstops : search.Stops e p) :
    e.IsBudget := by
  rcases hstops with hcount | ⟨c, key, hverify⟩
  · exact (countCandidate_eq_error hcount).2
  · exact (verifySignature_eq_error hverify).2

/-- So many candidates and signature checks are left to a search. -/
structure HasBudget (search : PathSearch) (p : SearchProgress) (steps : Nat) :
    Prop where
  signatureChecks : p.signatureChecks + steps ≤
    search.policy.limits.maxSignatureChecks.toNat
  candidates : p.candidatesExamined + steps ≤
    search.policy.limits.maxCandidates.toNat

theorem HasBudget.mono {m n : Nat} (hbudget : search.HasBudget p n)
    (hle : m ≤ n) : search.HasBudget p m where
  signatureChecks :=
    Nat.le_trans (Nat.add_le_add_left hle _) hbudget.signatureChecks
  candidates := Nat.le_trans (Nat.add_le_add_left hle _) hbudget.candidates

theorem HasBudget.after {m n : Nat} (hbudget : search.HasBudget p (m + n))
    (hspent : p.Spent m q) : search.HasBudget q n where
  signatureChecks := by
    rw [hspent.signatureChecks, Nat.add_assoc]
    exact hbudget.signatureChecks
  candidates := by
    rw [hspent.candidates, Nat.add_assoc]
    exact hbudget.candidates

/-- A step that stops, before its candidate is counted or after, had no budget
for it. -/
theorem not_hasBudget_of_countCandidate {e : Failure}
    (hcount : search.countCandidate p = .error e) : ¬ search.HasBudget p 1 := by
  intro hbudget
  exact Nat.not_le_of_lt hbudget.candidates (countCandidate_eq_error hcount).1

theorem not_hasBudget_of_verifySignature {c : EncodedCertificate}
    {key : PublicKey} {e : Failure} (hcount : search.countCandidate p = .ok q)
    (hverify : search.verifySignature c key q = .error e) :
    ¬ search.HasBudget p 1 := by
  intro hbudget
  obtain ⟨_, rfl⟩ := (countCandidate_eq_ok_iff search p q).mp hcount
  exact Nat.not_le_of_lt hbudget.signatureChecks
    (verifySignature_eq_error hverify).1

/-- A candidate that is counted and then used to check a signature is one
step. -/
theorem spent_one {r : SearchProgress} {c : EncodedCertificate}
    {key : PublicKey} {verdict : Except Failure Unit}
    (hcount : search.countCandidate p = .ok r)
    (hverify : search.verifySignature c key r = .ok (verdict, q)) :
    p.Spent 1 q := by
  obtain ⟨_, rfl⟩ := (countCandidate_eq_ok_iff search p r).mp hcount
  obtain ⟨_, _, rfl⟩ := verifySignature_eq_ok_iff.mp hverify
  exact ⟨rfl, rfl⟩

/-- All that trying an anchor can do. -/
theorem attemptAnchor_cases {anchor : TrustAnchor}
    (hrun : search.attemptAnchor path anchor p = (outcome, q)) :
    (∃ e, outcome = .aborted e ∧ search.Stops e q ∧ ¬ search.HasBudget p 1) ∨
      (outcome = .exhausted ∧ ¬ search.Closes path anchor ∧ p.Spent 1 q) ∨
      (outcome = .found ⟨path, anchor⟩ ∧ search.Closes path anchor ∧
        p.Spent 1 q) := by
  rw [attemptAnchor] at hrun
  cases hcount : search.countCandidate p with
  | error e =>
      simp only [hcount, Prod.mk.injEq] at hrun
      obtain ⟨rfl, rfl⟩ := hrun
      exact Or.inl ⟨e, rfl, Or.inl hcount,
        not_hasBudget_of_countCandidate hcount⟩
  | ok r =>
      simp only [hcount] at hrun
      split at hrun
      next e hverify =>
        cases hrun
        exact Or.inl ⟨e, rfl, Or.inr ⟨_, _, hverify⟩,
          not_hasBudget_of_verifySignature hcount hverify⟩
      next e s hverify =>
        cases hrun
        obtain ⟨_, hverdict, _⟩ := verifySignature_eq_ok_iff.mp hverify
        refine Or.inr (Or.inl ⟨rfl, fun hcloses =>
          ?_, (spent_one hcount hverify).fail _ _ _ _⟩)
        rw [mapError_eq_ok_iff.mpr hcloses.1] at hverdict
        cases hverdict
      next s hverify =>
        obtain ⟨_, hverdict, _⟩ := verifySignature_eq_ok_iff.mp hverify
        split at hrun
        next _ hwhole =>
          cases hrun
          refine Or.inr (Or.inr ⟨rfl, ⟨?_, hwhole⟩, spent_one hcount hverify⟩)
          exact mapError_eq_ok_iff.mp hverdict.symm
        next e hwhole =>
          cases hrun
          refine Or.inr (Or.inl ⟨rfl, fun hcloses =>
            ?_, (spent_one hcount hverify).fail _ _ _ _⟩)
          rw [hcloses.2] at hwhole
          cases hwhole

/-- All that trying an intermediate can do: the search goes on above it only if
it continues the path. -/
theorem attemptIssuer_cases {descend : Path → Nat → SearchStep}
    {c : EncodedCertificate}
    (hrun : search.attemptIssuer descend path depth c p = (outcome, q)) :
    (∃ e, outcome = .aborted e ∧ search.Stops e q ∧ ¬ search.HasBudget p 1) ∨
      (outcome = .exhausted ∧ ∀ above, ¬ search.Continues path depth c above) ∨
      ∃ above r, search.Continues path depth c above ∧ p.Spent 1 r ∧
        descend (path.push c) above r = (outcome, q) := by
  rw [attemptIssuer] at hrun
  cases hcount : search.countCandidate p with
  | error e =>
      simp only [hcount, Prod.mk.injEq] at hrun
      obtain ⟨rfl, rfl⟩ := hrun
      exact Or.inl ⟨e, rfl, Or.inl hcount,
        not_hasBudget_of_countCandidate hcount⟩
  | ok r =>
      simp only [hcount] at hrun
      cases hcheck : search.checkCandidate c depth with
      | error e =>
          simp only [hcheck, reject] at hrun
          refine Or.inr (Or.inl ⟨(congrArg Prod.fst hrun).symm,
            fun above hcontinues => ?_⟩)
          rw [hcontinues.1] at hcheck
          cases hcheck
      | ok above =>
          simp only [hcheck, reject] at hrun
          split at hrun
          next e hverify =>
            cases hrun
            exact Or.inl
              ⟨e, rfl, Or.inr ⟨_, _, hverify⟩,
                not_hasBudget_of_verifySignature hcount hverify⟩
          next e s hverify =>
            obtain ⟨_, hverdict, _⟩ := verifySignature_eq_ok_iff.mp hverify
            refine Or.inr (Or.inl ⟨(congrArg Prod.fst hrun).symm,
              fun _ hcontinues => ?_⟩)
            rw [mapError_eq_ok_iff.mpr hcontinues.2] at hverdict
            cases hverdict
          next s hverify =>
            obtain ⟨_, hverdict, _⟩ := verifySignature_eq_ok_iff.mp hverify
            refine Or.inr (Or.inr ⟨above, s, ⟨hcheck, ?_⟩,
              spent_one hcount hverify, hrun⟩)
            exact mapError_eq_ok_iff.mp hverdict.symm

/-- In a visit it comes to be the turn of an anchor: those before it are
refused. -/
def AnchorTurn (search : PathSearch) (path : Path) (depth : Nat)
    (p : SearchProgress) (anchor : TrustAnchor) (q : SearchProgress) : Prop :=
  ∃ before after, search.anchorsFor path = before ++ anchor :: after ∧
    tryEach (search.attemptAnchor path) before (p.visit path depth) =
    (.exhausted, q)

/-- In a visit it comes to be the turn of an intermediate: all anchors are
refused, and the intermediates before it are exhausted. -/
def IssuerTurn (search : PathSearch) (descend : Path → Nat → SearchStep)
    (path : Path) (depth : Nat) (p : SearchProgress) (c : EncodedCertificate)
    (q : SearchProgress) : Prop :=
  ∃ before after r,
    tryEach (search.attemptAnchor path) (search.anchorsFor path)
    (p.visit path depth) =
      (.exhausted, r) ∧
    search.issuersFor path = before ++ c :: after ∧
    tryEach (search.attemptIssuer descend path depth) before r = (.exhausted, q)

/-- A visit that does not end exhausted ends as an anchor or an intermediate
does in its turn. -/
theorem visit_ended_at {descend : Path → Nat → SearchStep}
    (hrun : search.visit descend path depth p = (outcome, q))
    (hended : outcome ≠ .exhausted) :
    (∃ anchor r, search.AnchorTurn path depth p anchor r ∧
      search.attemptAnchor path anchor r = (outcome, q)) ∨
    ∃ c r, search.IssuerTurn descend path depth p c r ∧
      search.attemptIssuer descend path depth c r = (outcome, q) := by
  rw [visit] at hrun
  split at hrun
  next r hanchors =>
    split at hrun
    next => exact absurd (congrArg Prod.fst hrun).symm hended
    next =>
      obtain ⟨before, c, after, s, hsplit, hbefore, hattempt⟩ :=
        tryEach_ended hrun hended
      exact Or.inr ⟨c, s, ⟨before, after, r, hanchors, hsplit, hbefore⟩,
        hattempt⟩
  next =>
    obtain ⟨before, anchor, after, r, hsplit, hbefore, hattempt⟩ :=
      tryEach_ended hrun hended
    exact Or.inl ⟨anchor, r, ⟨before, after, hsplit, hbefore⟩, hattempt⟩

/-- A visit that does not end exhausted has used up a budget, or found a path
with an anchor, or ends as the search above some intermediate does. -/
theorem visit_ended {descend : Path → Nat → SearchStep}
    (hrun : search.visit descend path depth p = (outcome, q))
    (hended : outcome ≠ .exhausted) :
    (∃ e, outcome = .aborted e ∧ search.Stops e q) ∨
      (∃ anchor ∈ search.anchorsFor path,
        outcome = .found ⟨path, anchor⟩ ∧ search.Closes path anchor) ∨
      ∃ c ∈ search.issuersFor path, ∃ above r,
        search.Continues path depth c above ∧
        descend (path.push c) above r = (outcome, q) := by
  rcases visit_ended_at hrun hended with
    ⟨anchor, r, ⟨before, after, hsplit, _⟩, hattempt⟩ |
    ⟨c, s, ⟨before, after, _, _, hsplit, _⟩, hattempt⟩
  · rcases attemptAnchor_cases hattempt with
      ⟨e, haborted, hstops, _⟩ | ⟨hexhausted, _⟩ | ⟨hfound, hcloses, _⟩
    · exact Or.inl ⟨e, haborted, hstops⟩
    · exact absurd hexhausted hended
    · exact Or.inr (Or.inl ⟨anchor, by simp [hsplit], hfound, hcloses⟩)
  · rcases attemptIssuer_cases hattempt with
      ⟨e, haborted, hstops, _⟩ | ⟨hexhausted, _⟩ | ⟨above, r, hcontinues, _,
        hdescends⟩
    · exact Or.inl ⟨e, haborted, hstops⟩
    · exact absurd hexhausted hended
    · exact Or.inr (Or.inr
        ⟨c, by simp [hsplit], above, r, hcontinues, hdescends⟩)

/-- Anchors tried in vain are all refused, and each cost one step. -/
theorem tryAnchors_exhausted {anchors : List TrustAnchor}
    (hrun : tryEach (search.attemptAnchor path) anchors p = (.exhausted, q)) :
    (∀ anchor ∈ anchors, ¬ search.Closes path anchor) ∧
      p.Spent anchors.length q := by
  have hone {anchor : TrustAnchor} {r s : SearchProgress}
      (hattempt : search.attemptAnchor path anchor r = (.exhausted, s)) :
      ¬ search.Closes path anchor ∧ r.Spent 1 s := by
    rcases attemptAnchor_cases hattempt with ⟨e, haborted, _⟩ | ⟨_, hrefused⟩
        | ⟨hfound, _⟩
    · cases haborted
    · exact hrefused
    · cases hfound
  refine ⟨?_, tryEach_spent (fun anchor _ _ _ hattempt =>
    (hone hattempt).2) hrun⟩
  intro anchor hanchor
  obtain ⟨_, _, hattempt⟩ := tryEach_exhausted hrun anchor hanchor
  exact (hone hattempt).1

/-- Intermediates tried in vain do not continue the path, but those above which
the search ended exhausted. -/
theorem tryIssuers_exhausted {descend : Path → Nat → SearchStep}
    {issuers : List EncodedCertificate}
    (hrun : tryEach (search.attemptIssuer descend path depth) issuers p =
      (.exhausted, q)) :
    ∀ c ∈ issuers,
      (∀ above, ¬ search.Continues path depth c above) ∨
        ∃ above r s, search.Continues path depth c above ∧
          descend (path.push c) above r = (.exhausted, s) := by
  intro c hissuer
  obtain ⟨_, t, hattempt⟩ := tryEach_exhausted hrun c hissuer
  rcases attemptIssuer_cases hattempt with
    ⟨e, haborted, _⟩ | ⟨_, hrefused⟩ | ⟨above, r, hcontinues, _, hbelow⟩
  · cases haborted
  · exact Or.inl hrefused
  · exact Or.inr ⟨above, r, t, hcontinues, hbelow⟩

/-- A visit that ends exhausted was closed by no anchor, and no intermediate
continues it but those above which the search ended exhausted too. -/
theorem visit_exhausted {descend : Path → Nat → SearchStep}
    (hrun : search.visit descend path depth p = (.exhausted, q)) :
    (∀ anchor ∈ search.anchorsFor path, ¬ search.Closes path anchor) ∧
      ∀ c ∈ search.issuersFor path,
        (∀ above, ¬ search.Continues path depth c above) ∨
          ∃ above r s, search.Continues path depth c above ∧
            descend (path.push c) above r = (.exhausted, s) := by
  rw [visit] at hrun
  split at hrun
  next r hanchors =>
    split at hrun
    next s hissuers =>
      exact ⟨(tryAnchors_exhausted hanchors).1, tryIssuers_exhausted hissuers⟩
    next hother => exact absurd hrun (hother q)
  next hother => exact absurd hrun (hother q)

/-! ### The search as visits -/

/-- What a search with so much room does above a path: with no room, nothing. -/
def exploreAbove (search : PathSearch) : Nat → Path → Nat → SearchStep
  | 0 => fun _ _ p => (.exhausted, p)
  | room + 1 => search.explore room

theorem explore_eq_visit (search : PathSearch) (room : Nat) :
    search.explore room = search.visit (search.exploreAbove room) := by
  cases room with
  | zero => rfl
  | succ room => rfl

/-- What holds of doing nothing, and of a visit if it holds of what is done
above, holds of the search in any room. -/
theorem explore_induction {P : (Path → Nat → SearchStep) → Prop}
    (hnothing : P fun _ _ p => (.exhausted, p))
    (hvisit : ∀ descend, P descend → P (search.visit descend)) (room : Nat) :
    P (search.explore room) := by
  induction room with
  | zero => exact hvisit _ hnothing
  | succ room ih => exact hvisit _ ih

end PathSearch

end TrustPath
