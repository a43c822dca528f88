import Mathlib.Order.Defs.Unbundled
import TrustPath.Proofs.Findings

/-!
What the search does to its progress. A relation between the progress before and
after that holds of each thing the search does on the way, and that can be
chained, holds of the whole search. So the induction over the search is made
once, here.
-/

namespace TrustPath

/-- The step relates the progress before it to the progress after it. -/
def Relates (R : SearchProgress → SearchProgress → Prop) (step : SearchStep) :
    Prop :=
  ∀ p, R p (step p).2

theorem tryEach_relates {R : SearchProgress → SearchProgress → Prop}
    (hR : IsPreorder _ R) {α : Type} {attempt : α → SearchStep} {xs : List α}
    (hattempt : ∀ a ∈ xs, Relates R (attempt a)) :
    Relates R (tryEach attempt xs) := by
  induction xs with
  | nil => exact fun p => hR.refl p
  | cons a rest ih =>
      intro p
      have hfirst := hattempt a List.mem_cons_self p
      rw [tryEach]
      split
      next q hexhausted =>
        rw [hexhausted] at hfirst
        exact hR.trans _ _ _ hfirst
          (ih (fun b hb => hattempt b (List.mem_cons_of_mem a hb)) q)
      next => exact hfirst

namespace PathSearch

/-- A failure that the search records: a finding, or that no issuer is known. -/
def IsRecorded (e : Failure) : Prop :=
  e.IsFinding ∨ ∃ c, e = noIssuer c

theorem IsRecorded.not_isBudget {e : Failure} (hrecorded : IsRecorded e) :
    ¬ e.IsBudget := by
  rcases hrecorded with hfinding | ⟨c, rfl⟩
  · exact hfinding.not_isBudget
  · intro hbudget
    cases hbudget

/-- A relation that can be chained, and that holds of each thing the search
does: it arrives at a path, counts a possible issuer, checks a signature with
the key of one it has counted, writes a note of the lowest level, and records a
failure. -/
structure Respects (search : PathSearch)
    (R : SearchProgress → SearchProgress → Prop) : Prop
    extends IsPreorder SearchProgress R where
  visit : ∀ p path depth, R p (p.visit path depth)
  count : ∀ {p q}, search.countCandidate p = .ok q → R p q
  check : ∀ {p q r c key verdict}, search.countCandidate p = .ok q →
    search.verifySignature c key q = .ok (verdict, r) → R p r
  note : ∀ p text, R p (p.note .debug text)
  fail : ∀ p path {e}, IsRecorded e → R p (p.fail path e)

variable {search : PathSearch} {R : SearchProgress → SearchProgress → Prop}

theorem Respects.note_fail (hR : search.Respects R) {p q : SearchProgress}
    (hsofar : R p q) (text : String) (path : Path) {e : Failure}
    (hfinding : e.IsFinding) : R p ((q.note .debug text).fail path e) :=
  hR.trans _ _ _ hsofar
    (hR.trans _ _ _ (hR.note q text) (hR.fail _ path (Or.inl hfinding)))

theorem Respects.attemptAnchor (hR : search.Respects R) (path : Path)
    (anchor : TrustAnchor) : Relates R (search.attemptAnchor path anchor) := by
  intro p
  rw [PathSearch.attemptAnchor]
  split
  next => exact hR.refl p
  next q hcount =>
    split
    next => exact hR.count hcount
    next e r hverify =>
      exact hR.note_fail (hR.check hcount hverify) _ path
        (findsOnly_verdict hverify e rfl)
    next r hverify =>
      split
      next => exact hR.check hcount hverify
      next e hwhole =>
        exact hR.note_fail (hR.check hcount hverify) _ path
          (search.findsOnly_checkWholePath path anchor e hwhole)

theorem Respects.attemptIssuer (hR : search.Respects R)
    {descend : Path → Nat → SearchStep}
    (hdescend : ∀ path depth, Relates R (descend path depth)) (path : Path)
    (depth : Nat) (c : EncodedCertificate) :
    Relates R (search.attemptIssuer descend path depth c) := by
  intro p
  rw [PathSearch.attemptIssuer]
  split
  next => exact hR.refl p
  next q hcount =>
    split
    next e hcheck =>
      exact hR.note_fail (hR.count hcount) _ path
        (search.judgesOnly_checkCandidate c depth e hcheck).2
    next above _ =>
      split
      next => exact hR.count hcount
      next e r hverify =>
        exact hR.note_fail (hR.check hcount hverify) _ path
          (findsOnly_verdict hverify e rfl)
      next r hverify =>
        exact hR.trans _ _ _ (hR.check hcount hverify) (hdescend _ _ r)

theorem Respects.tryAnchors (hR : search.Respects R) (path : Path)
    (anchors : List TrustAnchor) :
    Relates R (tryEach (search.attemptAnchor path) anchors) :=
  tryEach_relates hR.toIsPreorder fun anchor _ => hR.attemptAnchor path anchor

theorem Respects.tryIssuers (hR : search.Respects R)
    {descend : Path → Nat → SearchStep}
    (hdescend : ∀ path depth, Relates R (descend path depth)) (path : Path)
    (depth : Nat) (issuers : List EncodedCertificate) :
    Relates R (tryEach (search.attemptIssuer descend path depth) issuers) :=
  tryEach_relates hR.toIsPreorder fun c _ =>
    hR.attemptIssuer hdescend path depth c

theorem Respects.visits (hR : search.Respects R)
    {descend : Path → Nat → SearchStep}
    (hdescend : ∀ path depth, Relates R (descend path depth)) (path : Path)
    (depth : Nat) : Relates R (search.visit descend path depth) := by
  intro p
  have hanchors := hR.trans _ _ _ (hR.visit p path depth)
    (hR.tryAnchors path (search.anchorsFor path) _)
  rw [PathSearch.visit]
  split
  next q hexhausted =>
    rw [hexhausted] at hanchors
    have hissuers := hR.trans _ _ _ hanchors
      (hR.tryIssuers hdescend path depth (search.issuersFor path) q)
    split
    next r hrest =>
      rw [hrest] at hissuers
      split
      · exact hR.trans _ _ _ hissuers (hR.fail r path (Or.inr ⟨_, rfl⟩))
      · exact hissuers
    next => exact hissuers
  next => exact hanchors

/-- A relation that holds of each thing the search does holds of the search. -/
theorem Respects.explore (hR : search.Respects R) (room : Nat) (path : Path)
    (depth : Nat) : Relates R (search.explore room path depth) := by
  revert path depth
  refine explore_induction (P := fun descend => ∀ path depth,
    Relates R (descend path depth)) ?_ ?_ room
  · exact fun _ _ p => hR.refl p
  · exact fun _ hdescend => hR.visits hdescend

/-- The search never takes back what it has counted. -/
theorem respects_spentAtLeast (search : PathSearch) :
    search.Respects fun p q => p.SpentAtLeast 0 q where
  refl p := (SearchProgress.Spent.refl p).atLeast
  trans _ _ _ hfirst hsecond := hfirst.trans hsecond
  visit _ _ _ := ⟨Nat.le_refl _, Nat.le_refl _⟩
  count := by
    intro p q hcount
    obtain ⟨_, rfl⟩ := (countCandidate_eq_ok_iff search p q).mp hcount
    exact ⟨Nat.le_refl _, Nat.le_succ _⟩
  check := by
    intro p q r c key verdict hcount hverify
    have hone := (spent_one hcount hverify).atLeast
    exact ⟨Nat.le_of_succ_le hone.signatureChecks,
      Nat.le_of_succ_le hone.candidates⟩
  note _ _ := ⟨Nat.le_refl _, Nat.le_refl _⟩
  fail _ _ _ _ := ⟨Nat.le_refl _, Nat.le_refl _⟩

end PathSearch

end TrustPath
