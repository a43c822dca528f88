import TrustPath.Proofs.Completion

/-!
Two searches side by side. Where they try the same alternatives and their checks
answer alike, and where they count and check signatures alike, they do so step
by step: they end in the same way, with progress that is related as it was
before. The second may also be one that goes on where the first aborts; then
this is the only difference.
-/

namespace TrustPath

section

variable {α β : Type} {mayAbort : Prop}

/-- Two computations fail with the same failure or have related values, unless
the first may abort the search and fails. -/
inductive Agree (mayAbort : Prop) (S : α → β → Prop) :
    Except Failure α → Except Failure β → Prop where
  | ok {a : α} {b : β} (hrelated : S a b) : Agree mayAbort S (.ok a) (.ok b)
  | error (e : Failure) : Agree mayAbort S (.error e) (.error e)
  | aborted (hmay : mayAbort) (e : Failure) (y : Except Failure β) : Agree
      mayAbort S (.error e) y

theorem Agree.refl {S : α → α → Prop} (hrefl : ∀ a, S a a)
    (x : Except Failure α) : Agree mayAbort S x x := by
  cases x with
  | error e => exact .error e
  | ok a => exact .ok (hrefl a)

variable {S : SearchProgress → SearchProgress → Prop}

/-- Two steps end in the same way, with related progress, unless the first may
abort and does. -/
inductive SameEnd (mayAbort : Prop)
    (S : SearchProgress → SearchProgress → Prop) :
    SearchOutcome × SearchProgress → SearchOutcome × SearchProgress → Prop where
  | same (outcome : SearchOutcome) {p p' : SearchProgress} (hrelated : S p p') :
      SameEnd mayAbort S (outcome, p) (outcome, p')
  | aborted (hmay : mayAbort) (e : Failure) (p : SearchProgress)
      (other : SearchOutcome × SearchProgress) :
      SameEnd mayAbort S (.aborted e, p) other

/-- From related progress, the second step follows the first. -/
def Follows (mayAbort : Prop) (S : SearchProgress → SearchProgress → Prop)
    (step step' : SearchStep) : Prop :=
  ∀ p p', S p p' → SameEnd mayAbort S (step p) (step' p')

theorem tryEach_follows {attempt attempt' : α → SearchStep} {xs : List α}
    (hattempt : ∀ a ∈ xs, Follows mayAbort S (attempt a) (attempt' a)) :
    Follows mayAbort S (tryEach attempt xs) (tryEach attempt' xs) := by
  induction xs with
  | nil => exact fun _ _ hrelated => .same _ hrelated
  | cons a rest ih =>
      intro p p' hrelated
      have hfirst := hattempt a List.mem_cons_self p p' hrelated
      rw [tryEach, tryEach]
      generalize attempt a p = result, attempt' a p' = result' at hfirst
      cases hfirst with
      | same outcome hrelated =>
          cases outcome with
          | found v => exact .same _ hrelated
          | aborted e => exact .same _ hrelated
          | exhausted =>
              exact ih (fun b hb => hattempt b (List.mem_cons_of_mem a hb)) _ _
                hrelated
      | aborted hmay e q => exact .aborted hmay e q _

end

namespace PathSearch

/-- What keeps a second search in step with a first: the same alternatives and
answers, and counting and checking that agree and keep the progress related, as
do arriving, noting and recording. -/
structure Lockstep (mayAbort : Prop)
    (S : SearchProgress → SearchProgress → Prop)
    (search other : PathSearch) : Prop where
  anchorsFor : ∀ path, other.anchorsFor path = search.anchorsFor path
  issuersFor : ∀ path, other.issuersFor path = search.issuersFor path
  checkCandidate : ∀ c depth,
    other.checkCandidate c depth = search.checkCandidate c depth
  checkWholePath : ∀ path anchor, other.checkWholePath path anchor =
    search.checkWholePath path anchor
  visit : ∀ {p p'} path depth, S p p' →
    S (p.visit path depth) (p'.visit path depth)
  note : ∀ {p p'} level text, S p p' →
    S (p.note level text) (p'.note level text)
  fail : ∀ {p p'} path e, S p p' → S (p.fail path e) (p'.fail path e)
  count : ∀ {p p'}, S p p' →
    Agree mayAbort S (search.countCandidate p) (other.countCandidate p')
  check : ∀ {p p'} c key, S p p' →
    Agree mayAbort (fun x x' => x'.1 = x.1 ∧ S x.2 x'.2)
    (search.verifySignature c key p)
      (other.verifySignature c key p')

variable {mayAbort : Prop} {S : SearchProgress → SearchProgress → Prop}
  {search other : PathSearch}

theorem Lockstep.attemptAnchor (hlockstep : Lockstep mayAbort S search other)
    (path : Path) (anchor : TrustAnchor) :
    Follows mayAbort S (search.attemptAnchor path anchor)
      (other.attemptAnchor path anchor) := by
  intro p p' hrelated
  have hcount := hlockstep.count hrelated
  rw [PathSearch.attemptAnchor, PathSearch.attemptAnchor]
  generalize search.countCandidate p = counted,
    other.countCandidate p' = counted' at hcount
  cases hcount with
  | error e => exact .same _ hrelated
  | aborted hmay e => exact .aborted hmay e p _
  | @ok q q' hrelated =>
      have hcheck := hlockstep.check path.top anchor.publicKey hrelated
      dsimp only
      generalize search.verifySignature path.top anchor.publicKey q = checked,
        other.verifySignature path.top anchor.publicKey q' = checked' at hcheck
      cases hcheck with
      | error e => exact .same _ hrelated
      | aborted hmay e => exact .aborted hmay e q _
      | @ok x x' hsame =>
          obtain ⟨_, r⟩ := x
          obtain ⟨verdict, r'⟩ := x'
          obtain ⟨rfl, hrelated⟩ := hsame
          rcases verdict with e | ⟨⟨⟩⟩
          · exact .same _ (hlockstep.fail path e (hlockstep.note _ _ hrelated))
          · dsimp only
            rw [hlockstep.checkWholePath]
            cases search.checkWholePath path anchor with
            | ok value => exact .same _ hrelated
            | error e =>
                exact .same _ (hlockstep.fail path e
                  (hlockstep.note _ _ hrelated))

theorem Lockstep.attemptIssuer (hlockstep : Lockstep mayAbort S search other)
    {descend descend' : Path → Nat → SearchStep}
    (hdescend : ∀ path depth,
      Follows mayAbort S (descend path depth) (descend' path depth))
    (path : Path) (depth : Nat) (c : EncodedCertificate) :
    Follows mayAbort S (search.attemptIssuer descend path depth c)
      (other.attemptIssuer descend' path depth c) := by
  intro p p' hrelated
  have hcount := hlockstep.count hrelated
  rw [PathSearch.attemptIssuer, PathSearch.attemptIssuer]
  generalize search.countCandidate p = counted,
    other.countCandidate p' = counted' at hcount
  cases hcount with
  | error e => exact .same _ hrelated
  | aborted hmay e => exact .aborted hmay e p _
  | @ok q q' hrelated =>
      dsimp only
      -- a candidate that does not pass is set aside by both, before any
      -- signature is checked
      rw [hlockstep.checkCandidate]
      cases search.checkCandidate c depth with
      | error e =>
          exact .same _ (hlockstep.fail path e (hlockstep.note _ _ hrelated))
      | ok above =>
          have hcheck := hlockstep.check path.top c.publicKey hrelated
          dsimp only
          generalize search.verifySignature path.top c.publicKey q = checked,
            other.verifySignature path.top c.publicKey q' = checked' at hcheck
          cases hcheck with
          | error e => exact .same _ hrelated
          | aborted hmay e => exact .aborted hmay e q _
          | @ok x x' hsame =>
              obtain ⟨_, r⟩ := x
              obtain ⟨verdict, r'⟩ := x'
              obtain ⟨rfl, hrelated⟩ := hsame
              rcases verdict with e | ⟨⟨⟩⟩
              · exact .same _ (hlockstep.fail path e
                  (hlockstep.note _ _ hrelated))
              · exact hdescend _ _ r r' hrelated

/-- The two try the same lists, so they part only where an attempt of the first
aborts. -/
theorem Lockstep.visits (hlockstep : Lockstep mayAbort S search other)
    {descend descend' : Path → Nat → SearchStep}
    (hdescend : ∀ path depth,
      Follows mayAbort S (descend path depth) (descend' path depth))
    (path : Path) (depth : Nat) :
    Follows mayAbort S (search.visit descend path depth)
      (other.visit descend' path depth) := by
  intro p p' hrelated
  have hanchors := tryEach_follows
    (fun anchor (_ : anchor ∈ search.anchorsFor path) =>
      hlockstep.attemptAnchor path anchor)
    _ _ (hlockstep.visit path depth hrelated)
  have hissuers := tryEach_follows
    fun c (_ : c ∈ search.issuersFor path) =>
      hlockstep.attemptIssuer hdescend path depth c
  rw [PathSearch.visit, PathSearch.visit, hlockstep.anchorsFor,
    hlockstep.issuersFor]
  generalize tryEach (search.attemptAnchor path) (search.anchorsFor path)
    (p.visit path depth) = result, tryEach (other.attemptAnchor path)
    (search.anchorsFor path) (p'.visit path depth) = result'
    at hanchors
  cases hanchors with
  | aborted hmay e q => exact .aborted hmay e q _
  | @same outcome q q' hrelated =>
      cases outcome with
      | found v => exact .same _ hrelated
      | aborted e => exact .same _ hrelated
      | exhausted =>
          have hrest := hissuers q q' hrelated
          dsimp only
          generalize tryEach (search.attemptIssuer descend path depth)
            (search.issuersFor path) q =
              result,
            tryEach (other.attemptIssuer descend' path depth)
              (search.issuersFor path) q' = result'
            at hrest
          cases hrest with
          | aborted hmay e r => exact .aborted hmay e r _
          | @same outcome r r' hrelated =>
              cases outcome with
              | found v => exact .same _ hrelated
              | aborted e => exact .same _ hrelated
              | exhausted =>
                  dsimp only
                  split
                  · exact .same _ (hlockstep.fail path _ hrelated)
                  · exact .same _ hrelated

theorem Lockstep.explore (hlockstep : Lockstep mayAbort S search other)
    (room : Nat) (path : Path) (depth : Nat) :
    Follows mayAbort S (search.explore room path depth)
      (other.explore room path depth) := by
  induction room generalizing path depth with
  | zero =>
      exact hlockstep.visits (fun _ _ _ _ hrelated => .same _ hrelated)
        path depth
  | succ room ih => exact hlockstep.visits ih path depth

/-- Two runs from one leaf, over pools of one size, answer the same and with
related progress, unless the first may abort and does. -/
theorem Lockstep.run (hlockstep : Lockstep mayAbort S search other)
    {leafRules : ExtensionPolicy} (hleaf : other.leaf = search.leaf)
    (hpool : other.pool.length = search.pool.length)
    (haccepted : other.checkLeaf leafRules = search.checkLeaf leafRules)
    (hfailures : ∀ {p p' : SearchProgress}, S p p' → p'.failures = p.failures)
    (hstart : S .start .start) :
    (mayAbort ∧ ∃ e q, search.run leafRules = (.error e, q) ∧ e.IsBudget) ∨
      (other.run leafRules).1 = (search.run leafRules).1 ∧
        S (search.run leafRules).2 (other.run leafRules).2 := by
  rw [PathSearch.run, PathSearch.run, haccepted, hleaf]
  cases search.checkLeaf leafRules with
  | error e => exact Or.inr ⟨rfl, hlockstep.note _ _ hstart⟩
  | ok value =>
      have hsearch : SameEnd mayAbort S (search.exploreAll .start)
          (other.exploreAll .start) := by
        rw [exploreAll, exploreAll, hpool, hleaf]
        exact hlockstep.explore _ _ _ _ _ hstart
      have haborts : ∀ e q, search.exploreAll .start = (.aborted e, q) →
          e.IsBudget :=
        fun _ _ haborted => (explore_aborted haborted).isBudget
      dsimp only
      generalize search.exploreAll .start = result,
        other.exploreAll .start = result' at hsearch haborts
      cases hsearch with
      | aborted hmay e q => exact Or.inl ⟨hmay, e, q, rfl, haborts e q rfl⟩
      | @same outcome q q' hrelated =>
          cases outcome with
          | aborted e => exact Or.inr ⟨rfl, hrelated⟩
          | found v => exact Or.inr ⟨rfl, hlockstep.note _ _ hrelated⟩
          | exhausted =>
              dsimp only
              rw [hfailures hrelated]
              exact Or.inr ⟨rfl, hlockstep.note _ _ hrelated⟩

end PathSearch

/-- Two policies that judge alike what is above a leaf, but for extensions and
budgets. -/
structure Policy.SameAbove (policy other : Policy) : Prop where
  validationTime : other.validationTime = policy.validationTime
  maxChainDepth : other.maxChainDepth = policy.maxChainDepth
  minimumRsaModulus : other.minimumRsaModulus = policy.minimumRsaModulus
  keyFault : other.keyFault = policy.keyFault

namespace PathSearch

variable {search : PathSearch} {policy : Policy} {mayAbort : Prop}

def withPolicy (search : PathSearch) (policy : Policy) : PathSearch :=
  { search with policy := policy }

theorem checkCandidate_withPolicy (hsame : search.policy.SameAbove policy)
    (halike : search.authorityRules.AnswersAlike search.policy policy)
    (c : EncodedCertificate) (depth : Nat) :
    (search.withPolicy policy).checkCandidate c depth =
      search.checkCandidate c depth := by
  have hform : policy.checkForm c = search.policy.checkForm c :=
    Policy.checkForm_eq_of_validationTime hsame.validationTime c
  have hrules : search.authorityRules.check policy c =
      search.authorityRules.check search.policy c :=
    halike.check_eq c
  simp only [checkCandidate, withPolicy, hform, hrules, hsame.maxChainDepth]

theorem checkKeySizes_eq_of_sameAbove {other : Policy}
    (hsame : policy.SameAbove other) (keys : List PublicKey) :
    checkKeySizes other keys = checkKeySizes policy keys := by
  apply (checksEach_checkKeySizes policy).congr (checksEach_checkKeySizes other)
  intro key _
  rw [Policy.checkKeySize, Policy.checkKeySize, hsame.minimumRsaModulus,
    hsame.keyFault]

theorem checkWholePath_withPolicy (hsame : search.policy.SameAbove policy)
    (path : Path) (anchor : TrustAnchor) :
    (search.withPolicy policy).checkWholePath path anchor =
      search.checkWholePath path anchor := by
  have hsizes := checkKeySizes_eq_of_sameAbove hsame
  simp only [checkWholePath, withPolicy, hsizes]

/-- Under a policy that judges alike, a search stays in step if it counts and
checks signatures as the one before does, which may abort. -/
theorem lockstep_withPolicy (policy : Policy)
    (hsame : search.policy.SameAbove policy)
    (halike : search.authorityRules.AnswersAlike search.policy policy)
    (hcount : ∀ p, Agree mayAbort (· = ·) (search.countCandidate p)
      ((search.withPolicy policy).countCandidate p))
    (hcheck : ∀ p c key, Agree mayAbort (fun x x' => x'.1 = x.1 ∧ x.2 = x'.2)
      (search.verifySignature c key p)
      ((search.withPolicy policy).verifySignature c key p)) :
    Lockstep mayAbort (· = ·) search (search.withPolicy policy) where
  anchorsFor _ := rfl
  issuersFor _ := rfl
  checkCandidate := checkCandidate_withPolicy hsame halike
  checkWholePath := checkWholePath_withPolicy hsame
  visit := by
    rintro p _ path depth rfl
    rfl
  note := by
    rintro p _ level text rfl
    rfl
  fail := by
    rintro p _ path e rfl
    rfl
  count := by
    rintro p _ rfl
    exact hcount p
  check := by
    rintro p _ c key rfl
    exact hcheck p c key

end PathSearch

end TrustPath
