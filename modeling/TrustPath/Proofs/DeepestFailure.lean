import TrustPath.Proofs.ChainFamily
import TrustPath.Proofs.Refusals

/-!
The failure that is reported. When a search comes to nothing, the answer is the
first of the failures at the greatest length, and this length is that of the
longest path that was visited. So something is always recorded, and that no
issuer is known is the answer only if it is what stopped the search first where
it had got furthest.
-/

namespace TrustPath

namespace PathFailure

variable {failures : List PathFailure} {f g : PathFailure}

/-- Of failures in the order in which they arose, this is the first at the
greatest length. -/
def IsFirstDeepest (failures : List PathFailure) (f : PathFailure) : Prop :=
  ∃ before after, failures = before ++ f :: after ∧
    (∀ g ∈ before, g.length < f.length) ∧ ∀ g ∈ after, g.length ≤ f.length

theorem IsFirstDeepest.mem (hfirst : IsFirstDeepest failures f) :
    f ∈ failures := by
  obtain ⟨before, after, rfl, _⟩ := hfirst
  simp

theorem IsFirstDeepest.length_le (hfirst : IsFirstDeepest failures f)
    (hg : g ∈ failures) : g.length ≤ f.length := by
  obtain ⟨before, after, rfl, hbefore, hafter⟩ := hfirst
  rw [List.mem_append, List.mem_cons] at hg
  rcases hg with hg | rfl | hg
  · exact Nat.le_of_lt (hbefore g hg)
  · exact Nat.le_refl _
  · exact hafter g hg

/-- A failure that is no deeper does not take the place of an earlier one. -/
theorem IsFirstDeepest.concat_of_le (hfirst : IsFirstDeepest failures f)
    (hle : g.length ≤ f.length) : IsFirstDeepest (failures ++ [g]) f := by
  obtain ⟨before, after, rfl, hbefore, hafter⟩ := hfirst
  refine ⟨before, after ++ [g], by simp, hbefore, ?_⟩
  intro other hother
  rw [List.mem_append, List.mem_singleton] at hother
  rcases hother with hother | rfl
  · exact hafter other hother
  · exact hle

/-- A failure that is deeper does. -/
theorem IsFirstDeepest.concat_of_lt (hfirst : IsFirstDeepest failures f)
    (hlt : f.length < g.length) : IsFirstDeepest (failures ++ [g]) g := by
  refine ⟨failures, [], rfl, ?_, by simp⟩
  intro other hother
  exact Nat.lt_of_le_of_lt (hfirst.length_le hother) hlt

theorem deepest?_eq_none (hnone : deepest? failures = none) :
    failures = [] := by
  cases failures with
  | nil => rfl
  | cons latest earlier =>
      rw [deepest?] at hnone
      split at hnone
      · cases hnone
      · split at hnone <;> cases hnone

/-- The deepest failure is the first at the greatest length in the order in
which they arose. -/
theorem isFirstDeepest_of_deepest? (hdeepest : deepest? failures = some f) :
    IsFirstDeepest failures.reverse f := by
  induction failures generalizing f with
  | nil => cases hdeepest
  | cons latest earlier ih =>
      rw [deepest?] at hdeepest
      rw [List.reverse_cons]
      split at hdeepest
      next hnone =>
        cases hdeepest
        rw [deepest?_eq_none hnone]
        exact ⟨[], [], rfl, by simp, by simp⟩
      next g hg =>
        split at hdeepest
        next hdeeper =>
          cases hdeepest
          exact (ih hg).concat_of_lt hdeeper
        next hno =>
          cases hdeepest
          exact (ih hg).concat_of_le (Nat.le_of_not_lt hno)

end PathFailure

namespace PathSearch

variable {search : PathSearch} {p : SearchProgress}

/-- The failure tells how far a search that came to nothing has got, and what
stopped it first there. -/
structure Explains (search : PathSearch) (p : SearchProgress)
    (f : PathFailure) : Prop where
  /-- It is the first of those at the greatest length. -/
  first : PathFailure.IsFirstDeepest p.failures.reverse f
  /-- A path of this length was visited. -/
  visited : ∃ visit ∈ p.visits, visit.path.length = f.length
  /-- No longer path was visited. -/
  longest : ∀ visit ∈ p.visits, visit.path.length ≤ f.length
  /-- What is recorded is what the visited paths were refused for. -/
  recorded : ∀ g, g ∈ p.failures ↔ ∃ visit ∈ p.visits,
    g.length = visit.path.length ∧ search.Refuses visit g.failure

/-- An exhausted search has made the whole walk from the leaf. -/
theorem exploreAll_leaves
    (hsearch : search.exploreAll .start = (.exhausted, p)) :
    p.visits.reverse = search.reached search.pool.length
      ⟨⟨search.leaf, []⟩, 0⟩ ∧ p.failures.reverse =
      search.refusals search.pool.length ⟨⟨search.leaf, []⟩, 0⟩ := by
  have hleaves := explore_leaves hsearch
  constructor
  · rw [hleaves.visits, SearchProgress.start, List.append_nil,
      List.reverse_reverse]
  · rw [hleaves.failures, SearchProgress.start, List.append_nil,
      List.reverse_reverse]

/-- An exhausted search has a deepest failure, and it explains the search. -/
theorem exists_explains (hsearch : search.exploreAll .start = (.exhausted, p)) :
    ∃ f, PathFailure.deepest? p.failures = some f ∧ search.Explains p f := by
  obtain ⟨hvisits, hfailures⟩ := exploreAll_leaves hsearch
  have hvisited (visit : PathVisit) : visit ∈ p.visits ↔
      visit ∈ search.reached search.pool.length ⟨⟨search.leaf, []⟩, 0⟩ := by
    rw [← hvisits, List.mem_reverse]
  have hrecorded (g : PathFailure) : g ∈ p.failures ↔ ∃ visit ∈ p.visits,
      g.length = visit.path.length ∧ search.Refuses visit g.failure := by
    rw [← List.mem_reverse, hfailures, mem_refusals_iff]
    simp only [hvisited]
  have hdeep (visit : PathVisit) (hvisit : visit ∈ p.visits) :
      ∃ g ∈ p.failures, visit.path.length ≤ g.length := by
    obtain ⟨g, hg, hlength⟩ :=
      exists_refusal_of_reached (search.length_unused_le _) hsearch
        ((hvisited visit).mp hvisit)
    rw [← hfailures, List.mem_reverse] at hg
    exact ⟨g, hg, hlength⟩
  cases hdeepest : PathFailure.deepest? p.failures with
  | none =>
      -- the leaf itself is visited
      obtain ⟨g, hg, _⟩ :=
        hdeep _ ((hvisited _).mpr (search.self_mem_reached _ _))
      rw [PathFailure.deepest?_eq_none hdeepest] at hg
      cases hg
  | some f =>
      have hfirst := PathFailure.isFirstDeepest_of_deepest? hdeepest
      refine ⟨f, rfl, hfirst, ?_, ?_, hrecorded⟩
      · obtain ⟨visit, hvisit, hlength, _⟩ :=
          (hrecorded f).mp (List.mem_reverse.mp hfirst.mem)
        exact ⟨visit, hvisit, hlength.symm⟩
      · intro visit hvisit
        obtain ⟨g, hg, hlength⟩ := hdeep visit hvisit
        exact Nat.le_trans hlength (hfirst.length_le (List.mem_reverse.mpr hg))

/-- Every path that an exhausted search has visited begins at the leaf. -/
theorem leaf_of_visited (hsearch : search.exploreAll .start = (.exhausted, p))
    {visit : PathVisit} (hvisit : visit ∈ p.visits) :
    visit.path.leaf = search.leaf := by
  rw [← List.mem_reverse, (exploreAll_leaves hsearch).1] at hvisit
  have hleaf := leaf_of_mem_reached hvisit
  exact hleaf

/-- The rest of such a path comes from the pool. -/
theorem mem_pool_of_visited
    (hsearch : search.exploreAll .start = (.exhausted, p)) {visit : PathVisit}
    (hvisit : visit ∈ p.visits) : ∀ c ∈ visit.path.intermediates,
      c ∈ search.pool := by
  rw [← List.mem_reverse, (exploreAll_leaves hsearch).1] at hvisit
  intro c hc
  rcases mem_of_mem_reached hvisit c hc with hnil | hpool
  · cases hnil
  · exact hpool

end PathSearch

/-- A verifier whose search comes to nothing answers the first of the deepest
failures. It answers that there is no path only where that failure is of a path
of which no issuer is known: no anchor has the name, and neither has an
intermediate that is not on the path. -/
theorem verify_answers_deepest_failure (verifier : PathVerifier)
    (leaf : EncodedCertificate) (intermediates : List EncodedCertificate)
    (p : SearchProgress)
    (hleaf : (verifier.search leaf intermediates).checkLeaf verifier.leafRules =
      .ok ())
    (hsearch : (verifier.search leaf intermediates).exploreAll .start =
      (.exhausted, p)) :
    ∃ f, PathFailure.deepest? p.failures = some f ∧
      (verifier.search leaf intermediates).Explains p f ∧
      (verifier.verify leaf intermediates).value = .error f.failure ∧
      (f.failure.reason? = some .noPathsFound → ∃ visit ∈ p.visits,
        visit.path.length = f.length ∧
        f.failure = PathSearch.noIssuer visit.path.top ∧
        (verifier.search leaf intermediates).IssuerUnknown visit.path ∧
        ((∀ a ∈ leaf :: intermediates, ∀ b ∈ leaf :: intermediates,
            a.encoding = b.encoding → a = b) →
          ∀ c ∈ intermediates, c.subject.isMatch visit.path.top.issuer = true →
            visit.path.has c = true)) := by
  obtain ⟨f, hdeepest, hexplains⟩ := PathSearch.exists_explains hsearch
  refine ⟨f, hdeepest, hexplains, ?_, ?_⟩
  · exact PathSearch.run_of_deepest? hleaf hsearch hdeepest
  · intro hreason
    have hf := List.mem_reverse.mp hexplains.first.mem
    obtain ⟨visit, hvisit, hlength, hrefuses⟩ := (hexplains.recorded f).mp hf
    obtain ⟨hunknown, hfailure⟩ := hrefuses.issuerUnknown hreason
    refine ⟨visit, hvisit, hlength.symm, hfailure, hunknown, ?_⟩
    intro hencodings c hc hname
    by_cases hsame : c.encoding = leaf.encoding
    · rw [Path.has_eq_true_iff, hsame, Path.certificates, List.map_cons,
        PathSearch.leaf_of_visited hsearch hvisit]
      exact List.mem_cons_self
    · exact hunknown.pool c
        (PathSearch.mem_pool_of_mem hencodings hc hsame) hname

namespace ChainFamily

/-- What is supplied with the leaf of a chain of three, after an authority with
the name of the first whose own issuer is unknown. -/
def strayAndAuthorities : List EncodedCertificate :=
  authorityWith 9 (name 0) (name 7) :: authorities 2 2

/-- The search of a verifier for which the chain of three is too long. -/
def shallowSearch : PathSearch :=
  (verifier 1 none .clientAuth).search (leaf 2) strayAndAuthorities

end ChainFamily

open ChainFamily in
/-- Two ways come to nothing above an intermediate: the issuer of the first
authority is unknown, and the issuer of the second would make the path too long.
The first is answered. -/
theorem chain_answers_deepest_failure :
    ∃ p f, shallowSearch.exploreAll .start = (.exhausted, p) ∧
      p.failures.map (·.failure.reason?) =
        [some .invalidPathLength, some .noPathsFound] ∧
      shallowSearch.Explains p f ∧
      ((verifier 1 none .clientAuth).verify (leaf 2)
        strayAndAuthorities).value = .error f.failure ∧
      f.failure.reason? = some .noPathsFound := by
  have hleaf : shallowSearch.checkLeaf (verifier 1 none .clientAuth).leafRules =
      .ok () := by
    decide +kernel
  have hexhausted : (shallowSearch.exploreAll .start).1 = .exhausted := by
    decide +kernel
  have hreasons : (shallowSearch.exploreAll .start).2.failures.map
      (·.failure.reason?) = [some .invalidPathLength, some .noPathsFound] := by
    decide +kernel
  have hfirst : (PathFailure.deepest?
      (shallowSearch.exploreAll .start).2.failures).map
      (·.failure.reason?) = some (some .noPathsFound) := by
    decide +kernel
  rcases hsearch : shallowSearch.exploreAll .start with ⟨outcome, p⟩
  rw [hsearch] at hexhausted hreasons hfirst
  subst hexhausted
  obtain ⟨f, hdeepest, hexplains, hanswer, _⟩ :=
    verify_answers_deepest_failure (verifier 1 none .clientAuth)
      (leaf 2) strayAndAuthorities p
      hleaf hsearch
  rw [hdeepest] at hfirst
  exact ⟨p, f, rfl, hreasons, hexplains, hanswer, Option.some.inj hfirst⟩

end TrustPath
