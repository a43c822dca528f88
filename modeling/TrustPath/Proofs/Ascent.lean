import TrustPath.Proofs.Completion
import TrustPath.Proofs.SearchInvariant

/-!
How the search comes to the path that it finds. From each certificate on the way
it goes on only after every anchor there is refused, and to an intermediate only
after all those before it have come to nothing. An ascent says so without the
run, and what it costs at least.
-/

namespace TrustPath.PathSearch

variable {search : PathSearch} {path : Path} {v : VerifiedPath}
  {p q : SearchProgress}

/-- The way from a partial path to a verified one, with nothing left that could
have been found before. The cost is one step for each anchor tried on the way
and for each intermediate gone on to. -/
inductive Ascent (search : PathSearch) : Path → VerifiedPath → Nat → Prop
  | close {path : Path} {before after : List TrustAnchor} {anchor : TrustAnchor}
      (hsplit : search.anchorsFor path = before ++ anchor :: after)
      (hbefore : ∀ other ∈ before, ¬ search.Closes path other)
      (hcloses : search.Closes path anchor) :
      Ascent search path ⟨path, anchor⟩ (before.length + 1)
  | extend {path : Path} {before after : List EncodedCertificate}
      {c : EncodedCertificate}
      {above cost : Nat} {v : VerifiedPath}
      (hanchors : ∀ anchor ∈ search.anchorsFor path,
        ¬ search.Closes path anchor)
      (hsplit : search.issuersFor path = before ++ c :: after)
      (hbefore : ∀ other ∈ before, ∀ depth,
        search.Continues path (depthOf path.intermediates) other depth →
          ∀ w, ¬ search.Completion (path.push other) w)
      (hcontinues : search.Continues path (depthOf path.intermediates) c above)
      (hrest : Ascent search (path.push c) v cost) :
      Ascent search path v ((search.anchorsFor path).length + 1 + cost)

/-- A completion has the certificates that it completes, and more above them. -/
theorem Completion.extends_path (hcompletion : search.Completion path v) :
    ∃ rest, v.path = ⟨path.leaf, path.intermediates ++ rest⟩ := by
  induction hcompletion with
  | close => exact ⟨[], by simp⟩
  | @extend path c _ _ _ _ _ ih =>
      obtain ⟨rest, hrest⟩ := ih
      refine ⟨c :: rest, ?_⟩
      rw [hrest, Path.intermediates_push, List.append_assoc,
        List.singleton_append]
      rfl

theorem Ascent.completion {cost : Nat} (hascent : search.Ascent path v cost) :
    search.Completion path v := by
  induction hascent with
  | close hsplit _ hcloses => exact .close (by simp [hsplit]) hcloses
  | extend _ hsplit _ hcontinues _ ih =>
    exact .extend (by simp [hsplit]) hcontinues ih

/-- A visit that finds a path has made an ascent, if what it descends to makes
one, leaves no completion where it ends exhausted, and takes nothing back that
it has counted. -/
theorem visit_ascent {descend : Path → Nat → SearchStep}
    (hexhausted : ∀ c ∈ search.issuersFor path, ∀ {r s : SearchProgress},
      descend (path.push c) (depthOf (path.push c).intermediates) r =
      (.exhausted, s) →
        ∀ w, ¬ search.Completion (path.push c) w)
    (hfound : ∀ c ∈ search.issuersFor path, ∀ {r s : SearchProgress},
      descend (path.push c) (depthOf (path.push c).intermediates) r =
      (.found v, s) →
        ∃ cost, search.Ascent (path.push c) v cost ∧ r.SpentAtLeast cost s)
    (hcounts : ∀ path depth,
      Relates (fun r s => r.SpentAtLeast 0 s) (descend path depth))
    (hrun : search.visit descend path (depthOf path.intermediates) p =
      (.found v, q)) :
    ∃ cost, search.Ascent path v cost ∧ p.SpentAtLeast cost q := by
  rcases visit_ended_at hrun (by simp) with
    ⟨anchor, r, ⟨before, after, hsplit, hbefore⟩, hattempt⟩ |
    ⟨c, s, ⟨before, after, r, hanchors, hsplit, hbefore⟩, hattempt⟩
  · obtain ⟨hrefused, hspent⟩ := tryAnchors_exhausted hbefore
    rcases attemptAnchor_cases hattempt with ⟨e, haborted, _⟩ | ⟨hnone, _⟩
        | ⟨hv, hcloses, hlast⟩
    · cases haborted
    · cases hnone
    · cases hv
      have hcost := hspent.trans hlast
      exact ⟨_, .close hsplit hrefused hcloses, hcost.atLeast.signatureChecks,
        hcost.atLeast.candidates⟩
  · obtain ⟨hrefused, hspent⟩ := tryAnchors_exhausted hanchors
    rcases attemptIssuer_cases hattempt with
      ⟨e, haborted, _⟩ | ⟨hnone, _⟩ | ⟨above, t, hcontinues, hstep, hrest⟩
    · cases haborted
    · cases hnone
    · have hissuer : c ∈ search.issuersFor path := by simp [hsplit]
      rw [hcontinues.above_eq] at hrest
      obtain ⟨cost, hascent, habove⟩ := hfound c hissuer hrest
      have hpassed : r.SpentAtLeast 0 s := by
        have hissuers := (respects_spentAtLeast search).tryIssuers hcounts path
          (depthOf path.intermediates) before r
        rwa [hbefore] at hissuers
      have hcost := ((hspent.atLeast.trans hpassed).trans hstep.atLeast).trans
          habove
      refine ⟨_, .extend hrefused hsplit ?_ hcontinues hascent,
        hcost.signatureChecks, hcost.candidates⟩
      intro other hother depth hother_continues
      have hmem : other ∈ search.issuersFor path := by simp [hsplit, hother]
      rcases tryIssuers_exhausted hbefore other hother
          with hnot | ⟨_, _, _, hsame, hbelow⟩
      · exact absurd hother_continues (hnot depth)
      · rw [hsame.above_eq] at hbelow
        exact hexhausted other hmem hbelow

/-- A search with room for what is unused that finds a path has made an ascent
to it, and has spent no less than its cost. -/
theorem explore_ascent {room : Nat} (hroom : (search.unused path).length ≤ room)
    (hrun : search.explore room path (depthOf path.intermediates) p =
      (.found v, q)) :
    ∃ cost, search.Ascent path v cost ∧ p.SpentAtLeast cost q := by
  induction room generalizing path p q v with
  | zero =>
      refine visit_ascent (fun c hissuer => ?_) (fun c hissuer => ?_)
        (fun _ _ r => ?_) hrun
      · have hlt := length_unused_push_lt hissuer
        omega
      · have hlt := length_unused_push_lt hissuer
        omega
      · exact (SearchProgress.Spent.refl r).atLeast
  | succ room ih =>
      refine visit_ascent (fun c hissuer r s hbelow w => ?_)
        (fun c hissuer r s hbelow => ?_)
        ((respects_spentAtLeast search).explore room) hrun
      · have hlt := length_unused_push_lt hissuer
        exact explore_exhausted (by omega) hbelow
      · have hlt := length_unused_push_lt hissuer
        exact ih (by omega) hbelow

/-- A run that answers a path has made an ascent to it, at a cost that its
counters cover. -/
theorem run_ascent {leafRules : ExtensionPolicy} {progress : SearchProgress}
    (hrun : search.run leafRules = (.ok v, progress)) :
    ∃ cost, search.Ascent ⟨search.leaf, []⟩ v cost ∧
      SearchProgress.start.SpentAtLeast cost progress := by
  obtain ⟨_, q, _, hfound, rfl⟩ := run_found hrun
  obtain ⟨cost, hascent, hspent⟩ :=
    explore_ascent (search.length_unused_le _) hfound
  exact ⟨cost, hascent, hspent.signatureChecks, hspent.candidates⟩

end TrustPath.PathSearch
