import Mathlib.Data.List.Lex
import TrustPath.Proofs.Ascent
import TrustPath.Proofs.Completeness

/-!
The order in which valid paths are found. Two paths are compared where they
part: to be closed there comes first, then the intermediates in the order in
which they were supplied, and for the same certificates the anchors in the order
of the store. The search answers the first of all valid paths.
-/

namespace TrustPath

/-- One path comes before another in search order, for certificates supplied and
anchors trusted in these orders. What is there twice counts where it is
first. -/
inductive VerifiedPath.Precedes (supplied : List EncodedCertificate)
    (anchors : List TrustAnchor) (v w : VerifiedPath) : Prop
  /-- Where the two part, the first is closed and the second goes on. -/
  | closes {c : EncodedCertificate} {above : List EncodedCertificate}
      (hw : w.path.intermediates = v.path.intermediates ++ c :: above)
  /-- Where the two part, the first goes on to what was supplied earlier. -/
  | continues {below above others : List EncodedCertificate}
      {c d : EncodedCertificate}
      (hv : v.path.intermediates = below ++ c :: above)
      (hw : w.path.intermediates = below ++ d :: others)
      (hearlier : supplied.idxOf c < supplied.idxOf d)
  /-- The two have the same certificates, and the first has the earlier
  anchor. -/
  | anchored (hpath : v.path = w.path)
      (hearlier : anchors.idxOf v.anchor < anchors.idxOf w.anchor)

namespace VerifiedPath

variable {supplied : List EncodedCertificate} {anchors : List TrustAnchor}
  {v w : VerifiedPath}

/-- Search order is the lexicographic order of places in the two lists. -/
theorem Precedes.places_lt (hprecedes : v.Precedes supplied anchors w) :
    v.path.intermediates.map supplied.idxOf <
      w.path.intermediates.map supplied.idxOf ∨
      v.path = w.path ∧ anchors.idxOf v.anchor < anchors.idxOf w.anchor := by
  cases hprecedes with
  | @closes c above hw =>
      refine Or.inl ?_
      have hlonger : v.path.intermediates.map supplied.idxOf ++ [] <
          v.path.intermediates.map supplied.idxOf ++
          supplied.idxOf c :: above.map supplied.idxOf :=
        List.append_left_lt
          (List.nil_lt_cons (supplied.idxOf c) (above.map supplied.idxOf))
      rw [hw, List.map_append, List.map_cons]
      rwa [List.append_nil] at hlonger
  | continues hv hw hearlier =>
      refine Or.inl ?_
      rw [hv, hw, List.map_append, List.map_append, List.map_cons,
        List.map_cons]
      exact List.append_left_lt (List.cons_lt_cons_iff.mpr (Or.inl hearlier))
  | anchored hpath hearlier => exact Or.inr ⟨hpath, hearlier⟩

theorem Precedes.irrefl (v : VerifiedPath) :
    ¬ v.Precedes supplied anchors v := by
  intro hprecedes
  rcases hprecedes.places_lt with hplaces | ⟨_, hanchor⟩
  · exact lt_irrefl _ hplaces
  · exact lt_irrefl _ hanchor

theorem Precedes.asymm (hprecedes : v.Precedes supplied anchors w) :
    ¬ w.Precedes supplied anchors v := by
  intro hback
  rcases hprecedes.places_lt with hplaces | ⟨hpath, hanchor⟩
  · rcases hback.places_lt with hothers | ⟨hpath, _⟩
    · exact lt_asymm hplaces hothers
    · rw [hpath] at hplaces
      exact lt_irrefl _ hplaces
  · rcases hback.places_lt with hothers | ⟨_, hother⟩
    · rw [hpath] at hothers
      exact lt_irrefl _ hothers
    · exact lt_asymm hanchor hother

end VerifiedPath

/-- What a filter keeps stands in the order of the whole list: after `a` comes
only what is first found after `a`. -/
theorem idxOf_lt_idxOf_of_filter {α : Type} [DecidableEq α]
    {xs before after : List α} {a b : α}
    {keep : α → Bool} (hsplit : xs.filter keep = before ++ a :: after)
    (hb : b ∈ xs.filter keep) (hbefore : b ∉ before) (hne : b ≠ a) :
    xs.idxOf a < xs.idxOf b := by
  obtain ⟨front, back, rfl, rfl, hback⟩ := List.filter_eq_append_iff.mp hsplit
  obtain ⟨skipped, rest, rfl, hskipped, _, _⟩ :=
    List.filter_eq_cons_iff.mp hback
  have hkeep : keep b = true := (List.mem_filter.mp hb).2
  have hlate : b ∉ front ++ skipped := by
    rw [List.mem_append]
    rintro (hfront | hskip)
    · exact hbefore (List.mem_filter.mpr ⟨hfront, hkeep⟩)
    · exact hskipped b hskip hkeep
  have hfirst : (front ++ skipped ++ a :: rest).idxOf a ≤
      (front ++ skipped).length := by
    by_cases ha : a ∈ front ++ skipped
    · rw [List.idxOf_append_of_mem ha]
      exact List.idxOf_le_length
    · rw [List.idxOf_append_of_notMem ha, List.idxOf_cons_self]
      exact Nat.le_refl _
  rw [← List.append_assoc]
  refine Nat.lt_of_le_of_lt hfirst ?_
  rw [List.idxOf_append_of_notMem hlate, List.idxOf_cons_ne rest hne.symm]
  omega

namespace PathSearch

variable {search : PathSearch} {path : Path} {v w : VerifiedPath}

/-- An ascent leads to the first of all completions. -/
theorem Ascent.precedes {supplied : List EncodedCertificate} {cost : Nat}
    (hascent : search.Ascent path v cost)
    (horder : ∀ c ∈ search.pool, ∀ d ∈ search.pool,
      search.pool.idxOf c < search.pool.idxOf d →
      supplied.idxOf c < supplied.idxOf d)
    (hcompletion : search.Completion path w) :
    w = v ∨ v.Precedes supplied search.store.anchors w := by
  induction hascent with
  | @close path before after anchor hsplit hbefore hcloses =>
      cases hcompletion with
      | @close _ other hother hothercloses =>
          by_cases hsame : other = anchor
          · exact Or.inl (by rw [hsame])
          · refine Or.inr (.anchored rfl
              (idxOf_lt_idxOf_of_filter hsplit hother ?_ hsame))
            exact fun hearlier => hbefore other hearlier hothercloses
      | @extend _ c _ _ _ _ hrest =>
          obtain ⟨rest, hpath⟩ := hrest.extends_path
          have hlonger : w.path.intermediates = path.intermediates ++
              c :: rest := by
            rw [hpath, Path.intermediates_push, List.append_assoc,
              List.singleton_append]
          exact Or.inr (.closes hlonger)
  | @extend path before after c _ _ v hanchors hsplit hbefore hcontinues hrest
        ih =>
      cases hcompletion with
      | close hother hothercloses =>
          exact absurd hothercloses (hanchors _ hother)
      | @extend _ d depth _ hissuer hothercontinues hotherrest =>
          by_cases hsame : d = c
          · subst hsame
            exact ih hotherrest
          · -- all that came before `c` has no completion, so `d` comes after it
            have hlate : d ∉ before := fun hearlier =>
              hbefore d hearlier depth hothercontinues w hotherrest
            have hissuers : c ∈ search.issuersFor path := by simp [hsplit]
            have hearlier := idxOf_lt_idxOf_of_filter hsplit hissuer hlate hsame
            obtain ⟨above, hv⟩ := hrest.completion.extends_path
            obtain ⟨others, hw⟩ := hotherrest.extends_path
            rw [Path.intermediates_push, List.append_assoc,
              List.singleton_append] at hv hw
            exact Or.inr (.continues (congrArg Path.intermediates hv)
              (congrArg Path.intermediates hw)
              (horder c (List.mem_filter.mp hissuers).1 d
                (List.mem_filter.mp hissuer).1 hearlier))

end PathSearch

/-- A verifier answers the first valid path in search order: none precedes the
answer, and the answer precedes every other. -/
theorem verified_path_first (verifier : PathVerifier)
    (leaf : EncodedCertificate) (intermediates : List EncodedCertificate)
    (hencodings : ∀ a ∈ leaf :: intermediates, ∀ b ∈ leaf :: intermediates,
      a.encoding = b.encoding → a = b)
    (v : VerifiedPath)
    (hverify : (verifier.verify leaf intermediates).value = .ok v) :
    ∀ w, (verifier.search leaf intermediates).Valid intermediates w →
      ¬ w.Precedes intermediates verifier.store.anchors v ∧
        (w ≠ v → v.Precedes intermediates verifier.store.anchors w) := by
  intro w hvalid
  obtain ⟨cost, hascent, _⟩ := PathSearch.run_ascent (Prod.ext hverify rfl)
  have hcompletion :=
    (PathSearch.completion_leaf_iff _ w).mpr (hvalid.in_pool hencodings)
  rcases hascent.precedes (fun _ hc _ hd =>
    PathSearch.idxOf_lt_idxOf_of_pool hc hd) hcompletion with
    rfl | hprecedes
  · exact ⟨VerifiedPath.Precedes.irrefl w, fun hother => absurd rfl hother⟩
  · exact ⟨hprecedes.asymm, fun _ => hprecedes⟩

open ChainFamily in
/-- Where the anchor's own certificate is supplied too, there is a path by way
of it; the answer is the one that the anchor closes at once. -/
theorem short_chain_first :
    ((verifier 2 none .clientAuth).verify (leaf 0) [anchor.certificate]).value =
        .ok (chain 0) ∧
      ((verifier 2 none .clientAuth).search (leaf 0)
        [anchor.certificate]).Valid [anchor.certificate]
          ⟨⟨leaf 0, [anchor.certificate]⟩, anchor⟩ ∧
      (chain 0).Precedes [anchor.certificate] [anchor]
        ⟨⟨leaf 0, [anchor.certificate]⟩, anchor⟩ := by
  have hverify : ((verifier 2 none .clientAuth).verify (leaf 0)
      [anchor.certificate]).value = .ok (chain 0) := by
    decide +kernel
  have hcourse := (PathSearch.OnCourse.start
      ((verifier 2 none .clientAuth).search (leaf 0) [anchor.certificate])
      [anchor.certificate]).push (List.mem_singleton_self anchor.certificate)
    (by decide +kernel) ⟨by decide, rfl⟩ (by rfl)
  have hvalid : ((verifier 2 none .clientAuth).search (leaf 0)
      [anchor.certificate]).Valid
      [anchor.certificate] ⟨⟨leaf 0, [anchor.certificate]⟩, anchor⟩ :=
    { hcourse with
      trusted := List.mem_singleton_self anchor
      closed := ⟨by decide, rfl⟩
      whole := by rfl }
  have hfirst := verified_path_first (verifier 2 none .clientAuth) (leaf 0)
      [anchor.certificate]
    (by decide +kernel) (chain 0) hverify _ hvalid
  exact ⟨hverify, hvalid, hfirst.2 (by decide +kernel)⟩

end TrustPath
