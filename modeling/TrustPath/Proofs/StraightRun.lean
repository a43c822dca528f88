import TrustPath.Proofs.Completion

/-!
Runs that never go back. Where every anchor is refused but the one that closes
the path, and the next certificate of the path is always the first intermediate
tried, the search walks straight up the path, and what it costs can be told
beforehand.
-/

namespace TrustPath

/-- Alternatives after some that are exhausted are tried from where those leave
off. -/
theorem tryEach_append {α : Type} {attempt : α → SearchStep} {before : List α}
    {p r : SearchProgress}
    (hbefore : tryEach attempt before p = (.exhausted, r)) (rest : List α) :
    tryEach attempt (before ++ rest) p = tryEach attempt rest r := by
  induction before generalizing p with
  | nil =>
      cases hbefore
      rfl
  | cons a before ih =>
      rw [tryEach] at hbefore
      split at hbefore
      next s hfirst =>
        rw [List.cons_append, tryEach, hfirst]
        exact ih hbefore
      next hother => exact absurd hbefore (hother r)

/-- Alternatives of which the first finds a path are not tried further. -/
theorem tryEach_found_head {α : Type} {attempt : α → SearchStep} {a : α}
    {v : VerifiedPath} {p q : SearchProgress}
    (hfound : attempt a p = (.found v, q)) (rest : List α) :
    tryEach attempt (a :: rest) p = (.found v, q) := by
  rw [tryEach, hfound]

namespace PathSearch

variable {search : PathSearch} {path : Path} {v : VerifiedPath}
  {p q : SearchProgress}

/-- Within the budget, an anchor is refused or finds the path, in one step. -/
theorem HasBudget.attemptAnchor (hbudget : search.HasBudget p 1) (path : Path)
    (anchor : TrustAnchor) :
    ∃ q, p.Spent 1 q ∧
      (¬ search.Closes path anchor ∧ search.attemptAnchor path anchor p =
        (.exhausted, q) ∨ search.Closes path anchor ∧
          search.attemptAnchor path anchor p = (.found ⟨path, anchor⟩, q)) := by
  rcases hrun : search.attemptAnchor path anchor p with ⟨outcome, q⟩
  rcases attemptAnchor_cases hrun with
    ⟨_, _, _, hspent⟩ | ⟨rfl, hrefused, hstep⟩ | ⟨rfl, hcloses, hstep⟩
  · exact absurd hbudget hspent
  · exact ⟨q, hstep, Or.inl ⟨hrefused, rfl⟩⟩
  · exact ⟨q, hstep, Or.inr ⟨hcloses, rfl⟩⟩

/-- Within the budget, an intermediate that continues the path is gone on to, in
one step. -/
theorem HasBudget.attemptIssuer {depth above : Nat} {c : EncodedCertificate}
    (hbudget : search.HasBudget p 1)
    (hcontinues : search.Continues path depth c above)
    (descend : Path → Nat → SearchStep) :
    ∃ q, p.Spent 1 q ∧
      search.attemptIssuer descend path depth c p =
        descend (path.push c) above q := by
  rcases hrun : search.attemptIssuer descend path depth c p with ⟨outcome, q⟩
  rcases attemptIssuer_cases hrun with
    ⟨_, _, _, hspent⟩ | ⟨_, hrefused⟩ | ⟨other, r, hother, hstep, hdescends⟩
  · exact absurd hbudget hspent
  · exact absurd hcontinues (hrefused above)
  · have hsame : other = above :=
      Except.ok.inj (hother.1.symm.trans hcontinues.1)
    exact ⟨r, hstep, by rw [← hsame, hdescends]⟩

/-- Within the budget, anchors that do not close the path are all refused. -/
theorem HasBudget.tryAnchors {anchors : List TrustAnchor} {steps : Nat}
    (hbudget : search.HasBudget p (anchors.length + steps))
    (hrefused : ∀ anchor ∈ anchors, ¬ search.Closes path anchor) :
    ∃ q, p.Spent anchors.length q ∧
      tryEach (search.attemptAnchor path) anchors p = (.exhausted, q) := by
  induction anchors generalizing p with
  | nil => exact ⟨p, .refl p, rfl⟩
  | cons anchor rest ih =>
      rw [List.length_cons, Nat.add_comm rest.length, Nat.add_assoc] at hbudget
      obtain ⟨r, hstep, ⟨_, hfirst⟩ | ⟨hcloses, _⟩⟩ :=
        (hbudget.mono (Nat.le_add_right 1 _)).attemptAnchor path anchor
      · obtain ⟨q, hspent, hrest⟩ := ih (hbudget.after hstep)
          fun other hother =>
            hrefused other (List.mem_cons_of_mem anchor hother)
        refine ⟨q, ?_, ?_⟩
        · rw [List.length_cons, Nat.add_comm]
          exact hstep.trans hspent
        · rw [tryEach, hfirst]
          exact hrest
      · exact absurd hcloses (hrefused anchor List.mem_cons_self)

/-- A way straight up from a partial path to a verified one: nothing is tried in
vain but anchors. The cost is one step for each anchor tried and for each
intermediate gone on to. -/
inductive Straight (search : PathSearch) : Path → VerifiedPath → Nat → Prop
  | close {path : Path} {before after : List TrustAnchor} {anchor : TrustAnchor}
      (hsplit : search.anchorsFor path = before ++ anchor :: after)
      (hbefore : ∀ other ∈ before, ¬ search.Closes path other)
      (hcloses : search.Closes path anchor) :
      Straight search path ⟨path, anchor⟩ (before.length + 1)
  | extend {path : Path} {c : EncodedCertificate}
      {others : List EncodedCertificate}
      {above cost : Nat} {v : VerifiedPath}
      (hanchors : ∀ anchor ∈ search.anchorsFor path,
        ¬ search.Closes path anchor)
      (hfirst : search.issuersFor path = c :: others)
      (hcontinues : search.Continues path (depthOf path.intermediates) c above)
      (hrest : Straight search (path.push c) v cost) :
      Straight search path v ((search.anchorsFor path).length + (1 + cost))

/-- The search walks straight up, and spends just the cost, if the budget allows
it. -/
theorem Straight.explore_eq {cost : Nat}
    (hstraight : search.Straight path v cost)
    (hbudget : search.HasBudget p cost) {room : Nat}
    (hroom : (search.unused path).length ≤ room) :
    ∃ q, p.Spent cost q ∧
      search.explore room path (depthOf path.intermediates) p =
        (.found v, q) := by
  induction hstraight generalizing p room with
  | @close path before after anchor hsplit hbefore hcloses =>
      have hvisited : search.HasBudget
          (p.visit path (depthOf path.intermediates))
          (before.length + 1) :=
        ⟨hbudget.signatureChecks, hbudget.candidates⟩
      obtain ⟨r, hrefused, hexhausted⟩ := hvisited.tryAnchors hbefore
      obtain ⟨q, hlast, ⟨hnot, _⟩ | ⟨_, hfound⟩⟩ :=
        (hvisited.after hrefused).attemptAnchor path anchor
      · exact absurd hcloses hnot
      · refine ⟨q, (hrefused.trans hlast).of_visit, ?_⟩
        rw [explore_eq_visit, visit, hsplit, tryEach_append hexhausted,
          tryEach_found_head hfound]
  | @extend path c others above cost v hanchors hfirst hcontinues hrest ih =>
      have hissuer : c ∈ search.issuersFor path := by simp [hfirst]
      have hlt := length_unused_push_lt hissuer
      have hvisited : search.HasBudget
          (p.visit path (depthOf path.intermediates))
          ((search.anchorsFor path).length + (1 + cost)) :=
        ⟨hbudget.signatureChecks, hbudget.candidates⟩
      obtain ⟨r, hrefused, hexhausted⟩ := hvisited.tryAnchors hanchors
      cases room with
      | zero => omega
      | succ room =>
          have hleft := hvisited.after hrefused
          obtain ⟨s, hstep, hdescends⟩ :=
            (hleft.mono (Nat.le_add_right 1 _)).attemptIssuer hcontinues
              (search.explore room)
          obtain ⟨q, hspent, hfound⟩ := ih (hleft.after hstep)
            (Nat.le_of_lt_succ (Nat.lt_of_lt_of_le hlt hroom))
          rw [hcontinues.above_eq, hfound] at hdescends
          refine ⟨q, (hrefused.trans (hstep.trans hspent)).of_visit, ?_⟩
          rw [explore_eq_visit, visit, hexhausted]
          dsimp only
          rw [hfirst, exploreAbove, tryEach_found_head hdescends]

/-- A run answers the path straight up from the leaf, if the leaf is accepted
and the budgets allow the cost. -/
theorem Straight.run_eq {cost : Nat}
    (hstraight : search.Straight ⟨search.leaf, []⟩ v cost)
    {leafRules : ExtensionPolicy} (hleaf : search.checkLeaf leafRules = .ok ())
    (hbudget : search.HasBudget .start cost) :
    ∃ q, SearchProgress.start.Spent cost q ∧
      search.run leafRules = (.ok v, q) := by
  obtain ⟨q, hspent, hfound⟩ :=
    hstraight.explore_eq hbudget (search.length_unused_le _)
  have hall : search.exploreAll .start = (.found v, q) := hfound
  rw [run, hleaf]
  dsimp only
  rw [hall]
  refine ⟨_, ?_, rfl⟩
  exact ⟨hspent.signatureChecks, hspent.candidates⟩

/-! ### Pools that are the path itself -/

/-- Where the pool is a path with more certificates above it, what is on the
path is passed over, and the next certificate comes first. -/
theorem issuersFor_eq_cons {c : EncodedCertificate}
    {above : List EncodedCertificate}
    (hpool : search.pool = path.intermediates ++ c :: above)
    (hname : c.subject.isMatch path.top.issuer = true)
    (hfresh : path.has c = false) :
    ∃ others, search.issuersFor path = c :: others := by
  have hbelow : path.intermediates.filter (fun other =>
      other.subject.isMatch path.top.issuer && !path.has other) = [] := by
    rw [List.filter_eq_nil_iff]
    intro other hother
    have hon : path.has other = true := by
      rw [Path.has_eq_true_iff]
      exact List.mem_map_of_mem (List.mem_cons_of_mem _ hother)
    simp [hon]
  rw [issuersFor, hpool, List.filter_append, hbelow, List.nil_append,
    List.filter_cons_of_pos (by rw [hname, hfresh]; rfl)]
  exact ⟨_, rfl⟩

/-- Where moreover no anchor is known for any certificate but the last, a valid
path goes straight up, at one step for each certificate. -/
theorem Valid.straight (hvalid : search.Valid search.pool v)
    (hpool : search.pool = v.path.intermediates)
    (hunanchored : ∀ below c above, v.path.intermediates = below ++ c :: above →
      search.anchorsFor ⟨v.path.leaf, below⟩ = [])
    (hanchored : ∃ others, search.anchorsFor v.path = v.anchor :: others)
    {below above : List EncodedCertificate}
    (hsplit : v.path.intermediates = below ++ above) :
    search.Straight ⟨v.path.leaf, below⟩ v (above.length + 1) := by
  induction above generalizing below with
  | nil =>
      obtain ⟨others, hanchors⟩ := hanchored
      have hnone : ∀ other ∈ ([] : List TrustAnchor),
          ¬ search.Closes v.path other := by simp
      have hlast : search.Straight v.path v 1 :=
        .close (hanchors.trans (List.nil_append _).symm) hnone
          ⟨hvalid.closed.2, hvalid.whole⟩
      rw [List.append_nil] at hsplit
      rwa [← hsplit]
  | cons c above ih =>
      obtain ⟨_, hfresh, ⟨hname, hverifies⟩, depth, hpassed⟩ :=
        hvalid.toOnCourse.extends_below hsplit
      obtain ⟨others, hfirst⟩ :=
        issuersFor_eq_cons (hpool.trans hsplit) hname hfresh
      have hnone := hunanchored below c above hsplit
      have hrest : search.Straight (Path.push ⟨v.path.leaf, below⟩ c) v
          (above.length + 1) :=
        ih (by rw [hsplit, List.append_assoc, List.singleton_append])
      have hstraight := Straight.extend (by simp [hnone]) hfirst
          ⟨hpassed, hverifies⟩ hrest
      rwa [hnone, List.length_nil, Nat.zero_add, Nat.add_comm] at hstraight

end PathSearch

end TrustPath
