import TrustPath.Proofs.SearchStep
import TrustPath.Proofs.ValidPath

/-!
The search against what it searches for. A completion of a partial path is a way
to close it, at once or after going on to more issuers; the search finds only
completions, ends exhausted only where there is none, and aborts only for its
budgets. Completions of the leaf alone are the valid paths.
-/

namespace TrustPath.PathSearch

variable {search : PathSearch} {supplied : List EncodedCertificate}
  {path : Path} {v : VerifiedPath} {p q : SearchProgress}

/-- The ways to go on from a partial path up to an anchor. -/
inductive Completion (search : PathSearch) : Path → VerifiedPath → Prop where
  | close {path : Path} {anchor : TrustAnchor}
      (hanchor : anchor ∈ search.anchorsFor path)
      (hcloses : search.Closes path anchor) : Completion search path
        ⟨path, anchor⟩
  | extend {path : Path} {c : EncodedCertificate} {above : Nat}
      {v : VerifiedPath}
      (hissuer : c ∈ search.issuersFor path)
      (hcontinues : search.Continues path (depthOf path.intermediates) c above)
      (hrest : Completion search (path.push c) v) : Completion search path v

/-- The depth at which a candidate passes is the depth above it. -/
theorem Continues.above_eq {c : EncodedCertificate} {above : Nat}
    (hcontinues : search.Continues path (depthOf path.intermediates) c above) :
    above = depthOf (path.push c).intermediates := by
  rw [Path.intermediates_push, depthOf_concat]
  exact ((search.checkCandidate_eq_ok_iff c _ above).mp hcontinues.1).2

theorem mem_issuersFor_iff (search : PathSearch) (path : Path)
    (c : EncodedCertificate) : c ∈ search.issuersFor path ↔
      c ∈ search.pool ∧ c.subject.isMatch path.top.issuer = true ∧
        path.has c = false := by
  simp [issuersFor]

theorem mem_anchorsFor_iff (search : PathSearch) (path : Path)
    (anchor : TrustAnchor) : anchor ∈ search.anchorsFor path ↔
      anchor ∈ search.store.anchors ∧ anchor.subject.isMatch path.top.issuer =
        true := by
  simp [anchorsFor, TrustStore.named]

/-! ### What the search finds -/

/-- The search finds only completions. -/
theorem explore_found {room : Nat}
    (hrun : search.explore room path (depthOf path.intermediates) p =
      (.found v, q)) :
    search.Completion path v := by
  revert path p q v
  refine explore_induction (P := fun descend => ∀ {path p q v},
    descend path (depthOf path.intermediates) p = (.found v, q) →
    search.Completion path v) ?_ ?_ room
  · intro path p q v hnothing
    cases hnothing
  · intro descend hdescend path p q v hvisit
    rcases visit_ended hvisit (by simp) with
      ⟨e, haborted, _⟩ | ⟨anchor, hanchor, hfound, hcloses⟩ |
      ⟨c, hissuer, above, r, hcontinues, hrest⟩
    · cases haborted
    · cases hfound
      exact .close hanchor hcloses
    · rw [hcontinues.above_eq] at hrest
      exact .extend hissuer hcontinues (hdescend hrest)

/-! ### What an exhausted search rules out -/

def unused (search : PathSearch) (path : Path) : List EncodedCertificate :=
  search.pool.filter fun c => !path.has c

/-- Every issuer pushed leaves fewer certificates unused, so the room given to
the search runs out no sooner than the pool. -/
theorem length_unused_push_lt {c : EncodedCertificate}
    (hissuer : c ∈ search.issuersFor path) :
    (search.unused (path.push c)).length < (search.unused path).length := by
  obtain ⟨hpool, _, hfresh⟩ := (search.mem_issuersFor_iff path c).mp hissuer
  have hsub : search.unused (path.push c) = (search.unused path).filter
      fun other => !(path.push c).has other := by
    rw [unused, unused, List.filter_filter]
    refine List.filter_congr fun other _ => ?_
    rw [Path.has_push]
    cases path.has other <;> simp
  have hmem : c ∈ search.unused path := by simp [unused, hpool, hfresh]
  rw [hsub]
  refine List.length_filter_lt_length_iff_exists.mpr ⟨c, hmem, ?_⟩
  simp [Path.has_push]

/-- An exhausted visit leaves no completion, if what it descends to leaves
none. -/
theorem visit_exhausted_no_completion {descend : Path → Nat → SearchStep}
    (hdescend : ∀ c ∈ search.issuersFor path, ∀ {r s : SearchProgress},
      descend (path.push c) (depthOf (path.push c).intermediates) r =
      (.exhausted, s) →
        ∀ v, ¬ search.Completion (path.push c) v)
    (hrun : search.visit descend path (depthOf path.intermediates) p =
      (.exhausted, q)) :
    ¬ search.Completion path v := by
  obtain ⟨hanchors, hissuers⟩ := visit_exhausted hrun
  intro hcompletion
  cases hcompletion with
  | close hanchor hcloses => exact hanchors _ hanchor hcloses
  | extend hissuer hcontinues hrest =>
      rcases hissuers _ hissuer with hrefused | ⟨above, r, s, hother, hbelow⟩
      · exact hrefused _ hcontinues
      · rw [hother.above_eq] at hbelow
        exact hdescend _ hissuer hbelow _ hrest

/-- A search with room for what is unused that ends exhausted leaves no
completion. -/
theorem explore_exhausted {room : Nat}
    (hroom : (search.unused path).length ≤ room)
    (hrun : search.explore room path (depthOf path.intermediates) p =
      (.exhausted, q)) :
    ¬ search.Completion path v := by
  induction room generalizing path p q v with
  | zero =>
      refine visit_exhausted_no_completion (fun c hissuer => ?_) hrun
      have hlt := length_unused_push_lt hissuer
      omega
  | succ room ih =>
      refine visit_exhausted_no_completion (fun c hissuer r s hbelow w =>
        ?_) hrun
      have hlt := length_unused_push_lt hissuer
      exact ih (by omega) hbelow

/-! ### Why the search aborts -/

/-- The search aborts only where a counter that it is about to raise is at its
limit. -/
theorem explore_aborted {room depth : Nat} {e : Failure}
    (hrun : search.explore room path depth p = (.aborted e, q)) :
    search.Stops e q := by
  revert path depth p q e
  refine explore_induction (P := fun descend => ∀ {path depth p q e},
    descend path depth p = (.aborted e, q) → search.Stops e q) ?_ ?_ room
  · intro path depth p q e hnothing
    cases hnothing
  · intro descend hdescend path depth p q e hvisit
    rcases visit_ended hvisit (by simp) with
      ⟨e, haborted, hstops⟩ | ⟨anchor, _, hfound, _⟩ | ⟨c, _, above, r,
        _, hrest⟩
    · cases haborted
      exact hstops
    · cases hfound
    · exact hdescend hrest

/-! ### Completions of the leaf are the valid paths -/

/-- A completion of a partial path on course is a valid path. -/
theorem Completion.valid (hcompletion : search.Completion path v)
    (hcourse : search.OnCourse supplied path)
    (hpool : ∀ c ∈ search.pool, c ∈ supplied) : search.Valid supplied v := by
  induction hcompletion with
  | close hanchor hcloses =>
      obtain ⟨htrusted, hname⟩ := (search.mem_anchorsFor_iff _ _).mp hanchor
      exact ⟨hcourse, htrusted, ⟨hname, hcloses.1⟩, hcloses.2⟩
  | extend hissuer hcontinues _ ih =>
      obtain ⟨hmem, hname, hfresh⟩ := (search.mem_issuersFor_iff _ _).mp hissuer
      exact ih (hcourse.push (hpool _ hmem) hfresh ⟨hname, hcontinues.2⟩
        hcontinues.1)

/-- A valid path completes each of its own beginnings. -/
theorem Valid.completes (hvalid : search.Valid search.pool v)
    {below above : List EncodedCertificate}
    (hsplit : v.path.intermediates = below ++ above) :
    search.Completion ⟨v.path.leaf, below⟩ v := by
  induction above generalizing below with
  | nil =>
      rw [List.append_nil] at hsplit
      rw [← hsplit]
      exact .close ((search.mem_anchorsFor_iff _ _).mpr
        ⟨hvalid.trusted, hvalid.closed.1⟩)
        ⟨hvalid.closed.2, hvalid.whole⟩
  | cons c above ih =>
      obtain ⟨hpool, hfresh, ⟨hname, hverifies⟩, depth, hpassed⟩ :=
        hvalid.toOnCourse.extends_below hsplit
      refine .extend (c := c)
        ((search.mem_issuersFor_iff _ c).mpr ⟨hpool, hname, hfresh⟩)
        ⟨hpassed, hverifies⟩ (ih ?_)
      rw [List.append_assoc, List.singleton_append]
      exact hsplit

theorem completion_leaf_iff (search : PathSearch) (v : VerifiedPath) :
    search.Completion ⟨search.leaf, []⟩ v ↔ search.Valid search.pool v := by
  constructor
  · intro hcompletion
    exact hcompletion.valid (.start search search.pool) fun _ hc => hc
  · intro hvalid
    rw [← hvalid.leaf_eq]
    exact hvalid.completes (List.nil_append _).symm

/-! ### What a whole run answers -/

variable {leafRules : ExtensionPolicy}

/-- The ways a run can end: the leaf is rejected, the search aborts, it finds a
path, or it ends exhausted, and then the deepest failure is the answer. -/
inductive Ends (search : PathSearch) (leafRules : ExtensionPolicy) :
    Except Failure VerifiedPath → SearchProgress → Prop where
  | rejected {e : Failure} (hleaf : search.checkLeaf leafRules = .error e)
      (text : String) :
      Ends search leafRules (.error e) (SearchProgress.start.note .info text)
  | aborted {e : Failure} {p : SearchProgress}
      (hleaf : search.checkLeaf leafRules = .ok ())
      (hsearch : search.exploreAll .start = (.aborted e, p)) :
        Ends search leafRules (.error e) p
  | found {v : VerifiedPath} {p : SearchProgress}
      (hleaf : search.checkLeaf leafRules = .ok ())
      (hsearch : search.exploreAll .start = (.found v, p)) (text : String) :
      Ends search leafRules (.ok v) (p.note .info text)
  | exhausted {e : Failure} {p : SearchProgress}
      (hleaf : search.checkLeaf leafRules = .ok ())
      (hsearch : search.exploreAll .start = (.exhausted, p))
      (hdeepest : (∃ f, PathFailure.deepest? p.failures = some f ∧
        e = f.failure) ∨ PathFailure.deepest? p.failures = none ∧
        e = noIssuer search.leaf) (text : String) :
      Ends search leafRules (.error e) (p.note .info text)

theorem run_ends (search : PathSearch) (leafRules : ExtensionPolicy) :
    search.Ends leafRules (search.run leafRules).1
      (search.run leafRules).2 := by
  rw [run]
  split
  next e hleaf => exact .rejected hleaf _
  next hleaf =>
    split
    next e q haborted => exact .aborted hleaf haborted
    next w q hfound => exact .found hleaf hfound _
    next q hexhausted =>
      refine .exhausted hleaf hexhausted ?_ _
      cases hdeepest : PathFailure.deepest? q.failures with
      | none => exact Or.inr ⟨rfl, rfl⟩
      | some f => exact Or.inl ⟨f, rfl, rfl⟩

theorem ends_of_run_eq {result : Except Failure VerifiedPath}
    {progress : SearchProgress}
    (hrun : search.run leafRules = (result, progress)) :
    search.Ends leafRules result progress := by
  have hends := search.run_ends leafRules
  rwa [hrun] at hends

theorem run_of_checkLeaf_error {e : Failure}
    (hleaf : search.checkLeaf leafRules = .error e) :
    (search.run leafRules).1 = .error e := by
  rw [run, hleaf]

theorem run_of_deepest? {p : SearchProgress} {f : PathFailure}
    (hleaf : search.checkLeaf leafRules = .ok ())
    (hsearch : search.exploreAll .start = (.exhausted, p))
    (hdeepest : PathFailure.deepest? p.failures = some f) :
    (search.run leafRules).1 = .error f.failure := by
  rw [run, hleaf]
  dsimp only
  rw [hsearch]
  dsimp only
  rw [hdeepest]

/-- A run that answers a path has accepted the leaf, and the search has found
the path. -/
theorem run_found {progress : SearchProgress}
    (hrun : search.run leafRules = (.ok v, progress)) :
    search.checkLeaf leafRules = .ok () ∧
      ∃ q text, search.exploreAll .start = (.found v, q) ∧
        progress = q.note .info text := by
  cases ends_of_run_eq hrun with
  | found hleaf hsearch text => exact ⟨hleaf, _, text, hsearch, rfl⟩

/-- A run that answers a path has accepted the leaf, and the path is valid. -/
theorem run_ok (hrun : (search.run leafRules).1 = .ok v) :
    search.checkLeaf leafRules = .ok () ∧ search.Valid search.pool v := by
  obtain ⟨hleaf, q, _, hfound, _⟩ := run_found (Prod.ext hrun rfl)
  exact ⟨hleaf, (search.completion_leaf_iff v).mp (explore_found hfound)⟩

/-- There is room for every certificate of the pool. -/
theorem length_unused_le (search : PathSearch) (path : Path) :
    (search.unused path).length ≤ search.pool.length :=
  List.length_filter_le _ _

/-- A run that fails after the leaf is accepted has used up a budget, or there
is no valid path. -/
theorem run_error {e : Failure} (hleaf : search.checkLeaf leafRules = .ok ())
    (hrun : (search.run leafRules).1 = .error e) :
    e.IsBudget ∨ ∀ v, ¬ search.Valid search.pool v := by
  rcases hresult : search.run leafRules with ⟨result, progress⟩
  rw [hresult] at hrun
  subst hrun
  cases ends_of_run_eq hresult with
  | rejected hrejected =>
      rw [hleaf] at hrejected
      cases hrejected
  | aborted _ hsearch => exact Or.inl (explore_aborted hsearch).isBudget
  | exhausted _ hsearch =>
      refine Or.inr fun v hvalid => ?_
      exact explore_exhausted (search.length_unused_le _) hsearch
        ((search.completion_leaf_iff v).mpr hvalid)

end TrustPath.PathSearch
