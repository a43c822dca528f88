import Mathlib.Data.List.Perm.Subperm
import TrustPath.Proofs.NumberedSearch
import TrustPath.Proofs.SearchInvariant
import TrustPath.Proofs.ValidPath

/-!
Where a search by numbers may stand. It is well placed with different numbers of
certificates on its path, the leaf's first, and the depth of the path; a number
whose certificate's encoding is not on the path may be pushed. What a search
records is that it was well placed in every call, and which path it visited.
-/

namespace TrustPath.PathSearch

variable {search : PathSearch} {numbers : List Nat} {number depth : Nat}
  {c : EncodedCertificate} {p : SearchProgress} {state : NumberedState}

/-! ### Where the search may stand -/

/-- The certificates with these numbers. -/
def numbered (search : PathSearch) (numbers : List Nat) :
    List EncodedCertificate :=
  numbers.filterMap (search.certificates[·]?)

/-- The path with these numbers, the first of which is the leaf's. -/
def pathAt (search : PathSearch) (numbers : List Nat) : Path :=
  ⟨search.leaf, search.numbered numbers.tail⟩

/-- The numbers are those of a path from the leaf over different certificates,
and the depth is how many of them above the leaf are not self-issued, as far as
it is counted. -/
structure WellPlaced (search : PathSearch) (numbers : List Nat) (depth : Nat) :
    Prop where
  from_leaf : numbers.head? = some 0
  in_range : ∀ number ∈ numbers, number < search.certificates.length
  distinct : numbers.Nodup
  depth_eq : depth = min (nonSelfIssued (search.numbered numbers.tail)) 255

theorem certificateAt_eq_ok_iff :
    search.certificateAt number = .ok c ↔
      search.certificates[number]? = some c := by
  rw [certificateAt]
  split
  next d hd => rw [hd, Except.ok.injEq, Option.some.injEq]
  next hnone => simp [hnone]

theorem numbered_cons (hnumber : search.certificateAt number = .ok c)
    (rest : List Nat) :
    search.numbered (number :: rest) = c :: search.numbered rest :=
  List.filterMap_cons_some (certificateAt_eq_ok_iff.mp hnumber)

theorem numbered_concat (hnumber : search.certificateAt number = .ok c)
    (before : List Nat) :
    search.numbered (before ++ [number]) = search.numbered before ++ [c] := by
  rw [numbered, List.filterMap_append, ← numbered, ← numbered,
    numbered_cons hnumber]
  rfl

theorem exists_certificateAt (hrange : number < search.certificates.length) :
    ∃ c, search.certificateAt number = .ok c :=
  ⟨_, certificateAt_eq_ok_iff.mpr (List.getElem?_eq_getElem hrange)⟩

theorem mapM_certificateAt
    (hrange : ∀ number ∈ numbers, number < search.certificates.length) :
    numbers.mapM search.certificateAt = .ok (search.numbered numbers) := by
  induction numbers with
  | nil => rfl
  | cons number rest ih =>
      obtain ⟨c, hc⟩ := exists_certificateAt (hrange number List.mem_cons_self)
      have hrest := ih fun other hother =>
        hrange other (List.mem_cons_of_mem number hother)
      rw [List.mapM_cons, hc, hrest, numbered_cons hc]
      rfl

namespace WellPlaced

theorem start (search : PathSearch) : search.WellPlaced [0] 0 where
  from_leaf := rfl
  in_range := by simp [certificates]
  distinct := List.nodup_singleton 0
  depth_eq := rfl

theorem eq_cons (hplaced : search.WellPlaced numbers depth) :
    numbers = 0 :: numbers.tail := by
  obtain ⟨rest, hrest⟩ := List.head?_eq_some_iff.mp hplaced.from_leaf
  rw [hrest, List.tail_cons]

theorem certificates_pathAt (hplaced : search.WellPlaced numbers depth) :
    (search.pathAt numbers).certificates = search.numbered numbers := by
  rw [hplaced.eq_cons, numbered_cons (c := search.leaf) rfl]
  rfl

theorem readPath_eq (hplaced : search.WellPlaced numbers depth) :
    search.readPath numbers = .ok (search.pathAt numbers) := by
  rw [readPath, mapM_certificateAt hplaced.in_range,
    ← hplaced.certificates_pathAt]
  rfl

/-- There are no more numbers on the path than certificates. -/
theorem length_le (hplaced : search.WellPlaced numbers depth) :
    numbers.length ≤ search.certificates.length := by
  have hsub : numbers ⊆ List.range search.certificates.length :=
    fun number hnumber => List.mem_range.mpr (hplaced.in_range number hnumber)
  simpa using (hplaced.distinct.subperm hsub).length_le

theorem pathAt_concat (hplaced : search.WellPlaced numbers depth)
    (hnumber : search.certificateAt number = .ok c) :
    search.pathAt (numbers ++ [number]) = (search.pathAt numbers).push c := by
  rw [hplaced.eq_cons, List.cons_append, pathAt, List.tail_cons,
    numbered_concat hnumber]
  rfl

/-- A certificate whose encoding is not on the path has a number that is not:
what is on the path has an encoding on it. -/
theorem push (hplaced : search.WellPlaced numbers depth)
    (hnumber : search.certificateAt number = .ok c)
    (hfresh : (search.pathAt numbers).has c = false) :
    search.WellPlaced (numbers ++ [number]) (depthAbove c depth) where
  from_leaf := by
    rw [hplaced.eq_cons]
    rfl
  in_range := by
    intro other hother
    rcases List.mem_append.mp hother with hold | hnew
    · exact hplaced.in_range other hold
    · rw [List.mem_singleton.mp hnew]
      exact (List.getElem?_eq_some_iff.mp
        (certificateAt_eq_ok_iff.mp hnumber)).1
  distinct := by
    rw [← List.concat_eq_append]
    refine hplaced.distinct.concat fun hmem => ?_
    have hon : c ∈ (search.pathAt numbers).certificates := by
      rw [hplaced.certificates_pathAt]
      exact List.mem_filterMap.mpr
        ⟨number, hmem, certificateAt_eq_ok_iff.mp hnumber⟩
    rw [Path.has_eq_false_iff] at hfresh
    exact hfresh (List.mem_map_of_mem hon)
  depth_eq := by
    have hdepth : depth = depthOf (search.pathAt numbers).intermediates :=
      hplaced.depth_eq
    rw [hdepth, ← depthOf_concat, ← Path.intermediates_push,
      ← hplaced.pathAt_concat hnumber]
    rfl

end WellPlaced

/-! ### What is recorded -/

/-- Every call so far was well placed, and the visits recorded are of the paths
of the calls. -/
structure Recorded (search : PathSearch) (state : NumberedState) : Prop where
  placed : ∀ call ∈ state.calls, search.WellPlaced call.numbers call.depth
  visits_eq : state.calls.map
    (fun call => (search.readPath call.numbers, call.depth)) =
    state.progress.visits.map fun visit => (.ok visit.path, visit.depth)

theorem Recorded.of_eq {other : NumberedState}
    (hrecorded : search.Recorded state)
    (hcalls : other.calls = state.calls)
    (hvisits : other.progress.visits = state.progress.visits) :
    search.Recorded other := by
  refine ⟨?_, ?_⟩
  · rw [hcalls]
    exact hrecorded.placed
  · rw [hcalls, hvisits]
    exact hrecorded.visits_eq

theorem Recorded.called (hrecorded : search.Recorded state)
    (hplaced : search.WellPlaced state.numbers depth)
    (hvisits : p.visits =
      (state.progress.visit (search.pathAt state.numbers) depth).visits) :
    search.Recorded (state.called depth p) := by
  refine ⟨?_, ?_⟩
  · intro call hcall
    rcases List.mem_cons.mp hcall with rfl | hcall
    · exact hplaced
    · exact hrecorded.placed call hcall
  · rw [NumberedState.called, hvisits, SearchProgress.visit, List.map_cons,
      List.map_cons, hplaced.readPath_eq, hrecorded.visits_eq]

/-- To try an anchor is no visit. -/
theorem attemptAnchor_visits (search : PathSearch) (path : Path)
    (anchor : TrustAnchor) : Relates (fun p q => q.visits = p.visits)
      (search.attemptAnchor path anchor) := by
  intro p
  rw [attemptAnchor]
  split
  next => rfl
  next q hcount =>
    obtain ⟨_, rfl⟩ := (countCandidate_eq_ok_iff search p q).mp hcount
    split
    next => rfl
    next hverify =>
      obtain ⟨_, _, rfl⟩ := verifySignature_eq_ok_iff.mp hverify
      rfl
    next hverify =>
      obtain ⟨_, _, rfl⟩ := verifySignature_eq_ok_iff.mp hverify
      split <;> rfl

theorem tryAnchors_visits (search : PathSearch) (path : Path)
    (anchors : List TrustAnchor) : Relates (fun p q => q.visits = p.visits)
      (tryEach (search.attemptAnchor path) anchors) := by
  refine tryEach_relates ?_ fun anchor _ =>
    search.attemptAnchor_visits path anchor
  exact { refl := fun _ => rfl, trans := fun _ _ _ hfirst hsecond =>
    hsecond.trans hfirst }

end TrustPath.PathSearch
