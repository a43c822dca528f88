import Mathlib.Data.Finset.Card
import TrustPath.Proofs.ChainFamily
import TrustPath.Proofs.NumberedPaths
import TrustPath.Proofs.Pool

/-!
The search by numbers is the search: in every call it looks at the path whose
numbers it has, tries the same anchors and intermediates in the same order, and
ends the same. A number pushed is one more of finitely many, so from wherever it
is well placed it ends, without a limit on the depth or a budget, and it looks
up no number that there is not.
-/

namespace TrustPath.PathSearch

variable {search : PathSearch} {descend : Nat → NumberedStep}
  {step : Path → Nat → SearchStep} {path : Path} {numbers : List Nat}
  {number depth : Nat} {c : EncodedCertificate}
  {p : SearchProgress} {state : NumberedState}

/-- All that looking at an intermediate can do: it is tried by that, or by the
search above it. -/
theorem examine_cases (search : PathSearch) (step : Path → Nat → SearchStep)
    (path : Path) (depth : Nat) (c : EncodedCertificate) (p : SearchProgress) :
    (∃ outcome q, search.examine path.top path depth c p = .ended outcome q ∧
      search.attemptIssuer step path depth c p = (outcome, q) ∧
        q.visits = p.visits) ∨
    ∃ q, search.examine path.top path depth c p =
      .goesOn (depthAbove c depth) q ∧
      search.attemptIssuer step path depth c p = step (path.push c)
      (depthAbove c depth) q ∧
        q.visits = p.visits := by
  rw [examine, attemptIssuer]
  cases hcount : search.countCandidate p with
  | error e => exact Or.inl ⟨_, _, rfl, rfl, rfl⟩
  | ok r =>
      obtain ⟨_, hcounted⟩ := (countCandidate_eq_ok_iff search p r).mp hcount
      have hvisits : r.visits = p.visits := by rw [hcounted]
      dsimp only
      cases hcheck : search.checkCandidate c depth with
      | error e => exact Or.inl ⟨_, _, rfl, rfl, hvisits⟩
      | ok above =>
          obtain rfl := ((search.checkCandidate_eq_ok_iff c depth above).mp
              hcheck).2
          dsimp only
          cases hverify : search.verifySignature path.top c.publicKey r with
          | error e => exact Or.inl ⟨_, _, rfl, rfl, hvisits⟩
          | ok checked =>
              obtain ⟨verdict, s⟩ := checked
              obtain ⟨_, _, rfl⟩ := verifySignature_eq_ok_iff.mp hverify
              cases verdict with
              | error e => exact Or.inl ⟨_, _, rfl, rfl, hvisits⟩
              | ok => exact Or.inr ⟨_, rfl, rfl, hvisits⟩

/-! ### One call -/

/-- From a state, a search by numbers has ended as a step of the search ends,
and has kept record. -/
structure Mirrors (search : PathSearch) (step : SearchStep)
    (state : NumberedState) (outcome : SearchOutcome) (after : NumberedState) :
    Prop where
  step_eq : step state.progress = (outcome, after.progress)
  recorded : search.Recorded state → search.Recorded after

/-- With one more number on the path, calls do what a step of the search does
above the path. -/
def MirrorsAbove (search : PathSearch) (descend : Nat → NumberedStep)
    (step : Path → Nat → SearchStep) (numbers : List Nat) : Prop :=
  ∀ number depth state, state.numbers = numbers ++ [number] →
    search.WellPlaced state.numbers depth →
    ∃ outcome after, descend depth state = .ok (outcome, after) ∧
      search.Mirrors (step (search.pathAt state.numbers) depth) state
      outcome after

/-- Whether a certificate is a possible issuer for a path. -/
def mayContinue (path : Path) (c : EncodedCertificate) : Bool :=
  c.subject.isMatch path.top.issuer && !path.has c

theorem issuersFor_eq (search : PathSearch) (path : Path) :
    search.issuersFor path = search.pool.filter (mayContinue path) := rfl

/-- The turn of any other number changes nothing. -/
theorem tryNumber_of_other (hplaced : search.WellPlaced state.numbers depth)
    (hpath : search.pathAt state.numbers = path)
    (hnumber : search.certificateAt number = .ok c)
    (hother : mayContinue path c = false) :
    search.tryNumber descend path.top depth number state =
      .ok (false, .exhausted, state) := by
  rw [mayContinue] at hother
  rw [tryNumber, hnumber, hplaced.readPath_eq, hpath]
  simp only [bind, Except.bind, hother, Bool.false_eq_true, if_false]
  rfl

/-- The turn of a possible issuer's number is the trial of the issuer. -/
theorem tryNumber_of_issuer
    (hdescend : search.MirrorsAbove descend step state.numbers)
    (hplaced : search.WellPlaced state.numbers depth)
    (hpath : search.pathAt state.numbers = path)
    (hnumber : search.certificateAt number = .ok c)
    (hissuer : mayContinue path c = true) : ∃ outcome after,
      search.tryNumber descend path.top depth number state =
        .ok (true, outcome, after) ∧
      search.Mirrors (search.attemptIssuer step path depth c) state outcome
        after := by
  have hfresh : (search.pathAt state.numbers).has c = false := by
    rw [hpath]
    simpa using (Bool.and_eq_true_iff.mp hissuer).2
  rw [mayContinue] at hissuer
  rw [tryNumber, hnumber, hplaced.readPath_eq, hpath]
  simp only [bind, Except.bind, hissuer, if_true]
  rcases search.examine_cases step path depth c state.progress with
    ⟨outcome, q, hexamined, htried, hvisits⟩ | ⟨q, hexamined, htried, hvisits⟩
  · rw [hexamined]
    exact ⟨outcome, _, rfl, htried, fun hrecorded =>
      hrecorded.of_eq rfl hvisits⟩
  · obtain ⟨outcome, inner, hinner, hmirrors⟩ :=
      hdescend number _ ({ state with progress := q }.push number) rfl
        (hplaced.push hnumber hfresh)
    have hrecords : search.Recorded state → search.Recorded inner :=
      fun hrecorded => hmirrors.recorded (hrecorded.of_eq rfl hvisits)
    have hpushed : search.pathAt (state.numbers ++ [number]) = path.push c := by
      rw [hplaced.pathAt_concat hnumber, hpath]
    have hstep : search.attemptIssuer step path depth c state.progress =
        (outcome, inner.progress) := by
      rw [htried, ← hpushed]
      exact hmirrors.step_eq
    rw [hexamined]
    simp only [hinner]
    cases outcome with
    | exhausted =>
        exact ⟨_, inner.pop, rfl, hstep, fun hrecorded =>
          (hrecords hrecorded).of_eq rfl rfl⟩
    | found => exact ⟨_, inner, rfl, hstep, hrecords⟩
    | aborted => exact ⟨_, inner, rfl, hstep, hrecords⟩

/-- Numbers in turn are the trials of the possible issuers among their
certificates: an exhausted turn leaves the path as it was for the next. -/
theorem tryNumbers_mirrors {tried : List Nat} {cs : List EncodedCertificate}
    (known : Bool) (hrestores : Restores descend)
    (hdescend : search.MirrorsAbove descend step numbers)
    (hplaced : search.WellPlaced numbers depth)
    (hpath : search.pathAt numbers = path) (hstate : state.numbers = numbers)
    (hcertificates : List.Forall₂ (fun n c => search.certificateAt n = .ok c)
      tried cs) :
    ∃ isKnown outcome after,
      search.tryNumbers descend path.top depth known tried state =
        .ok (isKnown, outcome, after) ∧
      search.Mirrors (tryEach (search.attemptIssuer step path depth)
        (cs.filter (mayContinue path)))
        state outcome after ∧
      (outcome = .exhausted →
        isKnown = (known || !(cs.filter (mayContinue path)).isEmpty)) := by
  induction hcertificates generalizing known state with
  | nil =>
      exact ⟨known, .exhausted, state, rfl, ⟨rfl, id⟩, fun _ =>
        (Bool.or_false known).symm⟩
  | @cons number c rest others hnumber _ ih =>
      subst hstate
      rw [tryNumbers]
      cases hissuer : mayContinue path c with
      | false =>
          obtain ⟨isKnown, outcome, after, hrun, hmirrors, hknown⟩ :=
            ih (known || false) rfl
          rw [Bool.or_false] at hknown
          rw [List.filter_cons_of_neg (by simp [hissuer])]
          refine ⟨isKnown, outcome, after, ?_, hmirrors, hknown⟩
          exact bind_eq_ok_iff.mpr
            ⟨_, tryNumber_of_other hplaced hpath hnumber hissuer, hrun⟩
      | true =>
          obtain ⟨first, next, hfirst, hmirrors⟩ :=
            tryNumber_of_issuer hdescend hplaced hpath hnumber hissuer
          rw [List.filter_cons_of_pos hissuer]
          cases first with
          | exhausted =>
              have hback : next.numbers = state.numbers :=
                hrestores.tryNumber hfirst
              obtain ⟨isKnown, outcome, after, hrun, hrest, hknown⟩ :=
                ih (known || true) hback
              refine ⟨isKnown, outcome, after,
                bind_eq_ok_iff.mpr ⟨_, hfirst, hrun⟩, ⟨?_, ?_⟩, ?_⟩
              · rw [tryEach, hmirrors.step_eq]
                exact hrest.step_eq
              · exact hrest.recorded ∘ hmirrors.recorded
              · intro hexhausted
                rw [hknown hexhausted, Bool.or_true, Bool.true_or,
                  List.isEmpty_cons, Bool.not_false, Bool.or_true]
          | found v =>
              refine ⟨_, _, next, bind_eq_ok_iff.mpr ⟨_, hfirst, rfl⟩,
                ⟨?_, hmirrors.recorded⟩, ?_⟩
              · rw [tryEach, hmirrors.step_eq]
              · intro hexhausted
                cases hexhausted
          | aborted e =>
              refine ⟨_, _, next, bind_eq_ok_iff.mpr ⟨_, hfirst, rfl⟩,
                ⟨?_, hmirrors.recorded⟩, ?_⟩
              · rw [tryEach, hmirrors.step_eq]
              · intro hexhausted
                cases hexhausted

/-- The pool has the numbers from 1. -/
theorem certificateAt_pool (search : PathSearch) :
    List.Forall₂ (fun n c => search.certificateAt n = .ok c)
      (List.range' 1 search.pool.length)
      search.pool := by
  rw [List.forall₂_iff_get]
  refine ⟨List.length_range', fun i hrange hpool => ?_⟩
  rw [certificateAt_eq_ok_iff]
  simp [certificates, Nat.add_comm 1]

/-- After the anchors, the visit of a path is over as the trial of its possible
issuers is. -/
theorem visit_eq_of_ended {p q r : SearchProgress} {outcome : SearchOutcome}
    (hanchors : tryEach (search.attemptAnchor path) (search.anchorsFor path)
      (p.visit path depth) = (.exhausted, q))
    (hissuers : tryEach (search.attemptIssuer step path depth)
      (search.issuersFor path) q = (outcome, r))
    (hended : outcome ≠ .exhausted) :
    search.visit step path depth p = (outcome, r) := by
  rw [visit, hanchors]
  dsimp only
  rw [hissuers]
  cases outcome with
  | found v => rfl
  | aborted e => rfl
  | exhausted => exact absurd rfl hended

/-- If nobody is left to try, it is recorded whether there was anybody. -/
theorem visit_eq_of_exhausted {p q r : SearchProgress}
    (hanchors : tryEach (search.attemptAnchor path) (search.anchorsFor path)
      (p.visit path depth) = (.exhausted, q))
    (hissuers : tryEach (search.attemptIssuer step path depth)
      (search.issuersFor path) q = (.exhausted, r)) :
    search.visit step path depth p =
      (.exhausted,
        if (search.anchorsFor path).isEmpty &&
          (search.issuersFor path).isEmpty then
          r.fail path (noIssuer path.top)
        else r) := by
  rw [visit, hanchors]
  dsimp only
  rw [hissuers]

/-- A call is the visit of the path with its numbers. -/
theorem visitByNumber_mirrors (hrestores : Restores descend)
    (hdescend : search.MirrorsAbove descend step state.numbers)
    (hplaced : search.WellPlaced state.numbers depth)
    (hpath : search.pathAt state.numbers = path) :
    ∃ outcome after, search.visitByNumber descend depth state =
      .ok (outcome, after) ∧
      search.Mirrors (search.visit step path depth) state outcome after := by
  have hread : search.readPath state.numbers = .ok path := by
    rw [hplaced.readPath_eq, hpath]
  rcases hanchors : tryEach (search.attemptAnchor path) (search.anchorsFor path)
    (state.progress.visit path depth) with ⟨first, p⟩
  have hvisits := search.tryAnchors_visits path (search.anchorsFor path)
    (state.progress.visit path depth)
  rw [hanchors, ← hpath] at hvisits
  have hcalled : search.Recorded state →
      search.Recorded (state.called depth p) :=
    fun hrecorded => hrecorded.called hplaced hvisits
  rw [visitByNumber, hread]
  simp only [bind, Except.bind, hanchors]
  cases first with
  | found v =>
      refine ⟨_, _, rfl, ?_, hcalled⟩
      rw [visit, hanchors]
      rfl
  | aborted e =>
      refine ⟨_, _, rfl, ?_, hcalled⟩
      rw [visit, hanchors]
      rfl
  | exhausted =>
      have hnumbers : (state.called depth p).numbers = state.numbers := rfl
      obtain ⟨isKnown, outcome, after, hrun, hmirrors, hknown⟩ :=
        tryNumbers_mirrors (!(search.anchorsFor path).isEmpty) hrestores
          hdescend hplaced hpath hnumbers
          search.certificateAt_pool
      have hissuers := hmirrors.step_eq
      rw [← issuersFor_eq] at hissuers hknown
      have hrecords := hmirrors.recorded ∘ hcalled
      simp only [hrun]
      cases outcome with
      | found v =>
          exact ⟨_, _, rfl, visit_eq_of_ended hanchors hissuers (by simp),
            hrecords⟩
      | aborted e =>
          exact ⟨_, _, rfl, visit_eq_of_ended hanchors hissuers (by simp),
            hrecords⟩
      | exhausted =>
          have hvisit := visit_eq_of_exhausted hanchors hissuers
          have hback := (hrestores.tryNumbers hrun).trans hnumbers
          have hunknown : ((search.anchorsFor path).isEmpty &&
              (search.issuersFor path).isEmpty) = !isKnown := by
            rw [hknown rfl, Bool.not_or, Bool.not_not, Bool.not_not]
          rw [hunknown] at hvisit
          cases isKnown with
          | true => exact ⟨_, after, rfl, hvisit, hrecords⟩
          | false =>
              simp only [Bool.false_eq_true, if_false, hback, hread]
              exact ⟨_, _, rfl, hvisit, fun hrecorded =>
                (hrecords hrecorded).of_eq rfl rfl⟩

/-- With a call for every certificate that is not on the path, and one more, the
search by numbers is the search. What runs out is not the room: with one more
number on the path there is one certificate less that is not. -/
theorem searchByNumber_mirrors {room : Nat}
    (hplaced : search.WellPlaced state.numbers depth)
    (hroom : search.certificates.length ≤ room + state.numbers.length) :
    ∃ outcome after, search.searchByNumber (room + 1) depth state =
      .ok (outcome, after) ∧
      search.Mirrors (search.explore room (search.pathAt state.numbers) depth)
      state outcome after := by
  induction room generalizing state depth with
  | zero =>
      refine visitByNumber_mirrors (search.restores_searchByNumber 0) ?_
        hplaced rfl
      intro number above inner hinner hpushed
      have hlength := hpushed.length_le
      rw [hinner, List.length_append, List.length_singleton] at hlength
      omega
  | succ room ih =>
      refine visitByNumber_mirrors (search.restores_searchByNumber (room + 1))
        ?_ hplaced rfl
      intro number above inner hinner hpushed
      refine ih hpushed ?_
      rw [hinner, List.length_append, List.length_singleton]
      omega

/-! ### The whole search -/

/-- From wherever it is well placed, the search by numbers ends. -/
theorem exists_searchByNumber {nesting : Nat}
    (hplaced : search.WellPlaced state.numbers depth)
    (hdeep : search.certificates.length < nesting + state.numbers.length) :
    ∃ outcome after, search.searchByNumber nesting depth state =
      .ok (outcome, after) := by
  have hlength := hplaced.length_le
  obtain ⟨room, rfl⟩ : ∃ room, nesting = room + 1 := ⟨nesting - 1, by omega⟩
  have hroom : search.certificates.length ≤ room + state.numbers.length := by
    omega
  obtain ⟨outcome, after, hrun, _⟩ := searchByNumber_mirrors hplaced hroom
  exact ⟨outcome, after, hrun⟩

/-- With as many calls within one another as there are certificates, or more,
the search by numbers is the search from the leaf. -/
theorem searchByNumber_start (search : PathSearch) :
    ∃ last, (∀ nesting, search.certificates.length ≤ nesting →
        search.searchByNumber nesting 0 .start =
          .ok ((search.exploreAll .start).1, last)) ∧
      last.progress = (search.exploreAll .start).2 ∧ search.Recorded last := by
  have hroom : search.certificates.length ≤
      search.pool.length + NumberedState.start.numbers.length := Nat.le_refl _
  obtain ⟨outcome, last, hrun, hmirrors⟩ :=
    searchByNumber_mirrors (WellPlaced.start search) hroom
  have hwhole : search.exploreAll .start = (outcome, last.progress) :=
    hmirrors.step_eq
  rw [hwhole]
  refine ⟨last, fun nesting hnesting => ?_, rfl, hmirrors.recorded ⟨nofun, rfl⟩⟩
  exact search.endsAlike_searchByNumber hnesting _ _ _ hrun

variable {environment : SignatureEnvironment} {policy : Policy}
  {rules : ExtensionPolicy} {store : TrustStore} {leaf : EncodedCertificate}
  {intermediates : List EncodedCertificate}

/-- There are as many numbers as certificates supplied with different
encodings. -/
theorem length_certificates :
    (ofIntermediates environment policy rules store leaf
      intermediates).certificates.length =
      ((leaf :: intermediates).map (·.encoding)).toFinset.card := by
  have hnodup : ((leaf :: fresh [leaf.encoding] intermediates).map
      (·.encoding)).Nodup := by
    rw [List.map_cons, List.nodup_cons]
    refine ⟨fun hmem => ?_, nodup_encodings_fresh _ _⟩
    obtain ⟨c, hc, hencoding⟩ := List.mem_map.mp hmem
    exact not_mem_seen_of_mem_fresh hc (List.mem_singleton.mpr hencoding)
  have hsame : ((leaf :: intermediates).map (·.encoding)).toFinset =
      ((leaf :: fresh [leaf.encoding] intermediates).map
        (·.encoding)).toFinset := by
    ext encoding
    have hencodings :=
      mem_encodings_fresh_iff [leaf.encoding] intermediates encoding
    rw [List.mem_singleton] at hencodings
    rw [List.mem_toFinset, List.mem_toFinset, List.map_cons, List.map_cons,
      List.mem_cons, List.mem_cons]
    exact hencodings.symm
  rw [hsame, List.toFinset_card_of_nodup hnodup, List.length_map]
  rfl

/-- From the leaf, the search in place ends as the search does, however many
calls may stand within one another so long as there may be as many as different
certificates; every call on the way is well placed. From wherever it is well
placed it ends, and where that is exhausted, the path is as it was. -/
theorem search_ends_in_range (environment : SignatureEnvironment)
    (policy : Policy) (rules : ExtensionPolicy) (store : TrustStore)
    (leaf : EncodedCertificate) (intermediates : List EncodedCertificate) :
    let search := ofIntermediates environment policy rules store leaf
        intermediates
    let distinct := ((leaf :: intermediates).map (·.encoding)).toFinset.card
    (∃ last,
      (∀ nesting, distinct ≤ nesting →
        search.searchByNumber nesting 0 .start =
          .ok ((search.exploreAll .start).1, last)) ∧
      last.progress = (search.exploreAll .start).2 ∧
      (∀ call ∈ last.calls,
        search.WellPlaced call.numbers call.depth ∧
        call.numbers.length ≤ distinct) ∧
      last.calls.map (fun call => (search.readPath call.numbers, call.depth)) =
        last.progress.visits.map fun visit => (.ok visit.path, visit.depth)) ∧
    (∀ nesting depth state, search.WellPlaced state.numbers depth →
      distinct < nesting + state.numbers.length →
      ∃ outcome after,
        search.searchByNumber nesting depth state = .ok (outcome, after)) ∧
    ∀ nesting depth state after,
      search.searchByNumber nesting depth state = .ok (.exhausted, after) →
      after.numbers = state.numbers := by
  intro search distinct
  have hdistinct : search.certificates.length = distinct := length_certificates
  rw [← hdistinct]
  refine ⟨?_, fun _ _ _ => exists_searchByNumber,
    search.restores_searchByNumber⟩
  obtain ⟨last, hrun, hprogress, hrecorded⟩ := search.searchByNumber_start
  refine ⟨last, hrun, hprogress, fun call hcall => ?_, hrecorded.visits_eq⟩
  have hplaced := hrecorded.placed call hcall
  exact ⟨hplaced, hplaced.length_le⟩

open ChainFamily in
/-- Two self-issued authorities with one name, one of them supplied twice. -/
def ring : List EncodedCertificate :=
  [authorityWith 1 (name 0) (name 0), authorityWith 2 (name 0) (name 0),
    authorityWith 1 (name 0) (name 0)]

open ChainFamily in
/-- No intermediate is allowed that is not self-issued, which stops no search
over the ring. -/
def ringPolicy : Policy :=
  (verifier 0 none .clientAuth).policy

open ChainFamily in
/-- A search over the ring ends after five calls, at most three within one
another, and the call with the first authority on the path comes back to it. -/
theorem ring_search_ends :
    let search := ofIntermediates ⟨[acceptAll]⟩ ringPolicy .permitAll ⟨[anchor]⟩
      (ChainFamily.leaf 1) ring
    (∃ last, search.searchByNumber 3 0 .start = .ok (.exhausted, last) ∧
      last.calls = [⟨[0, 2, 1], 0⟩, ⟨[0, 2], 0⟩, ⟨[0, 1, 2], 0⟩, ⟨[0, 1], 0⟩,
        ⟨[0], 0⟩]) ∧
    search.WellPlaced [0, 1] 0 ∧
      ∃ after, search.searchByNumber 2 0 ⟨[0, 1], [], .start⟩ =
        .ok (.exhausted, after) ∧ after.numbers = [0, 1] := by
  intro search
  obtain ⟨⟨last, hrun, _⟩, hcalls, hrestores⟩ :=
    search_ends_in_range ⟨[acceptAll]⟩ ringPolicy .permitAll ⟨[anchor]⟩
      (ChainFamily.leaf 1) ring
  have hdistinct : ((ChainFamily.leaf 1 :: ring).map
      (·.encoding)).toFinset.card = 3 := by decide +kernel
  have hplaced : search.WellPlaced [0, 1] 0 :=
    ⟨rfl, by decide +kernel, by decide, by decide +kernel⟩
  rw [hdistinct] at hrun hcalls
  obtain ⟨outcome, after, hcall⟩ :=
    hcalls 2 0 ⟨[0, 1], [], .start⟩ hplaced (by decide)
  have hcomesBack : (search.searchByNumber 2 0
      ⟨[0, 1], [], .start⟩).toOption.map (·.1) =
      some .exhausted := by decide +kernel
  have htraced : (search.searchByNumber 3 0 .start).toOption.map
      (fun run => (run.1, run.2.calls)) =
      some (.exhausted, [⟨[0, 2, 1], 0⟩, ⟨[0, 2], 0⟩, ⟨[0, 1, 2], 0⟩,
        ⟨[0, 1], 0⟩, ⟨[0], 0⟩]) := by
    decide +kernel
  rw [hcall] at hcomesBack
  rw [hrun 3 (Nat.le_refl 3)] at htraced
  obtain ⟨hexhausted, htrace⟩ := Prod.mk.inj (Option.some.inj htraced)
  cases hcomesBack
  refine ⟨⟨last, ?_, htrace⟩, hplaced, after, hcall,
    hrestores 2 0 _ after hcall⟩
  rw [hrun 3 (Nat.le_refl 3), hexhausted]

end TrustPath.PathSearch
