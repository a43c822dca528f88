import TrustPath.Proofs.Completion
import TrustPath.Proofs.Findings

/-!
What a search leaves behind when it comes to nothing. The walk over all paths
that can be reached is written as lists: the paths in the order in which they
are visited, and their refusals in the order in which they arise. An exhausted
search has left just these two lists, so it has recorded every refusal of the
paths that it has visited and nothing else, and no path that it has visited is
longer than all failures.
-/

namespace TrustPath

/-- Between two moments of a search these paths were visited and these failures
recorded, in this order. -/
structure SearchProgress.Leaves (p : SearchProgress) (visits : List PathVisit)
    (failures : List PathFailure) (q : SearchProgress) : Prop where
  visits : q.visits = visits.reverse ++ p.visits
  failures : q.failures = failures.reverse ++ p.failures

theorem SearchProgress.Leaves.refl (p : SearchProgress) : p.Leaves [] [] p :=
  ⟨rfl, rfl⟩

theorem SearchProgress.Leaves.trans {p q r : SearchProgress}
    {visits visits' : List PathVisit} {failures failures' : List PathFailure}
    (hfirst : p.Leaves visits failures q)
    (hsecond : q.Leaves visits' failures' r) :
    p.Leaves (visits ++ visits') (failures ++ failures') r where
  visits := by
    rw [hsecond.visits, hfirst.visits, List.reverse_append, List.append_assoc]
  failures := by
    rw [hsecond.failures, hfirst.failures, List.reverse_append,
      List.append_assoc]

/-- Alternatives that are all tried in vain leave what each of them leaves. -/
theorem tryEach_leaves {α : Type} {attempt : α → SearchStep}
    {visits : α → List PathVisit} {failures : α → List PathFailure}
    {xs : List α} {p q : SearchProgress}
    (hone : ∀ a ∈ xs, ∀ {r s : SearchProgress}, attempt a r = (.exhausted, s) →
      r.Leaves (visits a) (failures a) s)
    (hrun : tryEach attempt xs p = (.exhausted, q)) :
    p.Leaves (xs.flatMap visits) (xs.flatMap failures) q := by
  induction xs generalizing p with
  | nil =>
      cases hrun
      exact .refl _
  | cons a rest ih =>
      rw [tryEach] at hrun
      split at hrun
      next r hfirst =>
        rw [List.flatMap_cons, List.flatMap_cons]
        exact (hone a List.mem_cons_self hfirst).trans
          (ih (fun b hb => hone b (List.mem_cons_of_mem a hb)) hrun)
      next hother => exact absurd hrun (hother q)

namespace PathSearch

variable {search : PathSearch} {path : Path} {depth room : Nat}
  {p q : SearchProgress}

/-! ### Verdicts -/

/-- Whether an anchor closes a path, or why it does not. -/
def anchorVerdict (search : PathSearch) (path : Path) (anchor : TrustAnchor) :
    Except Failure Unit := do
  (search.verifies path.top anchor.publicKey).value.mapError
    (unverified path.top)
  search.checkWholePath path anchor

/-- The depth above an intermediate that continues a path, or why it does
not. -/
def issuerVerdict (search : PathSearch) (path : Path) (depth : Nat)
    (c : EncodedCertificate) : Except Failure Nat := do
  let above ← search.checkCandidate c depth
  (search.verifies path.top c.publicKey).value.mapError (unverified path.top)
  return above

theorem anchorVerdict_eq_ok_iff {anchor : TrustAnchor} :
    search.anchorVerdict path anchor = .ok () ↔ search.Closes path anchor := by
  rw [anchorVerdict, check_bind_eq_ok_iff, mapError_eq_ok_iff, Closes]

theorem issuerVerdict_eq_ok_iff {c : EncodedCertificate} {above : Nat} :
    search.issuerVerdict path depth c = .ok above ↔
      search.Continues path depth c above := by
  rw [issuerVerdict, bind_eq_ok_iff, Continues]
  constructor
  · rintro ⟨value, hcheck, hverdict⟩
    obtain ⟨hverifies, hvalue⟩ := check_bind_eq_ok_iff.mp hverdict
    cases hvalue
    exact ⟨hcheck, mapError_eq_ok_iff.mp hverifies⟩
  · rintro ⟨hcheck, hverifies⟩
    exact ⟨above, hcheck,
      check_bind_eq_ok_iff.mpr ⟨mapError_eq_ok_iff.mpr hverifies, rfl⟩⟩

theorem findsOnly_anchorVerdict (search : PathSearch) (path : Path)
    (anchor : TrustAnchor) : FindsOnly (search.anchorVerdict path anchor) :=
  (search.findsOnly_signatureVerdict _ _).bind fun _ =>
    search.findsOnly_checkWholePath path anchor

theorem findsOnly_issuerVerdict (search : PathSearch) (path : Path)
    (depth : Nat) (c : EncodedCertificate) :
    FindsOnly (search.issuerVerdict path depth c) :=
  (search.judgesOnly_checkCandidate c depth).findsOnly.bind fun above =>
    (search.findsOnly_signatureVerdict _ _).bind fun _ => failsOnly_ok above

/-! ### The walk over everything that can be reached -/

/-- A walk from a path: what the path itself gives, and then what each
intermediate gives in turn, one that is refused and one that continues the
path. -/
def walkFrom {α : Type} (search : PathSearch) (own : PathVisit → List α)
    (refused : PathVisit → Failure → List α) (above : PathVisit → List α)
    (visit : PathVisit) : List α :=
  own visit ++ (search.issuersFor visit.path).flatMap fun c =>
    match search.issuerVerdict visit.path visit.depth c with
    | .ok depth => above ⟨visit.path.push c, depth⟩
    | .error e => refused visit e

/-- A walk that goes on by at most `room` intermediates. -/
def walk {α : Type} (search : PathSearch) (own : PathVisit → List α)
    (refused : PathVisit → Failure → List α) : (room : Nat) → PathVisit → List α
  | 0 => search.walkFrom own refused fun _ => []
  | room + 1 => search.walkFrom own refused (search.walk own refused room)

/-- The failure of a path that comes of a verdict on an alternative. -/
def refusal {α : Type} (path : Path) : Except Failure α → List PathFailure
  | .ok _ => []
  | .error e => [⟨path.length, e⟩]

/-- The failures of a path that are not of an intermediate. -/
def ownRefusals (search : PathSearch) (visit : PathVisit) : List PathFailure :=
  ((search.anchorsFor visit.path).flatMap fun anchor =>
    refusal visit.path (search.anchorVerdict visit.path anchor)) ++
  if (search.anchorsFor visit.path).isEmpty &&
    (search.issuersFor visit.path).isEmpty then
    [⟨visit.path.length, noIssuer visit.path.top⟩]
  else []

/-- The paths that can be reached from a path, in the order of the search. -/
def reached (search : PathSearch) : (room : Nat) → PathVisit → List PathVisit :=
  search.walk (fun visit => [visit]) fun _ _ => []

/-- The failures of the paths that can be reached from a path, in the order of
the search. -/
def refusals (search : PathSearch) : (room : Nat) → PathVisit →
      List PathFailure :=
  search.walk search.ownRefusals fun visit e => [⟨visit.path.length, e⟩]

/-! ### What an exhausted search leaves -/

/-- To count a candidate and to check a signature with its key leaves
nothing. -/
theorem leaves_of_check {r : SearchProgress} {c : EncodedCertificate}
    {key : PublicKey} {verdict : Except Failure Unit}
    (hcount : search.countCandidate p = .ok r)
    (hverify : search.verifySignature c key r = .ok (verdict, q)) :
    verdict = (search.verifies c key).value.mapError (unverified c) ∧
      p.Leaves [] [] q := by
  obtain ⟨_, rfl⟩ := (countCandidate_eq_ok_iff search p r).mp hcount
  obtain ⟨_, hverdict, rfl⟩ := verifySignature_eq_ok_iff.mp hverify
  exact ⟨hverdict, rfl, rfl⟩

/-- A failure that is recorded is left behind. -/
theorem leaves_fail (hnothing : p.Leaves [] [] q) (level : LogLevel)
    (text : String) (path : Path) (e : Failure) : p.Leaves [] [⟨path.length, e⟩]
      ((q.note level text).fail path e) where
  visits := hnothing.visits
  failures := congrArg (_ :: ·) hnothing.failures

/-- An anchor that is tried in vain leaves its refusal. -/
theorem attemptAnchor_leaves {anchor : TrustAnchor}
    (hrun : search.attemptAnchor path anchor p = (.exhausted, q)) :
    p.Leaves [] (refusal path (search.anchorVerdict path anchor)) q := by
  rw [attemptAnchor] at hrun
  split at hrun
  next => cases hrun
  next r hcount =>
    split at hrun
    next => cases hrun
    next e s hverify =>
      cases hrun
      obtain ⟨hverdict, hnothing⟩ := leaves_of_check hcount hverify
      rw [anchorVerdict, ← hverdict]
      exact leaves_fail hnothing _ _ path e
    next s hverify =>
      obtain ⟨hverdict, hnothing⟩ := leaves_of_check hcount hverify
      split at hrun
      next => cases hrun
      next e hwhole =>
        cases hrun
        have hrefused : search.anchorVerdict path anchor = .error e := by
          rw [anchorVerdict, ← hverdict]
          exact hwhole
        rw [hrefused]
        exact leaves_fail hnothing _ _ path e

/-- An intermediate that is tried in vain leaves its refusal, or what the search
above it leaves. -/
theorem attemptIssuer_leaves {descend : Path → Nat → SearchStep}
    {c : EncodedCertificate} {visits : PathVisit → List PathVisit}
    {failures : PathVisit → List PathFailure}
    (hdescend : ∀ {depth : Nat} {r s : SearchProgress},
      descend (path.push c) depth r = (.exhausted, s) →
        r.Leaves (visits ⟨path.push c, depth⟩)
        (failures ⟨path.push c, depth⟩) s)
    (hrun : search.attemptIssuer descend path depth c p = (.exhausted, q)) :
    p.Leaves
      (match search.issuerVerdict path depth c with
        | .ok above => visits ⟨path.push c, above⟩
        | .error _ => [])
      (match search.issuerVerdict path depth c with
        | .ok above => failures ⟨path.push c, above⟩
        | .error e => [⟨path.length, e⟩]) q := by
  rw [attemptIssuer] at hrun
  split at hrun
  next => cases hrun
  next r hcount =>
    split at hrun
    next e hcheck =>
      cases hrun
      obtain ⟨_, hcounted⟩ := (countCandidate_eq_ok_iff search p r).mp hcount
      have hnothing : p.Leaves [] [] r := by
        rw [hcounted]
        exact ⟨rfl, rfl⟩
      rw [issuerVerdict, hcheck]
      exact leaves_fail hnothing _ _ path e
    next above hcheck =>
      split at hrun
      next => cases hrun
      next e s hverify =>
        cases hrun
        obtain ⟨hverdict, hnothing⟩ := leaves_of_check hcount hverify
        rw [issuerVerdict, hcheck, ← hverdict]
        exact leaves_fail hnothing _ _ path e
      next s hverify =>
        obtain ⟨hverdict, hnothing⟩ := leaves_of_check hcount hverify
        rw [issuerVerdict, hcheck, ← hverdict]
        exact hnothing.trans (hdescend hrun)

/-- An exhausted visit leaves one step of the walk, if what it descends to
leaves the rest. -/
theorem visit_leaves {descend : Path → Nat → SearchStep}
    {visits : PathVisit → List PathVisit}
    {failures : PathVisit → List PathFailure}
    (hdescend : ∀ {path : Path} {depth : Nat} {r s : SearchProgress},
      descend path depth r = (.exhausted, s) →
        r.Leaves (visits ⟨path, depth⟩) (failures ⟨path, depth⟩) s)
    (hrun : search.visit descend path depth p = (.exhausted, q)) :
    p.Leaves
      (search.walkFrom (fun visit => [visit]) (fun _ _ => []) visits
        ⟨path, depth⟩)
      (search.walkFrom search.ownRefusals
        (fun visit e => [⟨visit.path.length, e⟩]) failures
        ⟨path, depth⟩) q := by
  have harrive : p.Leaves [⟨path, depth⟩] [] (p.visit path depth) := ⟨rfl, rfl⟩
  rw [visit] at hrun
  split at hrun
  next r hanchors =>
    have hrefusals : (p.visit path depth).Leaves
        ((search.anchorsFor path).flatMap fun _ => [])
        ((search.anchorsFor path).flatMap fun anchor =>
          refusal path (search.anchorVerdict path anchor)) r :=
      tryEach_leaves (fun _ _ _ _ hattempt => attemptAnchor_leaves hattempt)
        hanchors
    rw [List.flatMap_eq_nil_iff.mpr fun _ _ => rfl] at hrefusals
    split at hrun
    next s hissuers =>
      have habove := (harrive.trans hrefusals).trans
        (tryEach_leaves (fun _ _ _ _ hattempt =>
          attemptIssuer_leaves hdescend hattempt) hissuers)
      rw [walkFrom, walkFrom, ownRefusals]
      cases hrun
      split
      next hnone =>
        -- no intermediate comes after the failure
        rw [Bool.and_eq_true, List.isEmpty_iff, List.isEmpty_iff] at hnone
        rw [hnone.1, hnone.2] at habove ⊢
        exact ⟨habove.visits, congrArg (_ :: ·) habove.failures⟩
      next =>
        rw [List.append_nil]
        exact habove
    next hother => exact absurd hrun (hother q)
  next hother => exact absurd hrun (hother q)

/-- An exhausted search leaves the whole walk. -/
theorem explore_leaves
    (hrun : search.explore room path depth p = (.exhausted, q)) :
    p.Leaves (search.reached room ⟨path, depth⟩)
      (search.refusals room ⟨path, depth⟩) q := by
  induction room generalizing path depth p q with
  | zero =>
      rw [reached, refusals, walk, walk]
      refine visit_leaves (fun hnothing => ?_) hrun
      cases hnothing
      exact .refl _
  | succ room ih => exact visit_leaves ih hrun

/-! ### What is on the walk -/

section

variable {α : Type} {own : PathVisit → List α}
  {refused : PathVisit → Failure → List α}
  {above : PathVisit → List α} {visit other : PathVisit} {x : α}

/-- What a path on a walk gives before the walk goes on above it. -/
def Gives (search : PathSearch) (own : PathVisit → List α)
    (refused : PathVisit → Failure → List α)
    (visit : PathVisit) (x : α) : Prop :=
  x ∈ own visit ∨ ∃ c ∈ search.issuersFor visit.path, ∃ e,
    search.issuerVerdict visit.path visit.depth c = .error e ∧
    x ∈ refused visit e

theorem mem_walkFrom_iff :
    x ∈ search.walkFrom own refused above visit ↔
      search.Gives own refused visit x ∨ ∃ c ∈ search.issuersFor visit.path,
        ∃ depth, search.issuerVerdict visit.path visit.depth c = .ok depth ∧
          x ∈ above ⟨visit.path.push c, depth⟩ := by
  rw [walkFrom, List.mem_append, List.mem_flatMap, Gives, or_assoc, ← exists_or]
  refine or_congr_right (exists_congr fun c => ?_)
  rw [← and_or_left]
  refine and_congr_right fun _ => ?_
  cases search.issuerVerdict visit.path visit.depth c with
  | ok depth => simp
  | error e => simp

theorem mem_reached_zero_iff : other ∈ search.reached 0 visit ↔
      other = visit := by
  rw [reached, walk, mem_walkFrom_iff]
  simp [Gives]

theorem mem_reached_succ_iff :
    other ∈ search.reached (room + 1) visit ↔
      other = visit ∨ ∃ c ∈ search.issuersFor visit.path, ∃ depth,
        search.issuerVerdict visit.path visit.depth c = .ok depth ∧
          other ∈ search.reached room ⟨visit.path.push c, depth⟩ := by
  rw [reached, walk, mem_walkFrom_iff]
  simp [Gives]

theorem self_mem_reached (search : PathSearch) (room : Nat)
    (visit : PathVisit) : visit ∈ search.reached room visit := by
  cases room with
  | zero => exact mem_reached_zero_iff.mpr rfl
  | succ room => exact mem_reached_succ_iff.mpr (Or.inl rfl)

/-- A walk gives what the paths that are reached give, and nothing else. -/
theorem mem_walk_iff :
    x ∈ search.walk own refused room visit ↔
      ∃ other ∈ search.reached room visit,
        search.Gives own refused other x := by
  induction room generalizing visit with
  | zero => simp [walk, mem_walkFrom_iff, mem_reached_zero_iff]
  | succ room ih =>
      rw [walk, mem_walkFrom_iff]
      constructor
      · rintro (hgives | ⟨c, hissuer, depth, hverdict, hx⟩)
        · exact ⟨visit, search.self_mem_reached _ visit, hgives⟩
        · obtain ⟨other, hother, hgives⟩ := ih.mp hx
          exact ⟨other, mem_reached_succ_iff.mpr
            (Or.inr ⟨c, hissuer, depth, hverdict, hother⟩), hgives⟩
      · rintro ⟨other, hother, hgives⟩
        rcases mem_reached_succ_iff.mp hother
            with rfl | ⟨c, hissuer, depth, hverdict, hother⟩
        · exact Or.inl hgives
        · exact Or.inr ⟨c, hissuer, depth, hverdict,
            ih.mpr ⟨other, hother, hgives⟩⟩

/-- A walk stays with one leaf. -/
theorem leaf_of_mem_reached (hother : other ∈ search.reached room visit) :
    other.path.leaf = visit.path.leaf := by
  induction room generalizing visit with
  | zero => rw [mem_reached_zero_iff.mp hother]
  | succ room ih =>
      rcases mem_reached_succ_iff.mp hother with rfl | ⟨c, _, depth, _, hother⟩
      · rfl
      · have hleaf := ih hother
        exact hleaf

/-- What a walk adds to a path comes from the pool. -/
theorem mem_of_mem_reached (hother : other ∈ search.reached room visit) :
    ∀ c ∈ other.path.intermediates, c ∈ visit.path.intermediates ∨
      c ∈ search.pool := by
  induction room generalizing visit with
  | zero =>
      rw [mem_reached_zero_iff.mp hother]
      exact fun c hc => Or.inl hc
  | succ room ih =>
      rcases mem_reached_succ_iff.mp hother
          with rfl | ⟨issuer, hissuer, depth, _, hother⟩
      · exact fun c hc => Or.inl hc
      · intro c hc
        rcases ih hother c hc with hbelow | hpool
        · rw [Path.push, List.mem_append, List.mem_singleton] at hbelow
          rcases hbelow with hbelow | rfl
          · exact Or.inl hbelow
          · exact Or.inr ((mem_issuersFor_iff _ _ _).mp hissuer).1
        · exact Or.inr hpool

end

/-! ### Refusals -/

/-- Nothing is known that could be the issuer of a path's top certificate: no
anchor has its name, and what else of the pool has its name is on the path. -/
structure IssuerUnknown (search : PathSearch) (path : Path) : Prop where
  anchors : ∀ anchor ∈ search.store.anchors,
    anchor.subject.isMatch path.top.issuer = false
  pool : ∀ c ∈ search.pool, c.subject.isMatch path.top.issuer = true →
    path.has c = true

theorem issuerUnknown_iff :
    search.IssuerUnknown path ↔ search.anchorsFor path = [] ∧
      search.issuersFor path = [] := by
  rw [anchorsFor, TrustStore.named, List.filter_eq_nil_iff, issuersFor,
    List.filter_eq_nil_iff]
  simp only [Bool.not_eq_true, Bool.and_eq_true, Bool.not_eq_true', not_and,
    Bool.not_eq_false]
  exact ⟨fun hunknown => ⟨hunknown.anchors, hunknown.pool⟩, fun hnone =>
    ⟨hnone.1, hnone.2⟩⟩

/-- The ways in which a path comes to nothing: an anchor does not close it, an
intermediate does not continue it, or nothing is known that could. -/
inductive Refuses (search : PathSearch) (visit : PathVisit) : Failure → Prop
  | anchor {anchor : TrustAnchor} {e : Failure}
      (hanchor : anchor ∈ search.anchorsFor visit.path)
      (hverdict : search.anchorVerdict visit.path anchor = .error e) :
        Refuses search visit e
  | issuer {c : EncodedCertificate} {e : Failure}
      (hissuer : c ∈ search.issuersFor visit.path)
      (hverdict : search.issuerVerdict visit.path visit.depth c = .error e) :
        Refuses search visit e
  | unknown (hunknown : search.IssuerUnknown visit.path) :
      Refuses search visit (noIssuer visit.path.top)

theorem mem_refusal_iff {α : Type} {verdict : Except Failure α}
    {f : PathFailure} : f ∈ refusal path verdict ↔ f.length = path.length ∧
      verdict = .error f.failure := by
  obtain ⟨length, e⟩ := f
  cases verdict with
  | ok value => simp [refusal]
  | error e' => simp [refusal, eq_comm]

theorem mem_ownRefusals_iff {visit : PathVisit} {f : PathFailure} :
    f ∈ search.ownRefusals visit ↔ f.length = visit.path.length ∧
      ((∃ anchor ∈ search.anchorsFor visit.path,
          search.anchorVerdict visit.path anchor = .error f.failure) ∨
        search.IssuerUnknown visit.path ∧
          f.failure = noIssuer visit.path.top) := by
  have hunknown : (f ∈ if (search.anchorsFor visit.path).isEmpty &&
      (search.issuersFor visit.path).isEmpty then
        [⟨visit.path.length, noIssuer visit.path.top⟩]
          else ([] : List PathFailure)) ↔
      f.length = visit.path.length ∧ search.IssuerUnknown visit.path ∧
        f.failure = noIssuer visit.path.top := by
    obtain ⟨length, e⟩ := f
    rw [issuerUnknown_iff, ← List.isEmpty_iff, ← List.isEmpty_iff,
      ← Bool.and_eq_true]
    split
    next hnone => simp [hnone]
    next hsome => simp [hsome]
  rw [ownRefusals, List.mem_append, List.mem_flatMap, hunknown, and_or_left]
  refine or_congr_left ?_
  simp only [mem_refusal_iff]
  constructor
  · rintro ⟨anchor, hanchor, hlength, hverdict⟩
    exact ⟨hlength, anchor, hanchor, hverdict⟩
  · rintro ⟨hlength, anchor, hanchor, hverdict⟩
    exact ⟨anchor, hanchor, hlength, hverdict⟩

/-- The failures on the walk are the refusals of the paths that are reached. -/
theorem mem_refusals_iff {visit : PathVisit} {f : PathFailure} :
    f ∈ search.refusals room visit ↔
      ∃ other ∈ search.reached room visit,
        f.length = other.path.length ∧ search.Refuses other f.failure := by
  rw [refusals, mem_walk_iff]
  refine exists_congr fun other => and_congr_right fun _ => ?_
  rw [Gives, mem_ownRefusals_iff]
  constructor
  · rintro (⟨hlength, ⟨anchor, hanchor, hverdict⟩ | ⟨hunknown, hfailure⟩⟩ |
      ⟨c, hissuer, e, hverdict, hf⟩)
    · exact ⟨hlength, .anchor hanchor hverdict⟩
    · exact ⟨hlength, hfailure ▸ .unknown hunknown⟩
    · rw [List.mem_singleton.mp hf]
      exact ⟨rfl, .issuer hissuer hverdict⟩
  · obtain ⟨length, e⟩ := f
    rintro ⟨rfl, hrefuses⟩
    cases hrefuses with
    | anchor hanchor hverdict =>
        exact Or.inl ⟨rfl, Or.inl ⟨_, hanchor, hverdict⟩⟩
    | issuer hissuer hverdict =>
        exact Or.inr ⟨_, hissuer, _, hverdict, List.mem_singleton_self _⟩
    | unknown hunknown => exact Or.inl ⟨rfl, Or.inr ⟨hunknown, rfl⟩⟩

/-- A path is refused for want of an issuer only where none is known. -/
theorem Refuses.issuerUnknown {visit : PathVisit} {e : Failure}
    (hrefuses : search.Refuses visit e)
    (hreason : e.reason? = some .noPathsFound) :
    search.IssuerUnknown visit.path ∧ e = noIssuer visit.path.top := by
  cases hrefuses with
  | anchor _ hverdict =>
      exact absurd hreason (search.findsOnly_anchorVerdict _ _ _ hverdict).1
  | issuer _ hverdict =>
    exact absurd hreason (search.findsOnly_issuerVerdict _ _ _ _ hverdict).1
  | unknown hunknown => exact ⟨hunknown, rfl⟩

/-! ### No path is longer than all failures -/

/-- A path that no anchor closes is refused, unless an intermediate continues
it. -/
theorem exists_refuses (search : PathSearch) (visit : PathVisit)
    (hanchors : ∀ anchor ∈ search.anchorsFor visit.path,
      ¬ search.Closes visit.path anchor) :
    (∃ e, search.Refuses visit e) ∨ ∃ c ∈ search.issuersFor visit.path, ∃ above,
      search.issuerVerdict visit.path visit.depth c = .ok above := by
  rcases hnamed : search.anchorsFor visit.path with _ | ⟨anchor, others⟩
  · rcases hissuers : search.issuersFor visit.path with _ | ⟨c, others⟩
    · exact Or.inl ⟨_, .unknown (issuerUnknown_iff.mpr ⟨hnamed, hissuers⟩)⟩
    · have hissuer : c ∈ search.issuersFor visit.path := by simp [hissuers]
      cases hverdict : search.issuerVerdict visit.path visit.depth c with
      | ok above => exact Or.inr ⟨c, List.mem_cons_self, above, hverdict⟩
      | error e => exact Or.inl ⟨e, .issuer hissuer hverdict⟩
  · have hanchor : anchor ∈ search.anchorsFor visit.path := by simp [hnamed]
    cases hverdict : search.anchorVerdict visit.path anchor with
    | ok value =>
        exact absurd (anchorVerdict_eq_ok_iff.mp hverdict)
          (hanchors anchor hanchor)
    | error e => exact Or.inl ⟨e, .anchor hanchor hverdict⟩

/-- Where an exhausted search has room for what is unused, each path that it
reaches has a failure of its own length or of a greater one. -/
theorem exists_refusal_of_reached (hroom : (search.unused path).length ≤ room)
    (hrun : search.explore room path depth p = (.exhausted, q))
    {other : PathVisit} (hother : other ∈ search.reached room ⟨path, depth⟩) :
    ∃ f ∈ search.refusals room ⟨path, depth⟩, other.path.length ≤ f.length := by
  have hown {room : Nat} {visit : PathVisit} {e : Failure}
      (hrefuses : search.Refuses visit e) :
      ∃ f ∈ search.refusals room visit, visit.path.length ≤ f.length :=
    ⟨⟨visit.path.length, e⟩,
      mem_refusals_iff.mpr ⟨visit, search.self_mem_reached room visit, rfl,
        hrefuses⟩,
      Nat.le_refl _⟩
  induction room generalizing path depth p q other with
  | zero =>
      rw [mem_reached_zero_iff.mp hother]
      rcases search.exists_refuses ⟨path, depth⟩ (visit_exhausted hrun).1 with
        ⟨e, hrefuses⟩ | ⟨c, hissuer, _⟩
      · exact hown hrefuses
      · -- without room the pool is used up, and nothing goes on from here
        have hlt : (search.unused (path.push c)).length <
            (search.unused path).length :=
          length_unused_push_lt hissuer
        omega
  | succ room ih =>
      obtain ⟨hanchors, hissuers⟩ := visit_exhausted hrun
      have habove {c : EncodedCertificate} {above : Nat} {other : PathVisit}
          (hissuer : c ∈ search.issuersFor path)
          (hverdict : search.issuerVerdict path depth c = .ok above)
          (hother : other ∈ search.reached room ⟨path.push c, above⟩) :
          ∃ f ∈ search.refusals (room + 1) ⟨path, depth⟩,
            other.path.length ≤ f.length := by
        have hcontinues := issuerVerdict_eq_ok_iff.mp hverdict
        rcases hissuers c hissuer with hrefused | ⟨again, r, s, hagain, hbelow⟩
        · exact absurd hcontinues (hrefused above)
        · have hsame : again = above :=
            Except.ok.inj (hagain.1.symm.trans hcontinues.1)
          rw [hsame] at hbelow
          have hlt := length_unused_push_lt hissuer
          obtain ⟨f, hf, hlength⟩ := ih (by omega) hbelow hother
          refine ⟨f, ?_, hlength⟩
          rw [refusals, walk]
          exact mem_walkFrom_iff.mpr (Or.inr ⟨c, hissuer, above, hverdict, hf⟩)
      rcases mem_reached_succ_iff.mp hother
          with rfl | ⟨c, hissuer, above, hverdict, hother⟩
      · rcases search.exists_refuses ⟨path, depth⟩ hanchors with
          ⟨e, hrefuses⟩ | ⟨c, hissuer, above, hverdict⟩
        · exact hown hrefuses
        · obtain ⟨f, hf, hlength⟩ :=
            habove hissuer hverdict (search.self_mem_reached room _)
          refine ⟨f, hf, Nat.le_trans ?_ hlength⟩
          simp [Path.length]
      · exact habove hissuer hverdict hother

end PathSearch

end TrustPath
