import TrustPath.Proofs.Checks

/-!
The search in place. Certificates are numbered, the leaf first and then the
pool, and there is one path, a list of numbers: an intermediate is pushed for
the search above it and popped when that is exhausted. A number is looked up
wherever it is used, which can fail, and so can a call within too many others. A
call that comes back exhausted leaves the path as it was, and a search that ends
when so many calls may stand within one another ends alike when more may.
-/

namespace TrustPath

/-- What can go wrong in a search by numbers. -/
inductive SearchFault where
  /-- There is no certificate with a number, or none on the path. -/
  | outOfRange
  /-- There would be more calls within one another than are allowed. -/
  | tooDeep
deriving DecidableEq

/-- A call of the search: the numbers on the path from the leaf upwards, and the
depth. -/
structure NumberedCall where
  numbers : List Nat
  depth : Nat
deriving DecidableEq

/-- What a search by numbers reads and writes. -/
structure NumberedState where
  /-- The numbers on the path. -/
  numbers : List Nat
  /-- The calls made so far, the latest first. -/
  calls : List NumberedCall
  progress : SearchProgress
deriving DecidableEq

namespace NumberedState

def start : NumberedState :=
  ⟨[0], [], .start⟩

def push (state : NumberedState) (number : Nat) : NumberedState :=
  { state with numbers := state.numbers ++ [number] }

def pop (state : NumberedState) : NumberedState :=
  { state with numbers := state.numbers.dropLast }

/-- The search has been called at a depth, and made some progress since. -/
def called (state : NumberedState) (depth : Nat) (p : SearchProgress) :
    NumberedState :=
  ⟨state.numbers, ⟨state.numbers, depth⟩ :: state.calls, p⟩

theorem numbers_pop_push (state : NumberedState) (number : Nat) :
    (state.push number).numbers.dropLast = state.numbers :=
  List.dropLast_concat

end NumberedState

abbrev NumberedStep := NumberedState → Except SearchFault
    (SearchOutcome × NumberedState)

/-- What comes of looking at a possible issuer: nothing more, or the search goes
on above it. -/
inductive Examined where
  | ended (outcome : SearchOutcome) (p : SearchProgress)
  | goesOn (above : Nat) (p : SearchProgress)

namespace PathSearch

def certificates (search : PathSearch) : List EncodedCertificate :=
  search.leaf :: search.pool

def certificateAt (search : PathSearch) (number : Nat) :
    Except SearchFault EncodedCertificate :=
  match search.certificates[number]? with
  | some c => .ok c
  | none => .error .outOfRange

def readPath (search : PathSearch) (numbers : List Nat) :
    Except SearchFault Path := do
  match ← numbers.mapM search.certificateAt with
  | [] => .error .outOfRange
  | leaf :: intermediates => return ⟨leaf, intermediates⟩

/-- Looks at a possible issuer of the certificate `top` of a path. -/
def examine (search : PathSearch) (top : EncodedCertificate) (path : Path)
    (depth : Nat) (candidate : EncodedCertificate) (p : SearchProgress) :
    Examined :=
  match search.countCandidate p with
  | .error e => .ended (.aborted e) p
  | .ok p =>
    match search.checkCandidate candidate depth with
    | .error e => .ended .exhausted (reject path candidate e p).2
    | .ok above =>
      match search.verifySignature top candidate.publicKey p with
      | .error e => .ended (.aborted e) p
      | .ok (.error e, p) => .ended .exhausted (reject path candidate e p).2
      | .ok (.ok (), p) => .goesOn above p

/-- The turn of a number. Answers also whether its certificate is a possible
issuer. -/
def tryNumber (search : PathSearch) (descend : Nat → NumberedStep)
    (top : EncodedCertificate) (depth number : Nat) (state : NumberedState) :
    Except SearchFault (Bool × SearchOutcome × NumberedState) := do
  let candidate ← search.certificateAt number
  let path ← search.readPath state.numbers
  if candidate.subject.isMatch top.issuer && !path.has candidate then
    match search.examine top path depth candidate state.progress with
    | .ended outcome p => return (true, outcome, { state with progress := p })
    | .goesOn above p =>
      match ← descend above ({ state with progress := p }.push number) with
      | (.exhausted, after) => return (true, .exhausted, after.pop)
      | (outcome, after) => return (true, outcome, after)
  else
    return (false, .exhausted, state)

/-- Numbers in order until the turn of one does not end exhausted. Answers also
whether an issuer is known: one was before, or there is a possible issuer among
them. -/
def tryNumbers (search : PathSearch) (descend : Nat → NumberedStep)
    (top : EncodedCertificate) (depth : Nat) : (known : Bool) → List Nat →
      NumberedState → Except SearchFault (Bool × SearchOutcome × NumberedState)
  | known, [], state => .ok (known, .exhausted, state)
  | known, number :: rest, state => do
    match ← search.tryNumber descend top depth number state with
    | (isIssuer, .exhausted, after) =>
      search.tryNumbers descend top depth (known || isIssuer) rest after
    | (isIssuer, outcome, after) => return (known || isIssuer, outcome, after)

/-- Tries the anchors for the path, and then the certificates with the numbers
from 1. -/
def visitByNumber (search : PathSearch) (descend : Nat → NumberedStep)
    (depth : Nat) : NumberedStep := fun state => do
  let path ← search.readPath state.numbers
  match tryEach (search.attemptAnchor path) (search.anchorsFor path)
      (state.progress.visit path depth) with
  | (.exhausted, p) =>
    match ← search.tryNumbers descend path.top depth
      (!(search.anchorsFor path).isEmpty)
        (List.range' 1 search.pool.length) (state.called depth p) with
    | (known, .exhausted, after) =>
      if known then
        return (.exhausted, after)
      else
        let now ← search.readPath after.numbers
        return (.exhausted,
          { after with progress :=
              after.progress.fail now (noIssuer path.top) })
    | (_, outcome, after) => return (outcome, after)
  | (outcome, p) => return (outcome, state.called depth p)

/-- The search by numbers, with at most `nesting` calls within one another. -/
def searchByNumber (search : PathSearch) : (nesting : Nat) → (depth : Nat) →
      NumberedStep
  | 0, _ => fun _ => .error .tooDeep
  | nesting + 1, depth =>
    search.visitByNumber (search.searchByNumber nesting) depth

variable {search : PathSearch} {descend descend' : Nat → NumberedStep}
  {top : EncodedCertificate} {depth : Nat} {known isIssuer : Bool}
  {state after : NumberedState}

/-! ### The path after an exhausted call -/

/-- Calls that come back exhausted leave the path as it was. -/
def Restores (descend : Nat → NumberedStep) : Prop :=
  ∀ depth state after, descend depth state = .ok (.exhausted, after) →
    after.numbers = state.numbers

theorem Restores.tryNumber (hdescend : Restores descend) {number : Nat}
    (hrun : search.tryNumber descend top depth number state =
      .ok (isIssuer, .exhausted, after)) :
    after.numbers = state.numbers := by
  rw [PathSearch.tryNumber] at hrun
  obtain ⟨candidate, _, hrun⟩ := bind_eq_ok_iff.mp hrun
  obtain ⟨path, _, hrun⟩ := bind_eq_ok_iff.mp hrun
  split at hrun
  next =>
    split at hrun
    next =>
      cases hrun
      rfl
    next above p _ =>
      obtain ⟨⟨outcome, inner⟩, hinner, hrun⟩ := bind_eq_ok_iff.mp hrun
      cases outcome with
      | exhausted =>
          cases hrun
          rw [NumberedState.pop, hdescend _ _ _ hinner]
          exact NumberedState.numbers_pop_push _ number
      | found => cases hrun
      | aborted => cases hrun
  next =>
    cases hrun
    rfl

theorem Restores.tryNumbers (hdescend : Restores descend) {numbers : List Nat}
    (hrun : search.tryNumbers descend top depth known numbers state =
      .ok (isIssuer, .exhausted, after)) :
    after.numbers = state.numbers := by
  induction numbers generalizing known state with
  | nil =>
      cases hrun
      rfl
  | cons number rest ih =>
      rw [PathSearch.tryNumbers] at hrun
      obtain ⟨⟨_, outcome, next⟩, hfirst, hrun⟩ := bind_eq_ok_iff.mp hrun
      cases outcome with
      | exhausted => rw [ih hrun, hdescend.tryNumber hfirst]
      | found => cases hrun
      | aborted => cases hrun

theorem Restores.visitByNumber (hdescend : Restores descend) :
    Restores (search.visitByNumber descend) := by
  intro depth state after hrun
  rw [PathSearch.visitByNumber] at hrun
  obtain ⟨path, _, hrun⟩ := bind_eq_ok_iff.mp hrun
  split at hrun
  next p _ =>
    obtain ⟨⟨isKnown, outcome, last⟩, hnumbers, hrun⟩ := bind_eq_ok_iff.mp hrun
    cases outcome with
    | exhausted =>
        have hlast : last.numbers = (state.called depth p).numbers :=
          hdescend.tryNumbers hnumbers
        cases isKnown with
        | true =>
            cases hrun
            exact hlast
        | false =>
            obtain ⟨now, _, hrun⟩ := bind_eq_ok_iff.mp hrun
            cases hrun
            exact hlast
    | found => cases hrun
    | aborted => cases hrun
  next =>
    cases hrun
    rfl

/-- The path is the same before and after a call that comes back exhausted. -/
theorem restores_searchByNumber (search : PathSearch) (nesting : Nat) :
    Restores (search.searchByNumber nesting) := by
  induction nesting with
  | zero =>
      intro depth state after hrun
      cases hrun
  | succ nesting ih => exact ih.visitByNumber

/-! ### More calls within one another -/

/-- Whatever the one ends with, the other ends with too. -/
def EndsAlike (descend descend' : Nat → NumberedStep) : Prop :=
  ∀ depth state result, descend depth state = .ok result →
    descend' depth state = .ok result

theorem EndsAlike.tryNumber (hdescend : EndsAlike descend descend')
    {number : Nat} {result : Bool × SearchOutcome × NumberedState}
    (hrun : search.tryNumber descend top depth number state = .ok result) :
    search.tryNumber descend' top depth number state = .ok result := by
  rw [PathSearch.tryNumber] at hrun ⊢
  obtain ⟨candidate, hcandidate, hrun⟩ := bind_eq_ok_iff.mp hrun
  obtain ⟨path, hpath, hrun⟩ := bind_eq_ok_iff.mp hrun
  refine bind_eq_ok_iff.mpr
    ⟨candidate, hcandidate, bind_eq_ok_iff.mpr ⟨path, hpath, ?_⟩⟩
  split at hrun
  next hissuer =>
    rw [if_pos hissuer]
    cases hexamined : search.examine top path depth candidate state.progress
        with
    | ended outcome p =>
        rw [hexamined] at hrun
        exact hrun
    | goesOn above p =>
        rw [hexamined] at hrun
        obtain ⟨inner, hinner, hrun⟩ := bind_eq_ok_iff.mp hrun
        exact bind_eq_ok_iff.mpr ⟨inner, hdescend _ _ _ hinner, hrun⟩
  next hother =>
    rw [if_neg hother]
    exact hrun

theorem EndsAlike.tryNumbers (hdescend : EndsAlike descend descend')
    {numbers : List Nat} {result : Bool × SearchOutcome × NumberedState}
    (hrun : search.tryNumbers descend top depth known numbers state =
      .ok result) :
    search.tryNumbers descend' top depth known numbers state = .ok result := by
  induction numbers generalizing known state with
  | nil => exact hrun
  | cons number rest ih =>
      rw [PathSearch.tryNumbers] at hrun ⊢
      obtain ⟨⟨isIssuer, outcome, next⟩, hfirst, hrun⟩ := bind_eq_ok_iff.mp hrun
      refine bind_eq_ok_iff.mpr ⟨_, hdescend.tryNumber hfirst, ?_⟩
      cases outcome with
      | exhausted => exact ih hrun
      | found => exact hrun
      | aborted => exact hrun

theorem EndsAlike.visitByNumber (hdescend : EndsAlike descend descend') :
    EndsAlike (search.visitByNumber descend)
      (search.visitByNumber descend') := by
  intro depth state result hrun
  rw [PathSearch.visitByNumber] at hrun ⊢
  obtain ⟨path, hpath, hrun⟩ := bind_eq_ok_iff.mp hrun
  refine bind_eq_ok_iff.mpr ⟨path, hpath, ?_⟩
  rcases htried : tryEach (search.attemptAnchor path) (search.anchorsFor path)
    (state.progress.visit path depth) with ⟨outcome, p⟩
  rw [htried] at hrun
  cases outcome with
  | exhausted =>
      obtain ⟨last, hnumbers, hrun⟩ := bind_eq_ok_iff.mp hrun
      exact bind_eq_ok_iff.mpr ⟨last, hdescend.tryNumbers hnumbers, hrun⟩
  | found => exact hrun
  | aborted => exact hrun

/-- A search that ends ends alike when more calls may stand within one
another. -/
theorem endsAlike_searchByNumber (search : PathSearch) {nesting more : Nat}
    (hle : nesting ≤ more) : EndsAlike (search.searchByNumber nesting)
      (search.searchByNumber more) := by
  induction nesting generalizing more with
  | zero =>
      intro depth state result hrun
      cases hrun
  | succ nesting ih =>
      obtain ⟨more, rfl⟩ : ∃ m, more = m + 1 := ⟨more - 1, by omega⟩
      exact (ih (Nat.le_of_succ_le_succ hle)).visitByNumber

end PathSearch

end TrustPath
