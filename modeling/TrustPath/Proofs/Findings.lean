import TrustPath.Proofs.ExtensionRules
import TrustPath.Proofs.SearchStep

/-!
What the checks say when they fail. Every check of a certificate or of a whole
path fails with a finding about it; that no issuer is known, or that a budget is
used up, only the search itself says. Checkers of signatures and validators of
extensions may answer anything: their failures are turned into findings before
the search records them. Findings are rejections, but for one: the size of an
RSA key that cannot be read is a failure without a reason.
-/

namespace TrustPath

/-- The failure tells of a certificate or a path, and not that a search came to
nothing. -/
def Failure.IsFinding (e : Failure) : Prop :=
  e.reason? ≠ some .noPathsFound ∧ e.reason? ≠ some .pathBuildingBudgetExceeded

theorem Failure.IsFinding.not_isBudget {e : Failure} (hfinding : e.IsFinding) :
    ¬ e.IsBudget :=
  hfinding.2

@[simp] theorem isFinding_rejected_iff (r : Rejection) :
    (Failure.rejected r).IsFinding ↔
      r.reason ≠ .noPathsFound ∧ r.reason ≠ .pathBuildingBudgetExceeded := by
  simp [Failure.IsFinding, Failure.reason?]

@[simp] theorem isFinding_rejectedAs_iff (reason : Reason) (message : String) :
    (Failure.rejectedAs reason message).IsFinding ↔
      reason ≠ .noPathsFound ∧ reason ≠ .pathBuildingBudgetExceeded :=
  isFinding_rejected_iff _

@[simp] theorem isFinding_rejectedFor_iff (reason : Reason) (id : Oid)
    (message : String) : (Failure.rejectedFor reason id message).IsFinding ↔
      reason ≠ .noPathsFound ∧ reason ≠ .pathBuildingBudgetExceeded :=
  isFinding_rejected_iff _

/-- A failure without a reason is a finding. -/
theorem isFinding_of_reason?_eq_none {e : Failure} (hnone : e.reason? = none) :
    e.IsFinding := by
  simp [Failure.IsFinding, hnone]

/-- The failure is a rejection, and so has a reason. -/
def Failure.IsRejection (e : Failure) : Prop :=
  ∃ r, e = .rejected r

/-- The failure is a rejection that tells of a certificate or a path. -/
def Failure.IsJudgement (e : Failure) : Prop :=
  e.IsRejection ∧ e.IsFinding

@[simp] theorem isJudgement_rejectedAs_iff (reason : Reason)
    (message : String) : (Failure.rejectedAs reason message).IsJudgement ↔
      reason ≠ .noPathsFound ∧ reason ≠ .pathBuildingBudgetExceeded :=
  (and_iff_right ⟨_, rfl⟩).trans (isFinding_rejectedAs_iff reason message)

@[simp] theorem isJudgement_rejectedFor_iff (reason : Reason) (id : Oid)
    (message : String) : (Failure.rejectedFor reason id message).IsJudgement ↔
      reason ≠ .noPathsFound ∧ reason ≠ .pathBuildingBudgetExceeded :=
  (and_iff_right ⟨_, rfl⟩).trans (isFinding_rejectedFor_iff reason id message)

/-- The failure of a check on an RSA key that cannot be read, in some words. -/
def Failure.unreadableKey (fault : Bytes → String) (key : PublicKey) :
    Failure :=
  .malformed (fault key.key.octets)

/-- An RSA key whose octets are no modulus and exponent. -/
def PublicKey.IsUnreadableRsa (key : PublicKey) : Prop :=
  key.algorithm.algorithm = .rsaEncryption ∧
    RsaPublicKey.ofOctets? key.key.octets = none

instance (key : PublicKey) : Decidable key.IsUnreadableRsa :=
  inferInstanceAs (Decidable (_ ∧ _))

/-! ### Checks that fail only in one way -/

/-- Whatever the check fails with has a property. -/
def FailsOnly {α : Type} (P : Failure → Prop) (check : Except Failure α) :
    Prop :=
  ∀ e, check = .error e → P e

/-- Whatever the check fails with is a finding. -/
abbrev FindsOnly {α : Type} (check : Except Failure α) : Prop :=
  FailsOnly Failure.IsFinding check

/-- Whatever the check fails with is a rejection that tells of a certificate or
a path. -/
abbrev JudgesOnly {α : Type} (check : Except Failure α) : Prop :=
  FailsOnly Failure.IsJudgement check

section

variable {α β : Type} {P Q : Failure → Prop} {first : Except Failure α}

@[simp] theorem failsOnly_ok (a : α) : FailsOnly P (.ok a) := by
  intro e he
  cases he

@[simp] theorem failsOnly_error_iff (e : Failure) :
    FailsOnly P (.error e : Except Failure α) ↔ P e := by
  simp [FailsOnly]

theorem FailsOnly.bind {next : α → Except Failure β}
    (hfirst : FailsOnly P first) (hnext : ∀ a, FailsOnly P (next a)) :
    FailsOnly P (first >>= next) := by
  intro e he
  rcases bind_eq_error_iff.mp he with herror | ⟨a, _, herror⟩
  · exact hfirst e herror
  · exact hnext a e herror

theorem FailsOnly.map {f : α → β} (hfirst : FailsOnly P first) :
    FailsOnly P (first.map f) := by
  intro e he
  cases hvalue : first with
  | error e' =>
      rw [hvalue] at he
      cases he
      exact hfirst e hvalue
  | ok a =>
      rw [hvalue] at he
      cases he

theorem FailsOnly.mono (hfirst : FailsOnly P first) (himp : ∀ e, P e → Q e) :
    FailsOnly Q first :=
  fun e he => himp e (hfirst e he)

theorem FailsOnly.findsOnly (hfirst : JudgesOnly first) : FindsOnly first :=
  hfirst.mono fun _ => And.right

end

/-! ### The checks of one certificate -/

theorem TbsCertificate.judgesOnly_validAt (tbs : TbsCertificate)
    (now : DateTime) (stifleLog : Bool) :
    JudgesOnly (tbs.validAt now stifleLog).value := by
  rw [TbsCertificate.validAt]
  split
  · split <;> simp [Logged.quiet, Logged.noting]
  · split
    · split <;> simp [Logged.quiet, Logged.noting]
    · simp [Logged.quiet]

theorem Policy.judgesOnly_checkForm (policy : Policy) (c : EncodedCertificate) :
    JudgesOnly (policy.checkForm c) := by
  have hinvalid (what : String) :
      JudgesOnly (.error (invalid c what) : Except Failure Unit) := by
    simp [invalid]
  rw [Policy.checkForm]
  repeat'
    split
    · exact hinvalid _
  exact (TbsCertificate.judgesOnly_validAt _ _ _).map

theorem PublicKey.judgesOnly_kind (key : PublicKey) : JudgesOnly key.kind := by
  rw [PublicKey.kind, namedCurve]
  split
  · split <;> simp
  · simp

theorem Policy.judgesOnly_checkAlgorithms (c : EncodedCertificate) :
    JudgesOnly (Policy.checkAlgorithms c) := by
  rw [Policy.checkAlgorithms]
  dsimp only
  split
  next e hkind =>
    exact (failsOnly_error_iff e).mpr (c.publicKey.judgesOnly_kind e hkind)
  next kind _ =>
    split
    · simp
    · split
      · simp
      · split <;> simp

/-- The size of a key is judged, unless it is an RSA key that cannot be read. -/
theorem Policy.failsOnly_checkKeySize (policy : Policy) (key : PublicKey) :
    FailsOnly (fun e => e.IsJudgement ∨ e = .unreadableKey policy.keyFault key ∧
      key.IsUnreadableRsa)
      (policy.checkKeySize key) := by
  rw [Policy.checkKeySize]
  split
  next => exact failsOnly_ok ()
  next hrsa =>
    rw [PublicKey.rsaModulusBitsOr]
    cases hread : RsaPublicKey.ofOctets? key.key.octets with
    | none =>
        rw [failsOnly_error_iff]
        exact Or.inr ⟨rfl, Decidable.not_not.mp hrsa, hread⟩
    | some k =>
        dsimp only
        split <;> simp

theorem Policy.judgesOnly_checkEndEntity (policy : Policy)
    (leaf : EncodedCertificate) : JudgesOnly (policy.checkEndEntity leaf) := by
  rw [Policy.checkEndEntity]
  split
  · simp
  · cases policy.subject with
    | none => simp
    | some subject =>
        dsimp only
        split <;> simp

theorem Policy.judgesOnly_checkAuthority (c : EncodedCertificate)
    (depth : Nat) : JudgesOnly (Policy.checkAuthority c depth) := by
  rw [Policy.checkAuthority]
  cases c.basicConstraints? with
  | none => simp
  | some constraints =>
      dsimp only
      split
      · simp
      · split
        · simp
        · split <;> simp

/-- A validator may fail with any failure at all; the rule is to blame. -/
theorem ExtensionPolicy.judgesOnly_check (rules : ExtensionPolicy)
    (policy : Policy) (c : EncodedCertificate) :
    JudgesOnly (rules.check policy c) := by
  intro e hfails
  obtain ⟨_, rule, _, _, _, hblamed⟩ :=
    (checksEach_checkAll policy c).eq_error hfails
  obtain ⟨message, rfl⟩ := ExtensionRule.blames_of_check hblamed
  split <;> simp

/-! ### The checks of a whole path -/

theorem NameSubtrees.judgesOnly_check (subtrees : NameSubtrees)
    (names : List GeneralName) : JudgesOnly (subtrees.check names) := by
  induction names with
  | nil => simp [check]
  | cons entry rest ih =>
      rw [check]
      split
      · exact ih
      · simp

namespace PathSearch

variable {search : PathSearch}

theorem judgesOnly_checkNames (names : List GeneralName)
    (constraints : List NameConstraints) :
    JudgesOnly (checkNames names constraints) := by
  intro e hfails
  obtain ⟨_, c, _, _, _, hrefused⟩ :=
    (checksEach_checkNames names).eq_error hfails
  exact NameSubtrees.judgesOnly_check _ names e hrefused

/-- The first key of a path that is not large enough is one that cannot be
read. -/
def EndsAtUnreadableKey (search : PathSearch) (path : Path)
    (anchor : TrustAnchor) (key : PublicKey) : Prop :=
  ∃ before after, keysOf path anchor = before ++ key :: after ∧
    (∀ other ∈ before, search.policy.checkKeySize other = .ok ()) ∧
    key.IsUnreadableRsa

theorem failsOnly_checkWholePath (search : PathSearch) (path : Path)
    (anchor : TrustAnchor) : FailsOnly
      (fun e => e.IsJudgement ∨
        ∃ key, e = .unreadableKey search.policy.keyFault key ∧
          search.EndsAtUnreadableKey path anchor key)
      (search.checkWholePath path anchor) := by
  intro e hfails
  rcases bind_eq_error_iff.mp hfails with hsizes | ⟨_, _, hnames⟩
  · obtain ⟨before, key, after, hkeys, hbefore, hkey⟩ :=
      (checksEach_checkKeySizes search.policy).eq_error hsizes
    rcases search.policy.failsOnly_checkKeySize key e hkey
        with hjudged | ⟨hfailure, hunreadable⟩
    · exact Or.inl hjudged
    · exact Or.inr ⟨key, hfailure, before, after, hkeys, hbefore, hunreadable⟩
  · left
    cases hentries : search.leaf.subjectAltName? with
    | none =>
        rw [hentries] at hnames
        cases hnames
    | some names =>
        rw [hentries] at hnames
        exact judgesOnly_checkNames names _ e hnames

theorem findsOnly_checkWholePath (search : PathSearch) (path : Path)
    (anchor : TrustAnchor) : FindsOnly (search.checkWholePath path anchor) := by
  refine (search.failsOnly_checkWholePath path anchor).mono ?_
  rintro e (hjudged | ⟨key, rfl, _⟩)
  · exact hjudged.2
  · exact isFinding_of_reason?_eq_none rfl

theorem judgesOnly_checkLeaf (search : PathSearch)
    (leafRules : ExtensionPolicy) :
    JudgesOnly (search.checkLeaf leafRules) := by
  refine (search.policy.judgesOnly_checkForm _).bind fun _ => ?_
  refine (Policy.judgesOnly_checkAlgorithms _).bind fun _ => ?_
  refine (leafRules.judgesOnly_check _ _).bind fun _ => ?_
  exact search.policy.judgesOnly_checkEndEntity _

theorem judgesOnly_checkCandidate (search : PathSearch) (c : EncodedCertificate)
    (depth : Nat) : JudgesOnly (search.checkCandidate c depth) := by
  refine (search.policy.judgesOnly_checkForm _).bind fun _ => ?_
  refine (Policy.judgesOnly_checkAlgorithms _).bind fun _ => ?_
  refine (Policy.judgesOnly_checkAuthority _ _).bind fun _ => ?_
  dsimp only
  split
  · simp
  · exact (search.authorityRules.judgesOnly_check _ _).bind fun _ =>
      failsOnly_ok _

/-- Whatever a checker of signatures fails with, the verdict is a finding. -/
theorem isFinding_unverified (c : EncodedCertificate) (e : Failure) :
    (unverified c e).IsFinding := by
  cases e with
  | rejected r => simp [unverified]
  | misconfigured cause => exact isFinding_of_reason?_eq_none rfl
  | unsupportedName => exact isFinding_of_reason?_eq_none rfl
  | malformed detail => exact isFinding_of_reason?_eq_none rfl

theorem findsOnly_signatureVerdict (search : PathSearch)
    (c : EncodedCertificate) (key : PublicKey) :
    FindsOnly ((search.verifies c key).value.mapError (unverified c)) := by
  intro e hfails
  obtain ⟨cause, _, rfl⟩ := mapError_eq_error_iff.mp hfails
  exact isFinding_unverified c cause

theorem findsOnly_verdict {c : EncodedCertificate} {key : PublicKey}
    {p q : SearchProgress} {verdict : Except Failure Unit}
    (hverify : search.verifySignature c key p = .ok (verdict, q)) :
    FindsOnly verdict := by
  obtain ⟨_, rfl, _⟩ := verifySignature_eq_ok_iff.mp hverify
  exact search.findsOnly_signatureVerdict c key

end PathSearch

end TrustPath
