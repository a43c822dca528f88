import TrustPath.PathSearch

/-!
What it means for the checks to pass. A check that runs others in order passes
when each of them does; here is one equivalence for each such check, so that no
later proof has to open one.
-/

namespace TrustPath

/-- A step that may fail, and what follows it, succeed together. -/
theorem bind_eq_ok_iff {ε α β : Type} {first : Except ε α}
    {next : α → Except ε β} {result : β} :
    (first >>= next) = .ok result ↔ ∃ value, first = .ok value ∧
      next value = .ok result := by
  cases first with
  | error e => simp [bind, Except.bind]
  | ok value => simp [bind, Except.bind]

/-- Of two steps, one fails. -/
theorem bind_eq_error_iff {α β : Type} {first : Except Failure α}
    {next : α → Except Failure β} {e : Failure} :
    (first >>= next) = .error e ↔
      first = .error e ∨ ∃ value, first = .ok value ∧
        next value = .error e := by
  cases first with
  | error e => simp [bind, Except.bind]
  | ok value => simp [bind, Except.bind]

/-- Another failure in place of a check's own does not make it pass. -/
theorem mapError_eq_ok_iff {α : Type} {check : Except Failure α}
    {f : Failure → Failure} {value : α} :
    check.mapError f = .ok value ↔ check = .ok value := by
  cases check with
  | error e => exact ⟨nofun, nofun⟩
  | ok value => exact Iff.rfl

theorem mapError_eq_error_iff {α : Type} {check : Except Failure α}
    {f : Failure → Failure} {e : Failure} : check.mapError f = .error e ↔
      ∃ cause, check = .error cause ∧ f cause = e := by
  constructor
  · intro hfails
    cases check with
    | error cause => exact ⟨cause, rfl, Except.error.inj hfails⟩
    | ok value => cases hfails
  · rintro ⟨cause, rfl, rfl⟩
    rfl

/-- Two checks in order pass when both do. -/
theorem check_bind_eq_ok_iff {β : Type} {first : Except Failure Unit}
    {next : Unit → Except Failure β} {result : β} :
    (first >>= next) = .ok result ↔ first = .ok () ∧ next () = .ok result := by
  rw [bind_eq_ok_iff]
  constructor
  · rintro ⟨⟨⟩, hfirst, hnext⟩
    exact ⟨hfirst, hnext⟩
  · rintro ⟨hfirst, hnext⟩
    exact ⟨(), hfirst, hnext⟩

/-- A check that refuses under a condition passes if that does not hold and the
rest passes. -/
theorem ite_error_eq_ok_iff {α : Type} {p : Prop} [Decidable p] {e : Failure}
    {check : Except Failure α} {value : α} :
    (if p then .error e else check) = .ok value ↔ ¬ p ∧ check = .ok value := by
  by_cases hp : p
  · rw [if_pos hp]
    exact ⟨nofun, fun hboth => absurd hp hboth.1⟩
  · rw [if_neg hp, and_iff_right hp]

/-! ### One check for each member of a list -/

/-- A check of a list is a check of each of its members, in order. -/
structure ChecksEach {α : Type} (check : α → Except Failure Unit)
    (checkAll : List α → Except Failure Unit) : Prop where
  nil : checkAll [] = .ok ()
  cons : ∀ a rest, checkAll (a :: rest) = (do
    check a
    checkAll rest)

namespace ChecksEach

variable {α : Type} {check : α → Except Failure Unit}
  {checkAll : List α → Except Failure Unit} {xs : List α}

theorem eq_ok_iff (heach : ChecksEach check checkAll) :
    checkAll xs = .ok () ↔ ∀ a ∈ xs, check a = .ok () := by
  induction xs with
  | nil => simp [heach.nil]
  | cons a rest ih =>
    rw [heach.cons, check_bind_eq_ok_iff, ih, List.forall_mem_cons]

/-- A list that is refused is so for the first of its members that is. -/
theorem eq_error {e : Failure} (heach : ChecksEach check checkAll)
    (hfails : checkAll xs = .error e) :
    ∃ before a after, xs = before ++ a :: after ∧
      (∀ b ∈ before, check b = .ok ()) ∧ check a = .error e := by
  induction xs with
  | nil =>
      rw [heach.nil] at hfails
      cases hfails
  | cons a rest ih =>
      rw [heach.cons, bind_eq_error_iff] at hfails
      rcases hfails with hfirst | ⟨_, hfirst, hlater⟩
      · exact ⟨[], a, rest, rfl, List.forall_mem_nil _, hfirst⟩
      · obtain ⟨before, refused, after, rfl, hbefore, hrefused⟩ := ih hlater
        refine ⟨a :: before, refused, after, rfl, ?_, hrefused⟩
        exact List.forall_mem_cons.mpr ⟨hfirst, hbefore⟩

/-- What a list is refused with is what the first refused member is refused
with. -/
theorem eq_error_iff {e : Failure} (heach : ChecksEach check checkAll) :
    checkAll xs = .error e ↔
      ∃ before a after, xs = before ++ a :: after ∧
        (∀ b ∈ before, check b = .ok ()) ∧ check a = .error e := by
  refine ⟨heach.eq_error, ?_⟩
  rintro ⟨before, a, after, rfl, hbefore, hrefused⟩
  induction before with
  | nil =>
      rw [List.nil_append, heach.cons, bind_eq_error_iff, hrefused,
        or_iff_left_of_imp nofun]
  | cons b before ih =>
      obtain ⟨hb, hbefore⟩ := List.forall_mem_cons.mp hbefore
      rw [List.cons_append, heach.cons, hb]
      exact ih hbefore

/-- Checks of a list agree where they do so on each of its members. -/
theorem congr {check' : α → Except Failure Unit}
    {checkAll' : List α → Except Failure Unit}
    (heach : ChecksEach check checkAll) (heach' : ChecksEach check' checkAll')
    (hsame : ∀ a ∈ xs, check' a = check a) : checkAll' xs = checkAll xs := by
  induction xs with
  | nil => rw [heach.nil, heach'.nil]
  | cons a rest ih =>
      rw [List.forall_mem_cons] at hsame
      rw [heach.cons, heach'.cons, hsame.1, ih hsame.2]

end ChecksEach

theorem ExtensionPolicy.checksEach_checkAll (policy : Policy)
    (c : EncodedCertificate) :
    ChecksEach (fun rule : ExtensionRule => rule.check policy c)
      (checkAll policy c) :=
  ⟨rfl, fun _ _ => rfl⟩

theorem PathSearch.checksEach_checkKeySizes (policy : Policy) :
    ChecksEach policy.checkKeySize (checkKeySizes policy) :=
  ⟨rfl, fun _ _ => rfl⟩

theorem PathSearch.checksEach_checkNames (names : List GeneralName) :
    ChecksEach (fun c => (NameSubtrees.ofConstraints c).check names)
      (checkNames names) :=
  ⟨rfl, fun _ _ => rfl⟩

/-! ### The checks that pass -/

namespace NameSubtrees

theorem check_eq_ok_iff (subtrees : NameSubtrees) (names : List GeneralName) :
    subtrees.check names = .ok () ↔ ∀ entry ∈ names,
      subtrees.permits entry = true := by
  induction names with
  | nil => simp [check]
  | cons entry rest ih =>
      by_cases hentry : subtrees.permits entry = true
      · simp [check, hentry, ih]
      · simp [check, hentry]

end NameSubtrees

theorem Policy.checkAuthority_eq_ok_iff (c : EncodedCertificate) (depth : Nat) :
    Policy.checkAuthority c depth = .ok () ↔
      ∃ constraints, c.basicConstraints? = some constraints ∧
        constraints.isAuthority = true ∧
        (∀ n, constraints.pathLength = some n → depth ≤ n.toNat) ∧
        ∀ uses, c.keyUsage? = some uses → uses.contains .keyCertSign =
          true := by
  rw [Policy.checkAuthority]
  cases c.basicConstraints? with
  | none => simp
  | some constraints =>
      cases hauthority : constraints.isAuthority with
      | false => simp [hauthority]
      | true =>
          have hshort : (∀ n, constraints.pathLength = some n →
              depth ≤ n.toNat) ↔
              (constraints.pathLength.filter fun n => n.toNat < depth) =
              none := by
            simp [Option.filter_eq_none_iff]
          cases hfilter : constraints.pathLength.filter fun n =>
            n.toNat < depth with
          | some n => simp [hauthority, hshort, hfilter]
          | none => cases c.keyUsage? <;> simp [hauthority, hshort, hfilter]

theorem Policy.checkEndEntity_eq_ok_iff (policy : Policy)
    (leaf : EncodedCertificate) : policy.checkEndEntity leaf = .ok () ↔
      (∀ purposes, leaf.extKeyUsage? = some purposes →
        policy.allowsPurpose purposes = true) ∧
      ∀ subject, policy.subject = some subject →
        ∃ names, leaf.subjectAltName? = some names ∧
          subject.isMatch names = true := by
  have hpurposes : (∀ purposes, leaf.extKeyUsage? = some purposes →
      policy.allowsPurpose purposes = true) ↔
      ¬ (leaf.extKeyUsage?.any fun purposes => !policy.allowsPurpose purposes) =
      true := by
    cases leaf.extKeyUsage? with
    | none => simp
    | some purposes => simp
  rw [Policy.checkEndEntity, hpurposes]
  split
  next hrefused => simp [hrefused]
  next hserves =>
    cases policy.subject with
    | none => simp [hserves]
    | some subject => cases leaf.subjectAltName? <;> simp [hserves]

/-! ### Checks under two policies -/

theorem Policy.checkForm_eq_of_validationTime {policy other : Policy}
    (htime : other.validationTime = policy.validationTime)
    (c : EncodedCertificate) : other.checkForm c = policy.checkForm c := by
  rw [checkForm, checkForm, htime]

/-- The validators of the rules answer alike under both policies. -/
def ExtensionPolicy.AnswersAlike (rules : ExtensionPolicy)
    (policy other : Policy) : Prop :=
  ∀ rule ∈ rules.rules, ∀ validator, rule.validator = some validator →
    ∀ c x, validator other c x = validator policy c x

theorem ExtensionPolicy.AnswersAlike.check_eq {rules : ExtensionPolicy}
    {policy other : Policy} (halike : rules.AnswersAlike policy other)
    (c : EncodedCertificate) : rules.check other c = rules.check policy c := by
  apply (checksEach_checkAll policy c).congr (checksEach_checkAll other c)
  intro rule hmem
  have hcontent : ∀ x,
      rule.checkContent other c x = rule.checkContent policy c x := by
    intro x
    rw [ExtensionRule.checkContent, ExtensionRule.checkContent]
    cases hvalidator : rule.validator with
    | none => rfl
    | some validator => simp only [halike rule hmem validator hvalidator c x]
  simp only [ExtensionRule.check, hcontent]

namespace PathSearch

theorem checkKeySizes_eq_ok_iff (policy : Policy) (keys : List PublicKey) :
    checkKeySizes policy keys = .ok () ↔ ∀ key ∈ keys,
      policy.checkKeySize key = .ok () :=
  (checksEach_checkKeySizes policy).eq_ok_iff

theorem checkNames_eq_ok_iff (names : List GeneralName)
    (constraints : List NameConstraints) :
    checkNames names constraints = .ok () ↔
      ∀ c ∈ constraints, (NameSubtrees.ofConstraints c).check names = .ok () :=
  (checksEach_checkNames names).eq_ok_iff

/-- The name constraints that hold for the leaf of a path: those of the
intermediates and of the anchor. -/
def constraintsOn (path : Path) (anchor : TrustAnchor) : List NameConstraints :=
  path.intermediates.filterMap (·.nameConstraints?) ++
    anchor.nameConstraints?.toList

/-- The keys whose sizes count: those of all certificates and of the anchor. -/
def keysOf (path : Path) (anchor : TrustAnchor) : List PublicKey :=
  path.certificates.map (·.publicKey) ++ [anchor.publicKey]

theorem checkWholePath_eq_ok_iff (search : PathSearch) (path : Path)
    (anchor : TrustAnchor) : search.checkWholePath path anchor = .ok () ↔
      (∀ key ∈ keysOf path anchor, search.policy.checkKeySize key = .ok ()) ∧
      ∀ names, search.leaf.subjectAltName? = some names →
        ∀ c ∈ constraintsOn path anchor,
          (NameSubtrees.ofConstraints c).check names = .ok () := by
  rw [checkWholePath, check_bind_eq_ok_iff, checkKeySizes_eq_ok_iff]
  refine and_congr Iff.rfl ?_
  cases search.leaf.subjectAltName? with
  | none => simp [pure, Except.pure]
  | some names =>
      simpa [constraintsOn] using checkNames_eq_ok_iff names
        (constraintsOn path anchor)

theorem checkLeaf_eq_ok_iff (search : PathSearch)
    (leafRules : ExtensionPolicy) : search.checkLeaf leafRules = .ok () ↔
      search.policy.checkForm search.leaf = .ok () ∧
      Policy.checkAlgorithms search.leaf = .ok () ∧
      leafRules.check search.policy search.leaf = .ok () ∧
      search.policy.checkEndEntity search.leaf = .ok () := by
  rw [checkLeaf, check_bind_eq_ok_iff, check_bind_eq_ok_iff,
    check_bind_eq_ok_iff]

/-- A certificate passes every check that a possible issuer with `depth` counted
intermediates below it has to pass. -/
structure AuthorityFits (search : PathSearch) (c : EncodedCertificate)
    (depth : Nat) : Prop where
  form : search.policy.checkForm c = .ok ()
  algorithms : Policy.checkAlgorithms c = .ok ()
  authority : Policy.checkAuthority c depth = .ok ()
  depth_le : depthAbove c depth ≤ search.policy.maxChainDepth.toNat
  rules : search.authorityRules.check search.policy c = .ok ()

theorem checkCandidate_eq_ok_iff (search : PathSearch) (c : EncodedCertificate)
    (depth above : Nat) : search.checkCandidate c depth = .ok above ↔
      search.AuthorityFits c depth ∧ above = depthAbove c depth := by
  rw [checkCandidate, check_bind_eq_ok_iff, check_bind_eq_ok_iff,
    check_bind_eq_ok_iff]
  dsimp only
  split
  next hdeep =>
    constructor
    · rintro ⟨_, _, _, hfails⟩
      cases hfails
    · rintro ⟨hfits, _⟩
      exact absurd hfits.depth_le (Nat.not_le_of_lt hdeep)
  next hdepth =>
    rw [check_bind_eq_ok_iff]
    constructor
    · rintro ⟨hform, halgorithms, hauthority, hrules, habove⟩
      cases habove
      exact ⟨⟨hform, halgorithms, hauthority, Nat.le_of_not_lt hdepth, hrules⟩,
        rfl⟩
    · rintro ⟨hfits, rfl⟩
      exact ⟨hfits.form, hfits.algorithms, hfits.authority, hfits.rules, rfl⟩

end PathSearch

end TrustPath
