import TrustPath.Proofs.Checks

/-!
What a rule asks of a certificate. Whether it holds is said by the extensions
that stand in the certificate; a rule accepts the certificate exactly if it
holds, and a rule that refuses it names its own extension, whatever its
validator answers.
-/

namespace TrustPath

namespace EncodedCertificate

variable {c : EncodedCertificate} {id : Oid}

/-- The extensions with an identifier, as they stand in the certificate. -/
def extensionsWith (c : EncodedCertificate) (id : Oid) : List Extension :=
  (c.certificate.tbs.extensions.getD []).filter fun x => x.id = id

theorem findExtension_eq_ok_iff {x : Option Extension} :
    c.findExtension id = .ok x ↔ c.extensionsWith id = x.toList := by
  rw [findExtension, ← extensionsWith]
  rcases c.extensionsWith id with _ | ⟨y, _ | ⟨z, rest⟩⟩
  · cases x <;> simp
  · cases x <;> simp
  · cases x <;> simp

/-- What is found, if the extension does not stand there twice. -/
theorem findExtension_eq_ok (honce : (c.extensionsWith id).length ≤ 1) :
    c.findExtension id = .ok (c.extensionsWith id).head? := by
  rw [findExtension_eq_ok_iff]
  rcases hextensions : c.extensionsWith id with _ | ⟨y, _ | ⟨z, rest⟩⟩
  · rfl
  · rfl
  · rw [hextensions] at honce
    simp at honce

theorem findExtension_eq_error {e : Failure}
    (hfails : c.findExtension id = .error e) :
    1 < (c.extensionsWith id).length ∧
      ∃ message, e = .rejectedFor .invalidCertificate id message := by
  rw [findExtension, ← extensionsWith] at hfails
  split at hfails
  next => cases hfails
  next => cases hfails
  next hextensions =>
    cases hfails
    rw [hextensions]
    exact ⟨by simp, _, rfl⟩

end EncodedCertificate

namespace ExtensionRule

variable {rule : ExtensionRule} {policy : Policy} {c : EncodedCertificate}
  {x : Option Extension} {e : Failure}

/-- A certificate is as a rule asks. -/
structure Holds (rule : ExtensionRule) (policy : Policy)
    (c : EncodedCertificate) : Prop where
  /-- The extension does not stand there twice. -/
  once : (c.extensionsWith rule.id).length ≤ 1
  absent : rule.disposition = .notPresent → c.extensionsWith rule.id = []
  present : rule.disposition = .mustBePresent → c.extensionsWith rule.id ≠ []
  flag : ∀ x ∈ c.extensionsWith rule.id,
    rule.criticality.permits x.critical = true
  /-- The validator accepts the extension, or that there is none. -/
  content : rule.disposition ≠ .notPresent → ∀ validator,
    rule.validator = some validator →
    validator policy c (c.extensionsWith rule.id).head? = .ok ()

/-- The failure names the rule's extension; its reason lies in the certificate
if the extension stands there twice, and in the rule otherwise. -/
def Blames (rule : ExtensionRule) (c : EncodedCertificate) (e : Failure) :
    Prop :=
  ∃ message, e = .rejectedFor
    (if 1 < (c.extensionsWith rule.id).length then .invalidCertificate
      else .extensionPolicyViolation) rule.id message

/-! ### The two checks of a rule -/

theorem checkPresence_eq_ok_iff :
    rule.checkPresence c x = .ok () ↔
      (rule.disposition = .notPresent → x = none) ∧
        (rule.disposition = .mustBePresent → x ≠ none) ∧
        ∀ y ∈ x, rule.criticality.permits y.critical = true := by
  cases x with
  | none =>
      cases hdisposition : rule.disposition <;>
          simp [checkPresence, hdisposition]
  | some y =>
      by_cases habsent : rule.disposition = .notPresent
      · simp [checkPresence, habsent]
      · by_cases hflag : rule.criticality.permits y.critical = true
        · simp [checkPresence, habsent, hflag]
        · simp [checkPresence, habsent, hflag]

theorem checkPresence_eq_error (hfails : rule.checkPresence c x = .error e) :
    ∃ message, e = .rejectedFor .extensionPolicyViolation rule.id message := by
  rw [checkPresence.eq_def] at hfails
  split at hfails
  · split at hfails
    · cases hfails
      exact ⟨_, rfl⟩
    · cases hfails
  · split at hfails
    · cases hfails
      exact ⟨_, rfl⟩
    · split at hfails
      · cases hfails
      · cases hfails
        exact ⟨_, rfl⟩

theorem checkContent_eq_ok_iff :
    rule.checkContent policy c x = .ok () ↔
      (rule.disposition ≠ .notPresent → ∀ validator,
        rule.validator = some validator → validator policy c x = .ok ()) := by
  rw [checkContent]
  split
  next habsent => simp [habsent]
  next hmayBe =>
    cases rule.validator with
    | none => simp
    | some validator => simp [hmayBe, mapError_eq_ok_iff]

/-- A validator may fail with any failure at all; its failure is replaced. -/
theorem checkContent_eq_error
    (hfails : rule.checkContent policy c x = .error e) :
    ∃ message, e = .rejectedFor .extensionPolicyViolation rule.id message := by
  rw [checkContent] at hfails
  split at hfails
  next => cases hfails
  next =>
    split at hfails
    next => cases hfails
    next validator _ =>
      obtain ⟨cause, _, rfl⟩ := mapError_eq_error_iff.mp hfails
      cases cause <;> exact ⟨_, rfl⟩

/-! ### A whole rule -/

/-- A rule accepts the certificates of which it holds. -/
theorem check_eq_ok_iff : rule.check policy c = .ok () ↔
      rule.Holds policy c := by
  rw [check, bind_eq_ok_iff]
  constructor
  · rintro ⟨x, hfound, hchecks⟩
    have hextensions := EncodedCertificate.findExtension_eq_ok_iff.mp hfound
    rw [check_bind_eq_ok_iff, checkPresence_eq_ok_iff, checkContent_eq_ok_iff]
      at hchecks
    obtain ⟨⟨habsent, hpresent, hflag⟩, hcontent⟩ := hchecks
    have hhead : (c.extensionsWith rule.id).head? = x := by
      rw [hextensions]
      cases x <;> rfl
    refine ⟨?_, ?_, ?_, ?_, ?_⟩
    · rw [hextensions]
      cases x <;> simp
    · intro hdisposition
      rw [hextensions, habsent hdisposition]
      rfl
    · intro hdisposition hnil
      rw [hnil] at hhead
      exact hpresent hdisposition hhead.symm
    · intro y hy
      rw [hextensions, Option.mem_toList] at hy
      exact hflag y hy
    · rw [hhead]
      exact hcontent
  · intro hholds
    refine ⟨_, EncodedCertificate.findExtension_eq_ok hholds.once, ?_⟩
    rw [check_bind_eq_ok_iff, checkPresence_eq_ok_iff, checkContent_eq_ok_iff]
    refine ⟨⟨?_, ?_, ?_⟩, hholds.content⟩
    · intro hdisposition
      rw [hholds.absent hdisposition, List.head?_nil]
    · intro hdisposition hnone
      exact hholds.present hdisposition (List.head?_eq_none_iff.mp hnone)
    · intro y hy
      exact hholds.flag y (List.mem_of_head? hy)

/-- A rule that refuses a certificate is to blame. -/
theorem blames_of_check (hfails : rule.check policy c = .error e) :
    rule.Blames c e := by
  rw [check, bind_eq_error_iff] at hfails
  rw [Blames]
  rcases hfails with hfails | ⟨x, hfound, hfails⟩
  · obtain ⟨htwice, message, rfl⟩ :=
      EncodedCertificate.findExtension_eq_error hfails
    rw [if_pos htwice]
    exact ⟨message, rfl⟩
  · have hextensions := EncodedCertificate.findExtension_eq_ok_iff.mp hfound
    rw [if_neg (by rw [hextensions]; cases x <;> simp)]
    rcases bind_eq_error_iff.mp hfails with hpresence | ⟨_, _, hcontent⟩
    · exact checkPresence_eq_error hpresence
    · exact checkContent_eq_error hcontent

/-- Of a rule that forbids its extension, only the identifier counts. -/
theorem check_normalized (rule : ExtensionRule) (policy : Policy)
    (c : EncodedCertificate) :
    rule.normalized.check policy c = rule.check policy c := by
  rw [normalized]
  split
  next habsent =>
    rw [check, check]
    refine congrArg _ (funext fun x => ?_)
    cases x <;> simp [checkPresence, checkContent, notPresent, violation,
        habsent]
  next => rfl

end ExtensionRule

namespace ExtensionPolicy

variable {policy : Policy} {c : EncodedCertificate}

/-- Rules accept the certificates of which all of them hold. -/
theorem check_eq_ok_iff {rules : ExtensionPolicy} :
    rules.check policy c = .ok () ↔ ∀ rule ∈ rules.rules,
      rule.Holds policy c := by
  rw [check, (checksEach_checkAll policy c).eq_ok_iff]
  simp only [ExtensionRule.check_eq_ok_iff]

theorem checkAll_normalized (rules : List ExtensionRule) (policy : Policy)
    (c : EncodedCertificate) : checkAll policy c
      (rules.map ExtensionRule.normalized) = checkAll policy c rules := by
  induction rules with
  | nil => rfl
  | cons rule rest ih =>
      rw [List.map_cons, checkAll, checkAll, ih, rule.check_normalized]

end ExtensionPolicy

end TrustPath
