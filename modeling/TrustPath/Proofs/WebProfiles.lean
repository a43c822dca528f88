import TrustPath.ExtensionPolicy.WebPki
import TrustPath.Proofs.ExtensionContents

/-!
Which certificates the rules of the public web accept. Each role has a profile,
which is said by the extensions that stand in a certificate and by what their
own values are read as; neither rules nor validators take part in it.
-/

namespace TrustPath

namespace Extension

/-- What the value of an extension is read as. -/
def content? (x : Extension) : Option ExtensionContent :=
  ExtensionContent.decode? x.id x.value

/-- The value of an extension is read as one of a type, and it is as asked. -/
def Has {α : Type} (x : Extension) (make : α → ExtensionContent)
    (P : α → Prop) : Prop :=
  ∃ value, x.content? = some (make value) ∧ P value

end Extension

namespace EncodedCertificate

variable {c : EncodedCertificate} {id : Oid} {x : Extension}

/-- One extension has the identifier, no more, and it is as asked. -/
def Features (c : EncodedCertificate) (id : Oid) (P : Extension → Prop) :
    Prop :=
  ∃ x, c.extensionsWith id = [x] ∧ P x

/-- No extension has the identifier, or one, and it is as asked. -/
def MayFeature (c : EncodedCertificate) (id : Oid) (P : Extension → Prop) :
    Prop :=
  c.extensionsWith id = [] ∨ c.Features id P

theorem IsMade.content?_eq_of_one (hmade : c.IsMade)
    (hone : c.extensionsWith id = [x]) : c.content? id = x.content? := by
  have hstands : x ∈ c.extensionsWith id := by
    rw [hone]; exact List.mem_singleton_self x
  have hid : x.id = id := by simpa using (List.mem_filter.mp hstands).2
  rw [hmade.content?_eq_decode? hone, ← hid]
  rfl

end EncodedCertificate

/-! ### What a rule asks, by its disposition -/

namespace ExtensionRule

variable {rule : ExtensionRule} {policy : Policy} {c : EncodedCertificate}
  {id : Oid} {x : Extension} {P : Extension → Prop} {criticality : Criticality}
  {validate : ExtensionValidator}

/-- An extension is as the rule asks. -/
def Accepts (rule : ExtensionRule) (policy : Policy) (c : EncodedCertificate)
    (x : Extension) : Prop :=
  rule.criticality.permits x.critical = true ∧
    ∀ validator ∈ rule.validator, validator policy c (some x) = .ok ()

theorem holds_iff_accepts (hmay : rule.disposition ≠ .notPresent)
    (hone : c.extensionsWith rule.id = [x]) :
    rule.Holds policy c ↔ rule.Accepts policy c x := by
  constructor
  · intro hholds
    refine ⟨hholds.flag x (by simp [hone]), ?_⟩
    intro validator hvalidator
    simpa [hone] using hholds.content hmay validator hvalidator
  · rintro ⟨hflag, hvalid⟩
    exact ⟨by simp [hone], fun habsent => absurd habsent hmay, by simp [hone],
      by simpa [hone] using hflag, fun _ => by simpa [hone] using hvalid⟩

theorem holds_mustBePresent_iff (hmust : rule.disposition = .mustBePresent)
    (haccepts : ∀ x, c.extensionsWith rule.id = [x] →
      (rule.Accepts policy c x ↔ P x)) :
    rule.Holds policy c ↔ c.Features rule.id P := by
  rcases hextensions : c.extensionsWith rule.id with _ | ⟨x, _ | ⟨y, rest⟩⟩
  · have hbroken : ¬ rule.Holds policy c := fun hholds =>
      hholds.present hmust hextensions
    simp [EncodedCertificate.Features, hbroken, hextensions]
  · rw [holds_iff_accepts (by simp [hmust]) hextensions, haccepts x hextensions]
    simp [EncodedCertificate.Features, hextensions]
  · have hbroken : ¬ rule.Holds policy c := fun hholds =>
      by simpa [hextensions] using hholds.once
    simp [EncodedCertificate.Features, hbroken, hextensions]

theorem holds_maybePresent_iff (hmay : rule.disposition = .maybePresent)
    (habsent : ∀ validator ∈ rule.validator, validator policy c none = .ok ())
    (haccepts : ∀ x, c.extensionsWith rule.id = [x] →
      (rule.Accepts policy c x ↔ P x)) :
    rule.Holds policy c ↔ c.MayFeature rule.id P := by
  rcases hextensions : c.extensionsWith rule.id with _ | ⟨x, _ | ⟨y, rest⟩⟩
  · have hholds : rule.Holds policy c :=
      ⟨by
        simp [hextensions], fun _ => hextensions, by
          simp [hmay], by simp [hextensions],
        fun _ => by simpa [hextensions] using habsent⟩
    simp [EncodedCertificate.MayFeature, hholds, hextensions]
  · rw [holds_iff_accepts (by simp [hmay]) hextensions, haccepts x hextensions]
    simp [EncodedCertificate.MayFeature, EncodedCertificate.Features,
      hextensions]
  · have hbroken : ¬ rule.Holds policy c := fun hholds =>
      by simpa [hextensions] using hholds.once
    simp [EncodedCertificate.MayFeature, EncodedCertificate.Features, hbroken,
      hextensions]

theorem holds_notPresent_iff : (notPresent id).Holds policy c ↔
      c.extensionsWith id = [] := by
  constructor
  · intro hholds
    exact hholds.absent rfl
  · intro hnone
    exact ⟨by simp [notPresent, hnone], fun _ => hnone, by simp [notPresent],
      by simp [notPresent, hnone], by simp [notPresent]⟩

/-- Of an optional extension without a validator only the flag counts. -/
theorem holds_unchecked_iff :
    Holds ⟨id, .maybePresent, criticality, none⟩ policy c ↔
      c.MayFeature id fun x => criticality.permits x.critical = true :=
  holds_maybePresent_iff rfl (by simp) (by simp [Accepts])

/-- A validator that accepts the absence of its extension judges an optional one
by its own contents. -/
theorem holds_checked_iff (habsent : validate policy c none = .ok ())
    (haccepts : ∀ x, c.extensionsWith id = [x] →
      (validate policy c (some x) = .ok () ↔ P x)) :
    Holds ⟨id, .maybePresent, criticality, some validate⟩ policy c ↔
      c.MayFeature id fun x => criticality.permits x.critical = true ∧ P x := by
  refine holds_maybePresent_iff rfl (by simpa using habsent) ?_
  intro x hone
  simp [Accepts, haccepts x hone]

/-- One that has to be there is judged by its own contents. -/
theorem holds_required_iff
    (haccepts : ∀ x, c.extensionsWith id = [x] →
      (validate policy c (some x) = .ok () ↔ P x)) :
    Holds ⟨id, .mustBePresent, criticality, some validate⟩ policy c ↔
      c.Features id fun x => criticality.permits x.critical = true ∧ P x := by
  refine holds_mustBePresent_iff rfl ?_
  intro x hone
  simp [Accepts, haccepts x hone]

theorem holds_required_unchecked_iff :
    Holds ⟨id, .mustBePresent, criticality, none⟩ policy c ↔
      c.Features id fun x => criticality.permits x.critical = true :=
  holds_mustBePresent_iff rfl (by simp [Accepts])

end ExtensionRule

/-! ### What the validators accept -/

namespace ExtensionValidator

variable {policy : Policy} {c : EncodedCertificate} {x : Extension}

@[simp] theorem reject_ne_ok (c : EncodedCertificate) (what : String) :
    reject c what ≠ .ok () := by
  simp [reject]

/-- A check that rejects, or goes on. -/
@[simp] theorem rejectIf_eq_ok_iff {p : Prop} [Decidable p] {what : String}
    {next : Except Failure Unit} :
    (if p then reject c what else next) = .ok () ↔ ¬ p ∧ next = .ok () :=
  ite_error_eq_ok_iff

@[simp] theorem rejectUnless_eq_ok_iff {p : Prop} [Decidable p]
    {what : String} : (if p then .ok () else reject c what) = .ok () ↔ p := by
  by_cases hp : p <;> simp [hp]

theorem assertsAuthority_iff :
    assertsAuthority c = true ↔
      ∃ value, c.content? .basicConstraints = some (.basicConstraints value) ∧
        value.isAuthority = true := by
  rw [assertsAuthority, EncodedCertificate.basicConstraints?]
  rcases c.content? .basicConstraints with _ | content
  · simp
  · cases content <;> simp

/-- Whether a certificate asserts that it belongs to an authority is up to its
extension. -/
theorem assertsAuthority_of_features {P : Extension → Prop} (hmade : c.IsMade)
    (hfeatures : c.Features .basicConstraints fun x =>
      P x ∧ x.Has .basicConstraints (·.isAuthority = true)) :
    assertsAuthority c = true := by
  obtain ⟨x, hone, _, value, hvalue, hauthority⟩ := hfeatures
  exact assertsAuthority_iff.mpr
    ⟨value, (hmade.content?_eq_of_one hone).trans hvalue, hauthority⟩

theorem authorityInfoAccess_eq_ok_iff (hmade : c.IsMade)
    (hone : c.extensionsWith .authorityInfoAccess = [x]) :
    authorityInfoAccess policy c (some x) = .ok () ↔
      x.Has .authorityInfoAccess (· ≠ []) := by
  rw [authorityInfoAccess, whenPresent, hmade.content?_eq_of_one hone,
    Extension.Has]
  rcases x.content? with _ | content
  · simp
  · cases content with
    | authorityInfoAccess descriptions => cases descriptions <;> simp
    | _ => simp

theorem allowsPurpose_iff {purposes : List Oid} :
    policy.allowsPurpose purposes = true ↔ policy.purpose ∈ purposes ∨
      .anyPurpose ∈ purposes := by
  simp only [Policy.allowsPurpose, List.any_eq_true, Bool.or_eq_true,
    decide_eq_true_iff, and_or_left, exists_or, exists_eq_right]

theorem extKeyUsage_eq_ok_iff (hmade : c.IsMade)
    (hone : c.extensionsWith .extKeyUsage = [x]) :
    extKeyUsage policy c (some x) = .ok () ↔
      x.Has .extKeyUsage fun purposes => purposes ≠ [] ∧
        (assertsAuthority c = true → policy.purpose ∈ purposes ∨
          .anyPurpose ∈ purposes) := by
  rw [extKeyUsage, whenPresent, EncodedCertificate.extKeyUsage?,
    hmade.content?_eq_of_one hone, Extension.Has]
  simp only [← allowsPurpose_iff]
  rcases x.content? with _ | content
  · simp
  · cases content with
    | extKeyUsage purposes => cases purposes <;> simp
    | _ => simp

theorem authorityKeyIdentifier_eq_ok_iff (hmade : c.IsMade)
    (hone : c.extensionsWith .authorityKeyIdentifier = [x]) :
    authorityKeyIdentifier policy c (some x) = .ok () ↔
      x.Has .authorityKeyIdentifier fun identifier =>
        identifier.keyIdentifier.isSome = true ∧
          identifier.issuer.isSome = identifier.serialNumber.isSome := by
  rw [authorityKeyIdentifier, whenPresent, hmade.content?_eq_of_one hone,
    Extension.Has]
  rcases x.content? with _ | content
  · simp
  · cases content <;> simp [Option.isSome_iff_ne_none]

theorem authorityKeyUsage_eq_ok_iff (hmade : c.IsMade)
    (hone : c.extensionsWith .keyUsage = [x]) :
    authorityKeyUsage policy c (some x) = .ok () ↔
      x.Has .keyUsage (.keyCertSign ∈ ·) := by
  rw [authorityKeyUsage, whenPresent, EncodedCertificate.keyUsage?,
    hmade.content?_eq_of_one hone, Extension.Has]
  rcases x.content? with _ | content
  · simp
  · cases content <;> simp

theorem authorityConstraints_eq_ok_iff (hmade : c.IsMade)
    (hone : c.extensionsWith .basicConstraints = [x]) :
    authorityConstraints policy c (some x) = .ok () ↔
      x.Has .basicConstraints (·.isAuthority = true) := by
  rw [authorityConstraints, whenPresent, rejectUnless_eq_ok_iff,
    assertsAuthority_iff, hmade.content?_eq_of_one hone]
  rfl

theorem nameConstraints_eq_ok_iff (hmade : c.IsMade)
    (hone : c.extensionsWith .nameConstraints = [x]) :
    nameConstraints policy c (some x) = .ok () ↔
      x.Has .nameConstraints fun value =>
        value.permitted.isSome = true ∨ value.excluded.isSome = true := by
  rw [nameConstraints, whenPresent, rejectUnless_eq_ok_iff,
    EncodedCertificate.nameConstraints?,
    hmade.content?_eq_of_one hone, Extension.Has]
  rcases x.content? with _ | content
  · simp
  · cases content <;> simp

theorem subjectAltName_eq_ok_iff (hmade : c.IsMade)
    (hone : c.extensionsWith .subjectAltName = [x]) :
    subjectAltName policy c (some x) = .ok () ↔
      x.Has .subjectAltName (· ≠ []) ∧
        (c.subject.isEmpty = true → x.critical = true) := by
  rw [subjectAltName, whenPresent, EncodedCertificate.subjectAltName?,
    hmade.content?_eq_of_one hone, Extension.Has]
  rcases x.content? with _ | content
  · simp
  · cases content with
    | subjectAltName names => cases names <;> simp
    | _ => simp

/-- An extension that was read asserts one thing or the other. -/
theorem endEntityConstraints_eq_ok_iff (hmade : c.IsMade)
    (hone : c.extensionsWith .basicConstraints = [x]) :
    endEntityConstraints policy c (some x) = .ok () ↔
      x.Has .basicConstraints (·.isAuthority = false) := by
  have hkept := hmade.map_basicConstraints?
  have hsome : (c.content? .basicConstraints).isSome = true :=
    (hmade.isSome_content?_iff (by decide)).mpr (by simp [hone])
  rw [← hkept, Option.isSome_map, Option.isSome_iff_exists] at hsome
  obtain ⟨value, hvalue⟩ := hsome
  rw [hvalue, Option.map_some, hmade.content?_eq_of_one hone] at hkept
  simp [endEntityConstraints, whenPresent, assertsAuthority, hvalue,
    Extension.Has, ← hkept]

/-- Without such an extension there is no assertion. -/
theorem assertsAuthority_eq_false (hmade : c.IsMade)
    (hfeatures : c.MayFeature .basicConstraints fun x =>
      x.Has .basicConstraints (·.isAuthority = false)) :
    assertsAuthority c = false := by
  rw [← Bool.not_eq_true, assertsAuthority_iff]
  rintro ⟨value, hvalue, hauthority⟩
  rcases hfeatures with hnone | ⟨x, hone, other, hother, hdenies⟩
  · rw [hmade.content?_eq_none hnone] at hvalue
    cases hvalue
  · rw [hmade.content?_eq_of_one hone, hother] at hvalue
    cases hvalue
    rw [hdenies] at hauthority
    cases hauthority

end ExtensionValidator

/-! ### The profiles -/

/-- An authority's certificate as the public web knows it. -/
structure AuthorityProfile (policy : Policy) (c : EncodedCertificate) :
    Prop where
  subjectDirectoryAttributes : c.MayFeature .subjectDirectoryAttributes
    (·.critical = false)
  authorityInfoAccess : c.MayFeature .authorityInfoAccess fun x =>
    x.critical = false ∧ x.Has .authorityInfoAccess (· ≠ [])
  /-- An authority limits what its certificates are for. -/
  extKeyUsage : c.MayFeature .extKeyUsage fun x =>
    x.critical = false ∧ x.Has .extKeyUsage fun purposes =>
      purposes ≠ [] ∧ (policy.purpose ∈ purposes ∨ .anyPurpose ∈ purposes)
  authorityKeyIdentifier : c.MayFeature .authorityKeyIdentifier fun x =>
    x.critical = false ∧ x.Has .authorityKeyIdentifier fun identifier =>
      identifier.keyIdentifier.isSome = true ∧
        identifier.issuer.isSome = identifier.serialNumber.isSome
  subjectKeyIdentifier : c.MayFeature .subjectKeyIdentifier (·.critical = false)
  keyUsage : c.Features .keyUsage fun x => x.Has .keyUsage (.keyCertSign ∈ ·)
  basicConstraints : c.Features .basicConstraints fun x =>
    x.critical = true ∧ x.Has .basicConstraints (·.isAuthority = true)
  nameConstraints : c.MayFeature .nameConstraints fun x =>
    x.Has .nameConstraints fun value =>
      value.permitted.isSome = true ∨ value.excluded.isSome = true
  policyConstraints : c.MayFeature .policyConstraints (·.critical = true)

/-- A certificate of an end entity as the public web knows it, but for its
names. -/
structure EndEntityProfile (c : EncodedCertificate) : Prop where
  subjectDirectoryAttributes : c.MayFeature .subjectDirectoryAttributes
    (·.critical = false)
  authorityInfoAccess : c.MayFeature .authorityInfoAccess fun x =>
    x.critical = false ∧ x.Has .authorityInfoAccess (· ≠ [])
  extKeyUsage : c.MayFeature .extKeyUsage fun x =>
    x.critical = false ∧ x.Has .extKeyUsage (· ≠ [])
  authorityKeyIdentifier : c.Features .authorityKeyIdentifier
    (·.critical = false)
  /-- Nothing is asked of it but that it does not stand there twice. -/
  keyUsage : c.MayFeature .keyUsage fun _ => True
  basicConstraints : c.MayFeature .basicConstraints fun x =>
    x.Has .basicConstraints (·.isAuthority = false)
  nameConstraints : c.extensionsWith .nameConstraints = []

/-- The extension names somebody, and is critical if nothing else does. -/
def EncodedCertificate.NamedBy (c : EncodedCertificate) (x : Extension) :
    Prop :=
  x.Has .subjectAltName (· ≠ []) ∧
    (c.subject.isEmpty = true → x.critical = true)

/-- A server has to be named. -/
structure ServerProfile (c : EncodedCertificate) :
    Prop extends EndEntityProfile c where
  subjectAltName : c.Features .subjectAltName c.NamedBy

/-- A client need not be named. -/
structure ClientProfile (c : EncodedCertificate) :
    Prop extends EndEntityProfile c where
  subjectAltName : c.MayFeature .subjectAltName c.NamedBy

namespace ExtensionPolicy.WebPki

open ExtensionRule ExtensionValidator

variable {policy : Policy} {c : EncodedCertificate}

theorem check_authorities_iff (hmade : c.IsMade) :
    authorities.check policy c = .ok () ↔ AuthorityProfile policy c := by
  rw [ExtensionPolicy.check_eq_ok_iff]
  simp only [authorities, commonRules, authorityRules, List.cons_append,
    List.nil_append, List.forall_mem_cons, List.not_mem_nil, IsEmpty.forall_iff,
    implies_true, and_true, holds_unchecked_iff,
    holds_checked_iff rfl fun _ => authorityInfoAccess_eq_ok_iff hmade,
    holds_checked_iff rfl fun _ => extKeyUsage_eq_ok_iff hmade,
    holds_checked_iff rfl fun _ => authorityKeyIdentifier_eq_ok_iff hmade,
    holds_required_iff fun _ => authorityKeyUsage_eq_ok_iff hmade,
    holds_required_iff fun _ => authorityConstraints_eq_ok_iff hmade,
    holds_checked_iff rfl fun _ => nameConstraints_eq_ok_iff hmade,
    Criticality.permits, Bool.not_eq_true', true_and]
  -- One rule looks at another extension: what is asked of the purposes is asked
  -- of authorities only.
  constructor
  · rintro ⟨hdirectory, haccess, hpurposes, hissuer, hkey, huses, hauthority,
      hsubtrees, hpolicies⟩
    simp only [assertsAuthority_of_features hmade hauthority, true_imp_iff]
      at hpurposes
    exact ⟨hdirectory, haccess, hpurposes, hissuer, hkey, huses, hauthority,
      hsubtrees, hpolicies⟩
  · rintro ⟨hdirectory, haccess, hpurposes, hissuer, hkey, huses, hauthority,
      hsubtrees, hpolicies⟩
    simp only [assertsAuthority_of_features hmade hauthority, true_imp_iff]
    exact ⟨hdirectory, haccess, hpurposes, hissuer, hkey, huses, hauthority,
      hsubtrees, hpolicies⟩

/-- Servers and clients differ in one rule. -/
theorem holds_endEntityRules_iff (hmade : c.IsMade) (altNames : Disposition) :
    (∀ rule ∈ commonRules ++ endEntityRules altNames, rule.Holds policy c) ↔
      EndEntityProfile c ∧ ExtensionRule.Holds
        ⟨.subjectAltName, altNames, .agnostic, some subjectAltName⟩
          policy c := by
  simp only [commonRules, endEntityRules, List.cons_append, List.nil_append,
    List.forall_mem_cons, List.not_mem_nil, IsEmpty.forall_iff, implies_true,
    and_true, holds_unchecked_iff, holds_required_unchecked_iff,
    holds_notPresent_iff,
    holds_checked_iff rfl fun _ => authorityInfoAccess_eq_ok_iff hmade,
    holds_checked_iff rfl fun _ => extKeyUsage_eq_ok_iff hmade,
    holds_checked_iff rfl fun _ => endEntityConstraints_eq_ok_iff hmade,
    Criticality.permits, Bool.not_eq_true', true_and]
  -- Whoever is no authority may list any purposes.
  constructor
  · rintro ⟨hdirectory, haccess, hpurposes, hissuer, huses, hnames,
      hnoAuthority, hsubtrees⟩
    simp only [assertsAuthority_eq_false hmade hnoAuthority, Bool.false_eq_true,
      false_imp_iff, and_true] at hpurposes
    exact ⟨⟨hdirectory, haccess, hpurposes, hissuer, huses, hnoAuthority,
      hsubtrees⟩, hnames⟩
  · rintro ⟨⟨hdirectory, haccess, hpurposes, hissuer, huses, hnoAuthority,
      hsubtrees⟩, hnames⟩
    simp only [assertsAuthority_eq_false hmade hnoAuthority, Bool.false_eq_true,
      false_imp_iff, and_true]
    exact ⟨hdirectory, haccess, hpurposes, hissuer, huses, hnames, hnoAuthority,
      hsubtrees⟩

theorem check_servers_iff (hmade : c.IsMade) :
    servers.check policy c = .ok () ↔ ServerProfile c := by
  rw [ExtensionPolicy.check_eq_ok_iff, servers, serverRules,
    holds_endEntityRules_iff hmade,
    holds_required_iff fun _ => subjectAltName_eq_ok_iff hmade]
  simp only [Criticality.permits, true_and]
  exact ⟨fun hholds => ⟨hholds.1, hholds.2⟩,
    fun hprofile => ⟨hprofile.toEndEntityProfile, hprofile.subjectAltName⟩⟩

theorem check_clients_iff (hmade : c.IsMade) :
    clients.check policy c = .ok () ↔ ClientProfile c := by
  rw [ExtensionPolicy.check_eq_ok_iff, clients, clientRules,
    holds_endEntityRules_iff hmade,
    holds_checked_iff rfl fun _ => subjectAltName_eq_ok_iff hmade]
  simp only [Criticality.permits, true_and]
  exact ⟨fun hholds => ⟨hholds.1, hholds.2⟩,
    fun hprofile => ⟨hprofile.toEndEntityProfile, hprofile.subjectAltName⟩⟩

end ExtensionPolicy.WebPki

open ExtensionPolicy in
/-- The rules of the public web accept the certificates that have the profile of
their role, however the certificate was made and whatever policy asks. -/
theorem web_rules_accept_profiles (c : EncodedCertificate) (hmade : c.IsMade)
    (policy : Policy) :
    (WebPki.authorities.check policy c = .ok () ↔ AuthorityProfile policy c) ∧
    (WebPki.servers.check policy c = .ok () ↔ ServerProfile c) ∧
    (WebPki.clients.check policy c = .ok () ↔ ClientProfile c) :=
  ⟨WebPki.check_authorities_iff hmade, WebPki.check_servers_iff hmade,
    WebPki.check_clients_iff hmade⟩

namespace ChainFamily

def clientAuthority : Certificate :=
  certificate 1 (name 0) rootName (some
    [⟨.basicConstraints, true, [0x30, 0x03, 0x01, 0x01, 0xff]⟩,
      ⟨.keyUsage, true, [0x03, 0x02, 0x02, 0x04]⟩,
      ⟨.extKeyUsage, false,
        [0x30, 0x0a, 0x06, 0x08, 0x2b, 0x06, 0x01, 0x05, 0x05, 0x07, 0x03,
          0x02]⟩])

end ChainFamily

open ChainFamily ExtensionPolicy in
/-- It has the profile for clients, but not for servers, and it is no end
entity. -/
theorem client_authority_profile :
    ∃ c, EncodedCertificate.ofBytes? clientAuthority.encode = some c ∧
      c.IsMade ∧ AuthorityProfile (client 2).inner.policy c ∧
      ¬ AuthorityProfile (server 2).inner.policy c ∧ ¬ ClientProfile c := by
  have hchecked : ∃ c, EncodedCertificate.ofBytes? clientAuthority.encode =
      some c ∧ (decide (WebPki.authorities.check (client 2).inner.policy c =
        .ok ()) && decide (WebPki.authorities.check (server 2).inner.policy c ≠
        .ok ()) && decide (WebPki.clients.check (client 2).inner.policy c ≠
        .ok ())) = true :=
    (Option.any_eq_true _ _).mp (by decide +kernel)
  obtain ⟨c, hread, hverdicts⟩ := hchecked
  simp only [Bool.and_eq_true, decide_eq_true_iff] at hverdicts
  have hmade : c.IsMade := .inl ⟨_, hread⟩
  obtain ⟨hclient, _, hend⟩ :=
    web_rules_accept_profiles c hmade (client 2).inner.policy
  obtain ⟨hserver, _⟩ :=
    web_rules_accept_profiles c hmade (server 2).inner.policy
  exact ⟨c, hread, hmade, hclient.mp hverdicts.1.1,
    hserver.not.mp hverdicts.1.2, hend.not.mp hverdicts.2⟩

end TrustPath
