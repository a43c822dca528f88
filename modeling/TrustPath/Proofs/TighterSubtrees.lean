import Mathlib.Data.List.Basic
import TrustPath.Proofs.Checks

/-!
How subtrees judge lists of names. A list is judged name by name; a further
excluded subtree permits nothing new, and a further permitted one forbids
nothing, where there was one already. Each of the two forms has subtrees of its
own, which say nothing of the other.
-/

namespace TrustPath

namespace NameSubtrees

/-! ### Lists that permit more -/

section Lists

variable {Range : Type} {permitted excluded permitted' excluded' : List Range}

/-- Other lists permit at least as much: they have every permitted subtree, and
no further excluded one. As an empty list of permitted subtrees permits
everything, it may only give way to another empty one. -/
structure PermitsAtLeast
    (permitted excluded permitted' excluded' : List Range) : Prop where
  permitted_subset : permitted ⊆ permitted'
  empty_of_empty : permitted = [] → permitted' = []
  excluded_subset : excluded' ⊆ excluded

theorem PermitsAtLeast.refl (permitted excluded : List Range) :
    PermitsAtLeast permitted excluded permitted excluded :=
  ⟨List.Subset.refl _, id, List.Subset.refl _⟩

theorem PermitsAtLeast.isPermitted {isCovered isTouched : Range → Bool}
    (hmore : PermitsAtLeast permitted excluded permitted' excluded')
    (hpermitted : isPermitted permitted excluded isCovered isTouched = true) :
    isPermitted permitted' excluded' isCovered isTouched = true := by
  simp only [NameSubtrees.isPermitted, Bool.and_eq_true, Bool.not_eq_true',
    List.any_eq_false, Bool.or_eq_true, List.isEmpty_iff, List.any_eq_true]
    at hpermitted ⊢
  obtain ⟨huntouched, hcovered⟩ := hpermitted
  refine ⟨fun range hrange => huntouched range (hmore.excluded_subset hrange),
    ?_⟩
  rcases hcovered with hempty | ⟨range, hrange, hcovers⟩
  · exact Or.inl (hmore.empty_of_empty hempty)
  · exact Or.inr ⟨range, hmore.permitted_subset hrange, hcovers⟩

/-- A name that cannot be read passes only where both lists are empty. -/
theorem PermitsAtLeast.bothEmpty
    (hmore : PermitsAtLeast permitted excluded permitted' excluded')
    (hempty : (permitted.isEmpty && excluded.isEmpty) = true) :
    (permitted'.isEmpty && excluded'.isEmpty) = true := by
  simp only [Bool.and_eq_true, List.isEmpty_iff] at hempty ⊢
  obtain ⟨hpermitted, rfl⟩ := hempty
  exact ⟨hmore.empty_of_empty hpermitted,
    List.subset_nil.mp hmore.excluded_subset⟩

/-- A list with one more member, wherever it stands. -/
def HasOneMore (xs ys : List Range) : Prop :=
  ∃ before a after, xs = before ++ after ∧ ys = before ++ a :: after

theorem HasOneMore.subset {xs ys : List Range} (hmore : HasOneMore xs ys) :
    xs ⊆ ys := by
  obtain ⟨before, a, after, rfl, rfl⟩ := hmore
  intro x hx
  rcases List.mem_append.mp hx with hbefore | hafter
  · exact List.mem_append_left _ hbefore
  · exact List.mem_append_right _ (List.mem_cons_of_mem a hafter)

theorem PermitsAtLeast.of_excluded (hmore : HasOneMore excluded excluded') :
    PermitsAtLeast permitted excluded' permitted excluded :=
  ⟨List.Subset.refl _, id, hmore.subset⟩

theorem PermitsAtLeast.of_permitted (hne : permitted ≠ [])
    (hmore : HasOneMore permitted permitted') :
    PermitsAtLeast permitted excluded permitted' excluded :=
  ⟨hmore.subset, fun hempty => absurd hempty hne, List.Subset.refl _⟩

end Lists

/-! ### One name -/

variable {subtrees more : NameSubtrees} {entry : GeneralName}

/-- Subtrees of which others permit at least as much, form by form. -/
structure IsNarrower (subtrees more : NameSubtrees) : Prop where
  dns : PermitsAtLeast subtrees.permittedDns subtrees.excludedDns
    more.permittedDns more.excludedDns
  ip : PermitsAtLeast subtrees.permittedIp subtrees.excludedIp more.permittedIp
    more.excludedIp

theorem IsNarrower.permits (hnarrower : subtrees.IsNarrower more)
    (hpermits : subtrees.permits entry = true) : more.permits entry = true := by
  cases entry with
  | dns text =>
      rw [NameSubtrees.permits] at hpermits ⊢
      cases hpattern : DnsPattern.ofText? text with
      | none =>
          rw [hpattern] at hpermits
          exact hnarrower.dns.bothEmpty hpermits
      | some pattern =>
          rw [hpattern] at hpermits
          cases pattern with
          | exact name => exact hnarrower.dns.isPermitted hpermits
          | wildcard parent => exact hnarrower.dns.isPermitted hpermits
  | ip octets =>
      rw [NameSubtrees.permits] at hpermits ⊢
      cases haddress : IpAddress.ofOctets? octets with
      | none =>
          rw [haddress] at hpermits
          exact hnarrower.ip.bothEmpty hpermits
      | some address =>
          rw [haddress] at hpermits
          exact hnarrower.ip.isPermitted hpermits
  | _ => rfl

/-- Which host names are permitted is said by the subtrees for host names. -/
theorem permits_dns_eq (text : String)
    (hpermitted : subtrees.permittedDns = more.permittedDns)
    (hexcluded : subtrees.excludedDns = more.excludedDns) :
    subtrees.permits (.dns text) = more.permits (.dns text) := by
  have hpattern : subtrees.permitsPattern = more.permitsPattern := by
    funext pattern
    cases pattern with
    | exact name =>
        rw [permitsPattern, permitsPattern, permitsName, permitsName,
          hpermitted, hexcluded]
    | wildcard parent =>
        rw [permitsPattern, permitsPattern, hpermitted, hexcluded]
  rw [permits, permits, hpattern, hpermitted, hexcluded]

/-- Which addresses are permitted is said by the subtrees for addresses. -/
theorem permits_ip_eq (octets : Bytes)
    (hpermitted : subtrees.permittedIp = more.permittedIp)
    (hexcluded : subtrees.excludedIp = more.excludedIp) :
    subtrees.permits (.ip octets) = more.permits (.ip octets) := by
  have haddress : subtrees.permitsAddress = more.permitsAddress := by
    funext address
    rw [permitsAddress, permitsAddress, hpermitted, hexcluded]
  rw [permits, permits, haddress, hpermitted, hexcluded]

/-! ### Lists of names -/

/-- A list of names is checked name by name. -/
theorem checksEach_check (subtrees : NameSubtrees) :
    ChecksEach (fun entry => subtrees.check [entry]) subtrees.check where
  nil := rfl
  cons entry rest := by
    by_cases hentry : subtrees.permits entry = true
    · simp only [check, if_pos hentry]
      rfl
    · simp only [check, if_neg hentry]
      rfl

theorem check_singleton_congr
    (hsame : subtrees.permits entry = more.permits entry) :
    subtrees.check [entry] = more.check [entry] := by
  rw [check, check, hsame]
  rfl

theorem IsNarrower.check_eq_ok {names : List GeneralName}
    (hnarrower : subtrees.IsNarrower more)
    (hcheck : subtrees.check names = .ok ()) : more.check names = .ok () := by
  rw [check_eq_ok_iff] at hcheck ⊢
  exact fun entry hentry => hnarrower.permits (hcheck entry hentry)

/-- Subtrees with one more that is excluded. -/
inductive ExcludesOneMore (subtrees : NameSubtrees) : NameSubtrees → Prop where
  | dns {excluded : List String}
      (added : HasOneMore subtrees.excludedDns excluded) :
      ExcludesOneMore subtrees { subtrees with excludedDns := excluded }
  | ip {excluded : List Bytes}
      (added : HasOneMore subtrees.excludedIp excluded) :
      ExcludesOneMore subtrees { subtrees with excludedIp := excluded }

/-- Subtrees with one more that is permitted, beside others of its form. -/
inductive PermitsOneMore (subtrees : NameSubtrees) : NameSubtrees → Prop where
  | dns {permitted : List String} (others : subtrees.permittedDns ≠ [])
      (added : HasOneMore subtrees.permittedDns permitted) :
      PermitsOneMore subtrees { subtrees with permittedDns := permitted }
  | ip {permitted : List Bytes} (others : subtrees.permittedIp ≠ [])
      (added : HasOneMore subtrees.permittedIp permitted) :
      PermitsOneMore subtrees { subtrees with permittedIp := permitted }

theorem ExcludesOneMore.isNarrower (hmore : subtrees.ExcludesOneMore more) :
    more.IsNarrower subtrees := by
  cases hmore with
  | dns hadded => exact ⟨.of_excluded hadded, .refl _ _⟩
  | ip hadded => exact ⟨.refl _ _, .of_excluded hadded⟩

theorem PermitsOneMore.isNarrower (hmore : subtrees.PermitsOneMore more) :
    subtrees.IsNarrower more := by
  cases hmore with
  | dns hothers hadded => exact ⟨.of_permitted hothers hadded, .refl _ _⟩
  | ip hothers hadded => exact ⟨.refl _ _, .of_permitted hothers hadded⟩

/-- A list of names passes if each of them would alone, and what it fails with
is what the first name that would fail alone fails with. One more excluded
subtree lets nothing pass that failed, and one more permitted subtree beside
others lets nothing fail that passed. What becomes of a host name does not
depend on the subtrees for addresses, nor what becomes of an address on those
for host names; and a name of another form always passes. -/
theorem check_composes_and_tightens :
    (∀ (subtrees : NameSubtrees) (names : List GeneralName),
      subtrees.check names = .ok () ↔ ∀ entry ∈ names,
        subtrees.check [entry] = .ok ()) ∧
    (∀ (subtrees : NameSubtrees) (names : List GeneralName) (e : Failure),
      subtrees.check names = .error e ↔
        ∃ before entry after, names = before ++ entry :: after ∧
          (∀ earlier ∈ before, subtrees.check [earlier] = .ok ()) ∧
          subtrees.check [entry] = .error e) ∧
    (∀ (subtrees more : NameSubtrees) (names : List GeneralName),
      subtrees.ExcludesOneMore more → more.check names = .ok () →
      subtrees.check names = .ok ()) ∧
    (∀ (subtrees more : NameSubtrees) (names : List GeneralName),
      subtrees.PermitsOneMore more → subtrees.check names = .ok () →
      more.check names = .ok ()) ∧
    (∀ (permittedDns excludedDns permittedDns' excludedDns' : List String)
      (permittedIp excludedIp : List Bytes) (octets : Bytes),
      check ⟨permittedDns, excludedDns, permittedIp, excludedIp⟩ [.ip octets] =
        check ⟨permittedDns', excludedDns', permittedIp, excludedIp⟩
          [.ip octets]) ∧
    (∀ (permittedDns excludedDns : List String)
      (permittedIp excludedIp permittedIp' excludedIp' : List Bytes)
      (text : String),
      check ⟨permittedDns, excludedDns, permittedIp, excludedIp⟩ [.dns text] =
        check ⟨permittedDns, excludedDns, permittedIp', excludedIp'⟩
          [.dns text]) ∧
    ∀ (subtrees : NameSubtrees) (entry : GeneralName),
      (∀ text, entry ≠ .dns text) → (∀ octets, entry ≠ .ip octets) →
      subtrees.check [entry] = .ok () := by
  refine ⟨fun subtrees names => subtrees.checksEach_check.eq_ok_iff,
    fun subtrees names e => subtrees.checksEach_check.eq_error_iff,
    fun subtrees more names hmore => hmore.isNarrower.check_eq_ok,
    fun subtrees more names hmore => hmore.isNarrower.check_eq_ok, ?_, ?_, ?_⟩
  · intro permittedDns excludedDns permittedDns' excludedDns' permittedIp
      excludedIp octets
    exact check_singleton_congr (permits_ip_eq octets rfl rfl)
  · intro permittedDns excludedDns permittedIp excludedIp permittedIp'
      excludedIp' text
    exact check_singleton_congr (permits_dns_eq text rfl rfl)
  · intro subtrees entry hdns hip
    rw [check_eq_ok_iff, List.forall_mem_singleton]
    cases entry with
    | dns text => exact absurd rfl (hdns text)
    | ip octets => exact absurd rfl (hip octets)
    | _ => rfl

/-- A wildcard, an address that is none and a mailbox pass below a permitted
domain, beside an excluded one and beside another permitted one; where the
wildcard would cover the excluded domain, it is to blame. -/
theorem wildcard_among_others :
    let domain : NameSubtrees := ⟨["example.com"], [], [], []⟩
    let exceptBad : NameSubtrees :=
      ⟨["example.com"], ["bad.example.com"], [], []⟩
    let orOther : NameSubtrees := ⟨["example.org", "example.com"], [], [], []⟩
    let names : List GeneralName :=
      [.email "x@example.com", .dns "*.WWW.example.com", .ip [1, 2, 3]]
    domain.ExcludesOneMore exceptBad ∧ domain.PermitsOneMore orOther ∧
      exceptBad.check names = .ok () ∧ domain.check names = .ok () ∧
      orOther.check names = .ok () ∧
      domain.check [.email "x@example.com"] = .ok () ∧
      exceptBad.check [.email "x@example.com", .dns "*.example.com",
        .dns "*.bad.example.com"] =
        .error (.rejectedAs .nameConstraintsViolation
          "subjectAltName entry *.example.com violates name constraints") := by
  intro domain exceptBad orOther names
  obtain ⟨_, hfirst, hexcludes, hpermits, _, _, hother⟩ :=
    check_composes_and_tightens
  have hexceptBad : domain.ExcludesOneMore exceptBad :=
    .dns ⟨[], "bad.example.com", [], rfl, rfl⟩
  have horOther : domain.PermitsOneMore orOther :=
    .dns (by decide) ⟨[], "example.org", ["example.com"], rfl, rfl⟩
  have hnames : exceptBad.check names = .ok () := by decide +kernel
  have hdomain := hexcludes domain exceptBad names hexceptBad hnames
  have hmailbox := hother domain (.email "x@example.com") nofun nofun
  refine ⟨hexceptBad, horOther, hnames, hdomain,
    hpermits domain orOther names horOther hdomain, hmailbox, ?_⟩
  rw [hfirst]
  refine ⟨[.email "x@example.com"], .dns "*.example.com",
    [.dns "*.bad.example.com"], rfl, ?_, ?_⟩
  · rw [List.forall_mem_singleton]
    exact hother exceptBad (.email "x@example.com") nofun nofun
  · decide +kernel

end NameSubtrees

end TrustPath
