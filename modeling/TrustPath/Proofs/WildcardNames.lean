import TrustPath.Proofs.Checks
import TrustPath.Proofs.HostNames

/-!
What a permitted wildcard says of the names that it stands for. They are no more
excluded than the wildcard; but a permitted subtree that is hollow counts for
the wildcard only, as it covers no name.
-/

namespace TrustPath

namespace DnsName

variable {name : DnsName} {constraint domain : List Char}

/-- Whether a constraint has an empty label behind its leading dot. -/
def isHollow : List Char → Bool
  | ['.'] => true
  | '.' :: '.' :: _ => true
  | _ => false

theorem isHollow_of_lower (hdot : lower constraint = '.' :: domain)
    (hempty : domain = [] ∨ ∃ rest, domain = '.' :: rest) :
    isHollow constraint = true := by
  have hcase : ∀ c : Char, c.toLower = '.' → c = '.' :=
    fun c => (Ascii.toLower_eq_iff (by decide)).mp
  rcases hempty with rfl | ⟨rest, rfl⟩
  · obtain ⟨c, cs, rfl, hc, hcs⟩ := List.map_eq_cons_iff.mp hdot
    rw [hcase c hc, List.map_eq_nil_iff.mp hcs]
    rfl
  · obtain ⟨c, cs, rfl, hc, hcs⟩ := List.map_eq_cons_iff.mp hdot
    obtain ⟨d, ds, rfl, hd, _⟩ := List.map_eq_cons_iff.mp hcs
    rw [hcase c hc, hcase d hd]
    rfl

/-- A hollow constraint covers no name, as the labels of a name are not
empty. -/
theorem not_isWithin_of_isHollow (hhollow : isHollow constraint = true) :
    name.isWithin constraint = false := by
  rw [Bool.eq_false_iff]
  intro hwithin
  rw [isHollow.eq_def] at hhollow
  split at hhollow
  next => cases hwithin
  next rest =>
    have hlower : lower ('.' :: '.' :: rest) = '.' :: '.' :: lower rest := rfl
    rcases isWithin_cases hwithin with hnil | ⟨domain, hdot, front, hchars⟩
        | ⟨hnodot, _⟩
    · cases hnil
    · rw [← hdot, hlower] at hchars
      exact not_isNormal_dot (lower rest)
        (hchars.symm ▸ name.isNormal).of_append_dot
    · exact hnodot _ hlower
  next => cases hhollow

end DnsName

namespace NameSubtrees

open DnsName

variable {name parent : DnsName} {constraint : List Char}

/-- A constraint that covers the children of a parent covers each of them,
unless it is hollow. -/
theorem isWithin_of_coversChildren (hparent : name.parent? = some parent)
    (hcovers : coversChildren parent constraint = true)
    (hsolid : isHollow constraint = false) :
    name.isWithin constraint = true := by
  rw [coversChildren] at hcovers
  by_cases hdot : ∃ domain, lower constraint = '.' :: domain
  · obtain ⟨domain, hdot⟩ := hdot
    have hlower := lower_of_lower_dot hdot
    have hnothollow : ¬ (domain = [] ∨ ∃ rest, domain = '.' :: rest) := by
      intro hempty
      rw [isHollow_of_lower hdot hempty] at hsolid
      cases hsolid
    rw [plain_of_lower_dot hdot] at hcovers
    apply isWithin_of_dot_suffix hdot
    rcases isWithin_cases hcovers with hnil | ⟨rest, hrest, _⟩ | ⟨_, hdomain⟩
    · exact absurd (Or.inl (hlower.symm.trans hnil)) hnothollow
    · exact absurd (Or.inr ⟨rest, hlower.symm.trans hrest⟩) hnothollow
    · rw [hlower] at hdomain
      exact dot_suffix_of_parent? hparent hdomain
  · rw [not_exists] at hdot
    rw [plain_of_lower_not_dot hdot, isWithin_lower] at hcovers
    exact isWithin_of_parent? hparent hcovers

/-- A constraint covers a name exactly if it is the name itself, or covers all
children of its parent and is not hollow. -/
theorem isWithin_iff_of_parent? (hparent : name.parent? = some parent) :
    name.isWithin constraint = true ↔
      name.chars = lower constraint ∨
        coversChildren parent constraint = true ∧
          isHollow constraint = false := by
  constructor
  · intro hwithin
    rcases coversChildren_or_eq_of_isWithin hparent hwithin
        with hcovers | ⟨_, hname⟩
    · refine Or.inr ⟨hcovers, ?_⟩
      rw [Bool.eq_false_iff]
      intro hhollow
      rw [not_isWithin_of_isHollow hhollow] at hwithin
      cases hwithin
    · exact Or.inl hname
  · rintro (hname | ⟨hcovers, hsolid⟩)
    · rw [← isWithin_lower]
      exact isWithin_of_domain (lower_lower constraint) (Or.inl hname)
    · exact isWithin_of_coversChildren hparent hcovers hsolid

end NameSubtrees

namespace DnsPattern

variable {name parent : DnsName} {domain text : String}

theorem ofText?_wildcard (hdomain : DnsName.ofText? domain = some parent) :
    ofText? ("*." ++ domain) = some (.wildcard parent) := by
  have htoList : ("*." ++ domain).toList = '*' :: '.' :: domain.toList := by
    rw [String.toList_append]
    rfl
  exact ofChars?_eq_some_wildcard_iff.mpr ⟨domain.toList, htoList, hdomain⟩

/-- A host name is no wildcard. -/
theorem ofText?_name (htext : DnsName.ofText? text = some name) :
    ofText? text = some (.exact name) :=
  ofChars?_eq_some_exact_iff.mpr htext

end DnsPattern

namespace NameSubtrees

open DnsName

/-- Subtrees that permit a wildcard permit a name below its parent exactly if
they permit all names, or have the name itself on their list, or a constraint
that covers the wildcard and is not hollow. If no constraint is hollow, they
permit every such name. -/
theorem child_permitted_iff (subtrees : NameSubtrees) (domain text : String)
    (parent name : DnsName) (hdomain : DnsName.ofText? domain = some parent)
    (htext : DnsName.ofText? text = some name)
    (hparent : name.parent? = some parent)
    (hwildcard : subtrees.check [.dns ("*." ++ domain)] = .ok ()) :
    (subtrees.check [.dns text] = .ok () ↔
      subtrees.permittedDns = [] ∨
        ∃ c ∈ subtrees.permittedDns, name.chars = lower c.toList ∨
          coversChildren parent c.toList = true ∧ isHollow c.toList = false) ∧
    ((∀ c ∈ subtrees.permittedDns, isHollow c.toList = false) →
      subtrees.check [.dns text] = .ok ()) := by
  have hpermits : subtrees.permitsPattern (.wildcard parent) = true := by
    rw [check_eq_ok_iff, List.forall_mem_singleton, permits,
      DnsPattern.ofText?_wildcard hdomain] at hwildcard
    exact hwildcard
  have hexcluded : subtrees.excludedDns.any (fun c => name.isWithin c.toList) =
      false := by
    rw [List.any_eq_false]
    intro c hc
    rw [not_isWithin_of_permitsPattern hpermits (decide_eq_true hparent) c hc]
    exact Bool.false_ne_true
  have hchild : subtrees.check [.dns text] = .ok () ↔
      subtrees.permittedDns = [] ∨ ∃ c ∈ subtrees.permittedDns,
      name.isWithin c.toList = true := by
    rw [check_eq_ok_iff, List.forall_mem_singleton, permits,
      DnsPattern.ofText?_name htext]
    simp [permitsPattern, permitsName, isPermitted, hexcluded]
  simp only [isWithin_iff_of_parent? hparent] at hchild
  refine ⟨hchild, ?_⟩
  intro hsolid
  rw [hchild]
  rw [permitsPattern, isPermitted, Bool.and_eq_true, Bool.or_eq_true,
    List.isEmpty_iff, List.any_eq_true] at hpermits
  rcases hpermits.2 with hnil | ⟨c, hc, hcovers⟩
  · exact Or.inl hnil
  · exact Or.inr ⟨c, hc, Or.inr ⟨hcovers, hsolid c hc⟩⟩

/-- A name in another letter case, below a permitted domain and beside an
excluded one. -/
theorem mail_permitted :
    check ⟨[".Example.com"], ["example.org"], [], []⟩
      [.dns "*.Mail.example.com"] = .ok () ∧
    check ⟨[".Example.com"], ["example.org"], [], []⟩
      [.dns "MX.mail.example.com"] = .ok () := by
  have hwildcard : check ⟨[".Example.com"], ["example.org"], [], []⟩
      [.dns ("*." ++ "Mail.example.com")] = .ok () := by decide +kernel
  obtain ⟨_, hsolid⟩ :=
    child_permitted_iff ⟨[".Example.com"], ["example.org"], [], []⟩
      "Mail.example.com" "MX.mail.example.com"
      ((ofText? "mail.example.com").get (by decide +kernel))
      ((ofText? "mx.mail.example.com").get (by decide +kernel))
      (by decide +kernel) (by decide +kernel) (by decide +kernel) hwildcard
  exact ⟨hwildcard, hsolid (by decide +kernel)⟩

/-- A lone dot covers no name, but it is taken for a constraint on every
parent. -/
theorem dot_permits_only_wildcard :
    check ⟨["."], [], [], []⟩ [.dns "*.example.com"] = .ok () ∧
    check ⟨["."], [], [], []⟩ [.dns "a.example.com"] =
      .error (.rejectedAs .nameConstraintsViolation
      "subjectAltName entry a.example.com violates name constraints") ∧
    (ofText? "example.com").isSome = true ∧
    (ofText? "a.example.com").bind parent? = ofText? "example.com" := by
  decide +kernel

end NameSubtrees

end TrustPath
