import Mathlib.Data.List.Infix
import TrustPath.NameSubtrees

/-!
Host names under constraints. A constraint is compared with the end of a name, a
wildcard with its parent; since labels are not empty, the two agree: a
constraint that covers a name touches the children of its parent.
-/

namespace TrustPath

namespace DnsName

variable {name parent : DnsName} {constraint domain : List Char}

theorem not_isNormal_dot (rest : List Char) : ¬ IsNormal ('.' :: rest) := by
  intro hnormal
  have hname := hnormal.hostName
  simp [isHostName, splitLabels_dot, isLabel] at hname

theorem ofChars?_chars (name : DnsName) : ofChars? name.chars = some name := by
  obtain ⟨chars, hnormal⟩ := name
  simp only [ofChars?, dif_pos hnormal.hostName, hnormal.lower_eq]

/-- No label has an asterisk. -/
theorem ofChars?_star (rest : List Char) :
    ofChars? ('*' :: '.' :: rest) = none := by
  simp [ofChars?, isHostName, splitLabels, isLabel]

theorem exists_label_of_parent? (hparent : name.parent? = some parent) :
    ∃ label, '.' ∉ label ∧ name.chars = label ++ '.' :: parent.chars := by
  obtain ⟨rest, _, hrest, rfl⟩ := Option.pmap_eq_some_iff.mp hparent
  exact exists_of_afterDot? hrest

theorem isWithin_lower (name : DnsName) (constraint : List Char) :
    name.isWithin (lower constraint) = name.isWithin constraint := by
  rw [isWithin, isWithin, lower_lower]

theorem lower_of_lower_dot (hdot : lower constraint = '.' :: domain) :
    lower domain = domain := by
  have htwice : lower ('.' :: domain) = '.' :: domain := by
    rw [← hdot, lower_lower]
  exact (List.cons.inj htwice).2

/-- A name lies within a domain that it ends in. -/
theorem isWithin_of_domain (hlower : lower domain = domain)
    (hdomain : name.chars = domain ∨ '.' :: domain <:+ name.chars) :
    name.isWithin domain = true := by
  rw [isWithin, hlower]
  split
  next => rfl
  next rest =>
    -- there is no empty label at the front of the name, nor further down
    exfalso
    rcases hdomain with hchars | ⟨front, hchars⟩
    · exact not_isNormal_dot rest (hchars ▸ name.isNormal)
    · exact not_isNormal_dot rest (hchars.symm ▸ name.isNormal).of_append_dot
  next =>
    simpa using hdomain

/-- A constraint with a leading dot covers the names that end in it. -/
theorem isWithin_of_dot_suffix (hdot : lower constraint = '.' :: domain)
    (hsuffix : '.' :: domain <:+ name.chars) :
    name.isWithin constraint = true := by
  obtain ⟨front, hchars⟩ := hsuffix
  have hnormal : IsNormal (front ++ '.' :: domain) := hchars ▸ name.isNormal
  have hdomain : domain ≠ [] := by
    rintro rfl
    exact absurd hnormal.of_append_dot.hostName (by decide)
  have hfront : front ≠ [] := by
    rintro rfl
    exact not_isNormal_dot domain hnormal
  simp [isWithin, hdot, hdomain, ← hchars, List.length_pos_iff.mpr hfront]

/-- What it takes for a constraint to cover a name. -/
theorem isWithin_cases (hwithin : name.isWithin constraint = true) :
    lower constraint = [] ∨
      (∃ domain, lower constraint = '.' :: domain ∧
        '.' :: domain <:+ name.chars) ∨
      (∀ domain, lower constraint ≠ '.' :: domain) ∧
        (name.chars = lower constraint ∨
          '.' :: lower constraint <:+ name.chars) := by
  rw [isWithin] at hwithin
  split at hwithin
  next hnil => exact Or.inl hnil
  next domain hdot =>
    simp only [Bool.and_eq_true, List.isSuffixOf_iff_suffix] at hwithin
    exact Or.inr (Or.inl ⟨domain, hdot, hwithin.2⟩)
  next hnodot =>
    refine Or.inr (Or.inr ⟨fun domain => hnodot domain, ?_⟩)
    simpa using hwithin

/-- A suffix that begins with a dot is found behind the first dot. -/
theorem suffix_of_label {label rest : List Char} (hlabel : '.' ∉ label)
    (hsuffix : '.' :: domain <:+ label ++ '.' :: rest) :
    rest = domain ∨ '.' :: domain <:+ rest := by
  induction label with
  | nil =>
      rcases List.suffix_cons_iff.mp hsuffix with heq | hrest
      · exact Or.inl (List.cons.inj heq).2.symm
      · exact Or.inr hrest
  | cons c label ih =>
      rw [List.mem_cons, not_or] at hlabel
      rcases List.suffix_cons_iff.mp hsuffix with heq | hrest
      · exact absurd (List.cons.inj heq).1 hlabel.1
      · exact ih hlabel.2 hrest

/-- A domain that the parent of a name is or ends in stands behind a dot of the
name. -/
theorem dot_suffix_of_parent? (hparent : name.parent? = some parent)
    (hdomain : parent.chars = domain ∨ '.' :: domain <:+ parent.chars) :
    '.' :: domain <:+ name.chars := by
  obtain ⟨label, _, hchars⟩ := exists_label_of_parent? hparent
  have hbelow : '.' :: parent.chars <:+ name.chars := ⟨label, hchars.symm⟩
  rcases hdomain with rfl | hsuffix
  · exact hbelow
  · exact hsuffix.trans ((List.suffix_cons _ _).trans hbelow)

/-- A constraint that covers a name covers the names below it. -/
theorem isWithin_of_parent? (hparent : name.parent? = some parent)
    (hwithin : parent.isWithin constraint = true) :
    name.isWithin constraint = true := by
  rcases isWithin_cases hwithin with hnil | ⟨domain, hdot, hsuffix⟩
      | ⟨hnodot, hdomain⟩
  · rw [isWithin, hnil]
  · exact isWithin_of_dot_suffix hdot
      (dot_suffix_of_parent? hparent (Or.inr hsuffix))
  · rw [← isWithin_lower]
    exact isWithin_of_domain (lower_lower constraint)
      (Or.inr (dot_suffix_of_parent? hparent hdomain))

end DnsName

namespace DnsPattern

variable {name parent : DnsName} {cs : List Char}

theorem ofChars?_eq_some_exact_iff :
    ofChars? cs = some (.exact name) ↔ DnsName.ofChars? cs = some name := by
  rw [ofChars?.eq_def]
  split
  next domain =>
    rw [DnsName.ofChars?_star]
    constructor
    · intro hpattern
      obtain ⟨_, _, hpattern⟩ := Option.map_eq_some_iff.mp hpattern
      cases hpattern
    · exact nofun
  next =>
    rw [Option.map_eq_some_iff]
    constructor
    · rintro ⟨_, hname, hsame⟩
      cases hsame
      exact hname
    · intro hname
      exact ⟨name, hname, rfl⟩

theorem ofChars?_eq_some_wildcard_iff :
    ofChars? cs = some (.wildcard parent) ↔
      ∃ domain, cs = '*' :: '.' :: domain ∧
        DnsName.ofChars? domain = some parent := by
  rw [ofChars?.eq_def]
  split
  next domain =>
    rw [Option.map_eq_some_iff]
    constructor
    · rintro ⟨_, hparent, hsame⟩
      cases hsame
      exact ⟨domain, rfl, hparent⟩
    · rintro ⟨_, hcs, hparent⟩
      cases hcs
      exact ⟨parent, hparent, rfl⟩
  next hnostar =>
    constructor
    · intro hpattern
      obtain ⟨_, _, hpattern⟩ := Option.map_eq_some_iff.mp hpattern
      cases hpattern
    · rintro ⟨domain, hcs, _⟩
      exact absurd hcs (hnostar domain)

end DnsPattern

namespace NameSubtrees

open DnsName

variable {name parent : DnsName} {constraint : List Char}

theorem plain_of_lower_dot {domain : List Char}
    (hdot : lower constraint = '.' :: domain) : plain constraint = domain := by
  cases constraint with
  | nil => cases hdot
  | cons c rest =>
      obtain ⟨hc, hrest⟩ := List.cons.inj hdot
      rw [(Ascii.toLower_eq_iff (by decide)).mp hc]
      exact hrest

theorem plain_of_lower_not_dot
    (hnodot : ∀ domain, lower constraint ≠ '.' :: domain) :
    plain constraint = lower constraint := by
  rw [plain]
  rintro domain rfl
  exact hnodot (lower domain) rfl

/-- A constraint that covers a name covers all children of the name's parent,
unless it is the name itself. -/
theorem coversChildren_or_eq_of_isWithin (hparent : name.parent? = some parent)
    (hwithin : name.isWithin constraint = true) :
    coversChildren parent constraint = true ∨
      (∀ domain, lower constraint ≠ '.' :: domain) ∧
        name.chars = lower constraint := by
  obtain ⟨label, hlabel, hchars⟩ := exists_label_of_parent? hparent
  have habove {domain : List Char} (hlower : lower domain = domain)
      (hsuffix : '.' :: domain <:+ name.chars) : parent.isWithin domain =
      true := by
    apply isWithin_of_domain hlower
    rw [hchars] at hsuffix
    exact suffix_of_label hlabel hsuffix
  rw [coversChildren]
  rcases isWithin_cases hwithin with hnil | ⟨domain, hdot, hsuffix⟩
      | ⟨hnodot, hname | hsuffix⟩
  · left
    rw [plain_of_lower_not_dot (by rw [hnil]; simp), hnil]
    rfl
  · left
    rw [plain_of_lower_dot hdot]
    exact habove (lower_of_lower_dot hdot) hsuffix
  · exact Or.inr ⟨hnodot, hname⟩
  · left
    rw [plain_of_lower_not_dot hnodot]
    exact habove (lower_lower constraint) hsuffix

/-- A constraint that covers a name touches the children of the name's
parent. -/
theorem touchesChildren_of_isWithin (hparent : name.parent? = some parent)
    (hwithin : name.isWithin constraint = true) :
    touchesChildren parent constraint = true := by
  rw [touchesChildren, Bool.or_eq_true]
  rcases coversChildren_or_eq_of_isWithin hparent hwithin
      with hcovers | ⟨hnodot, hname⟩
  · exact Or.inl hcovers
  · -- the constraint is the name itself, which is one of the children
    right
    obtain ⟨label, _, hchars⟩ := exists_label_of_parent? hparent
    have hne : name ≠ parent := by
      rintro rfl
      have hlength := congrArg List.length hchars
      simp at hlength
      omega
    have hbelow : name.isWithin parent.chars = true :=
      isWithin_of_domain parent.isNormal.lower_eq (Or.inr ⟨label, hchars.symm⟩)
    rw [plain_of_lower_not_dot hnodot, ← hname, ofChars?_chars]
    simp [hne, hbelow]

theorem not_touched_of_isPermitted {Range : Type}
    {permitted excluded : List Range} {isCovered isTouched : Range → Bool}
    (hpermitted : isPermitted permitted excluded isCovered isTouched = true) :
    ∀ range ∈ excluded, isTouched range = false := by
  rw [isPermitted, Bool.and_eq_true, Bool.not_eq_true', List.any_eq_false]
    at hpermitted
  intro range hrange
  exact Bool.eq_false_iff.mpr (hpermitted.1 range hrange)

/-- Every name that a permitted pattern stands for is outside the excluded
subtrees. -/
theorem not_isWithin_of_permitsPattern {subtrees : NameSubtrees}
    {pattern : DnsPattern} (hpermits : subtrees.permitsPattern pattern = true)
    (hmatch : pattern.isMatch name = true) :
    ∀ c ∈ subtrees.excludedDns, name.isWithin c.toList = false := by
  intro c hc
  cases pattern with
  | exact other =>
      have hname : other = name := of_decide_eq_true hmatch
      rw [← hname]
      exact not_touched_of_isPermitted hpermits c hc
  | wildcard parent =>
      have hparent : name.parent? = some parent := of_decide_eq_true hmatch
      have huntouched := not_touched_of_isPermitted hpermits c hc
      rw [Bool.eq_false_iff]
      intro hwithin
      rw [touchesChildren_of_isWithin hparent hwithin] at huntouched
      cases huntouched

end NameSubtrees

end TrustPath
