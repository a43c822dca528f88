import Mathlib.Logic.Relation
import Mathlib.Order.Defs.Unbundled
import TrustPath.Proofs.HostNames

/-!
The tree of host names. The parent of a name is what is left without its first
label, and a constraint covers the names from which its own name is reached in
this way. It is compared with the end of a name as a text; no label is empty,
and the comparison never ends inside one, so that the last labels of the name
are compared.
-/

namespace TrustPath.DnsName

variable {name parent domain : DnsName} {cs text label : List Char}

/-! ### Labels -/

theorem splitLabels_eq_splitOn (cs : List Char) :
    splitLabels cs = cs.splitOn '.' := by
  induction cs with
  | nil => rfl
  | cons c rest ih =>
      rw [List.splitOn_cons_eq_if_modifyHead]
      by_cases hc : c = '.'
      · rw [hc, splitLabels_dot, ih]
        rfl
      · obtain ⟨label, labels, hrest⟩ :=
          List.exists_cons_of_ne_nil (splitLabels_ne_nil rest)
        rw [splitLabels_cons hc hrest, ← ih, hrest]
        simp [hc]

/-- The labels of a name, from the lowest to the highest domain. -/
def labels (name : DnsName) : List (List Char) :=
  splitLabels name.chars

theorem intercalate_labels (name : DnsName) :
    ['.'].intercalate name.labels = name.chars := by
  rw [labels, splitLabels_eq_splitOn, List.intercalate_splitOn]

theorem intercalate_append {α : Type} {separator : List α}
    {front back : List (List α)} (hfront : front ≠ []) (hback : back ≠ []) :
    separator.intercalate (front ++ back) =
      separator.intercalate front ++ separator ++
        separator.intercalate back := by
  induction front with
  | nil => exact absurd rfl hfront
  | cons word rest ih =>
      by_cases hrest : rest = []
      · rw [hrest, List.singleton_append, List.intercalate_cons_of_ne_nil hback,
          List.intercalate_singleton]
      · have happend : rest ++ back ≠ [] := by simp [hrest]
        rw [List.cons_append, List.intercalate_cons_of_ne_nil happend, ih hrest,
          List.intercalate_cons_of_ne_nil hrest]
        simp only [List.append_assoc]

/-- The labels of a domain are the last ones of a name exactly if its text is
all of the name, or stands behind a dot of it. -/
theorem labels_suffix_iff :
    domain.labels <:+ name.labels ↔
      name.chars = domain.chars ∨ '.' :: domain.chars <:+ name.chars := by
  constructor
  · rintro ⟨front, hlabels⟩
    rw [← intercalate_labels name, ← hlabels]
    by_cases hfront : front = []
    · left
      rw [hfront, List.nil_append, intercalate_labels]
    · right
      have hback : domain.labels ≠ [] := splitLabels_ne_nil _
      rw [intercalate_append hfront hback, intercalate_labels,
        List.append_assoc]
      exact List.suffix_append _ _
  · rintro (hchars | ⟨front, hchars⟩)
    · rw [labels, labels, hchars]
    · rw [labels, labels, ← hchars, splitLabels_append_dot]
      exact List.suffix_append _ _

/-! ### Parents -/

theorem afterDot?_append (hlabel : '.' ∉ label) (rest : List Char) :
    afterDot? (label ++ '.' :: rest) = some rest := by
  induction label with
  | nil => rfl
  | cons c label ih =>
      rw [List.mem_cons, not_or] at hlabel
      rw [List.cons_append, afterDot?, if_neg (Ne.symm hlabel.1), ih hlabel.2]

theorem not_mem_of_afterDot?_eq_none (hnone : afterDot? cs = none) :
    '.' ∉ cs := by
  induction cs with
  | nil => exact List.not_mem_nil
  | cons c rest ih =>
      rw [afterDot?] at hnone
      split at hnone
      next => cases hnone
      next hc =>
        rw [List.mem_cons, not_or]
        exact ⟨Ne.symm hc, ih hnone⟩

theorem chars_injective (hchars : name.chars = domain.chars) :
    name = domain := by
  cases name
  cases domain
  cases hchars
  rfl

/-- The second name is the first one without its first label. -/
def HasParent (name parent : DnsName) : Prop :=
  name.parent? = some parent

theorem hasParent_iff :
    HasParent name parent ↔ ∃ label, '.' ∉ label ∧ name.chars = label ++
      '.' :: parent.chars := by
  constructor
  · exact exists_label_of_parent?
  · rintro ⟨label, hlabel, hchars⟩
    apply Option.pmap_eq_some_iff.mpr
    refine ⟨parent.chars, parent.isNormal, ?_, rfl⟩
    rw [hchars, afterDot?_append hlabel]

theorem length_lt_of_hasParent (hparent : HasParent name parent) :
    parent.chars.length < name.chars.length := by
  obtain ⟨label, _, hchars⟩ := hasParent_iff.mp hparent
  rw [hchars, List.length_append, List.length_cons]
  omega

/-- A text behind a dot of a name is its parent's, or stands behind a dot of
that. -/
theorem exists_hasParent_of_dot_suffix (hsuffix : '.' :: cs <:+ name.chars) :
    ∃ parent, HasParent name parent ∧
      (parent.chars = cs ∨ '.' :: cs <:+ parent.chars) := by
  have hdot : '.' ∈ name.chars := hsuffix.mem List.mem_cons_self
  cases hrest : afterDot? name.chars with
  | none => exact absurd hdot (not_mem_of_afterDot?_eq_none hrest)
  | some rest =>
      obtain ⟨label, hlabel, hchars⟩ := exists_of_afterDot? hrest
      have hparent : HasParent name ⟨rest, name.isNormal_of_afterDot? hrest⟩ :=
        hasParent_iff.mpr ⟨label, hlabel, hchars⟩
      rw [hchars] at hsuffix
      exact ⟨_, hparent, suffix_of_label hlabel hsuffix⟩

/-- A domain stands behind a dot of a name exactly if it is reached by leaving
out labels. -/
theorem dot_suffix_iff_transGen :
    '.' :: domain.chars <:+ name.chars ↔
      Relation.TransGen HasParent name domain := by
  constructor
  · intro hsuffix
    -- one label less at a time: the parent is a shorter name
    induction hlength : name.chars.length using Nat.strong_induction_on
      generalizing name with
    | h length ih =>
        obtain ⟨parent, hparent, hdomain | hbelow⟩ :=
          exists_hasParent_of_dot_suffix hsuffix
        · rw [← chars_injective hdomain]
          exact Relation.TransGen.single hparent
        · have hshorter := length_lt_of_hasParent hparent
          rw [hlength] at hshorter
          exact Relation.TransGen.head hparent (ih _ hshorter hbelow rfl)
  · intro hreached
    induction hreached with
    | single hparent => exact dot_suffix_of_parent? hparent (Or.inl rfl)
    | tail _ hparent ih =>
        have hlast := dot_suffix_of_parent? hparent (Or.inl rfl)
        exact hlast.trans ((List.suffix_cons _ _).trans ih)

/-! ### Constraints that are host names -/

theorem lower_of_ofChars? (hdomain : ofChars? text = some domain) :
    lower text = domain.chars := by
  rw [ofChars?] at hdomain
  split at hdomain
  next =>
    cases hdomain
    rfl
  next => cases hdomain

theorem isWithin_iff_of_lower_eq (hlower : lower text = domain.chars) :
    name.isWithin text = true ↔
      name.chars = domain.chars ∨ '.' :: domain.chars <:+ name.chars := by
  constructor
  · intro hwithin
    rcases isWithin_cases hwithin with hnil | ⟨rest, hdot, _⟩ | ⟨_, hdomain⟩
    · have hname := domain.isNormal.hostName
      rw [← hlower, hnil] at hname
      cases hname
    · have hnormal := domain.isNormal
      rw [← hlower, hdot] at hnormal
      exact absurd hnormal (not_isNormal_dot rest)
    · rwa [hlower] at hdomain
  · intro hdomain
    rw [← isWithin_lower, hlower]
    exact isWithin_of_domain domain.isNormal.lower_eq hdomain

theorem isWithin_dot_iff_of_lower_eq (hlower : lower text = domain.chars) :
    name.isWithin ('.' :: text) = true ↔
      '.' :: domain.chars <:+ name.chars := by
  have hdot : lower ('.' :: text) = '.' :: domain.chars :=
    congrArg (List.cons '.') hlower
  constructor
  · intro hwithin
    rcases isWithin_cases hwithin with hnil | ⟨rest, hrest, hsuffix⟩
        | ⟨hnodot, _⟩
    · cases hdot.symm.trans hnil
    · rwa [← hrest, hdot] at hsuffix
    · exact absurd hdot (hnodot _)
  · exact isWithin_of_dot_suffix hdot

theorem isWithin_chars_iff :
    name.isWithin domain.chars = true ↔
      name.chars = domain.chars ∨ '.' :: domain.chars <:+ name.chars :=
  isWithin_iff_of_lower_eq domain.isNormal.lower_eq

theorem isWithin_chars_iff_reflTransGen :
    name.isWithin domain.chars = true ↔
      Relation.ReflTransGen HasParent name domain := by
  rw [isWithin_chars_iff, dot_suffix_iff_transGen,
    Relation.reflTransGen_iff_eq_or_transGen]
  apply or_congr_left
  constructor
  · intro hchars
    exact (chars_injective hchars).symm
  · rintro rfl
    rfl

theorem length_lt_of_dot_suffix (hsuffix : '.' :: domain.chars <:+ name.chars) :
    domain.chars.length < name.chars.length := by
  have hlength := hsuffix.length_le
  rwa [List.length_cons] at hlength

/-- Containment orders the host names. -/
theorem isPartialOrder_isWithin :
    IsPartialOrder DnsName fun name domain => name.isWithin domain.chars =
      true where
  refl name := isWithin_chars_iff.mpr (Or.inl rfl)
  trans a b c hab hbc := by
    rw [isWithin_chars_iff_reflTransGen] at hab hbc ⊢
    exact hab.trans hbc
  antisymm a b hab hba := by
    rcases isWithin_chars_iff.mp hab with hchars | hbelow
    · exact chars_injective hchars
    · rcases isWithin_chars_iff.mp hba with hchars | habove
      · exact chars_injective hchars.symm
      · have hshorter := length_lt_of_dot_suffix hbelow
        exact absurd (length_lt_of_dot_suffix habove) (Nat.lt_asymm hshorter)

/-- A text that ends a name but begins inside a label of it does not contain the
name. -/
theorem not_isWithin_of_inside_label {front : List Char}
    (hchars : name.chars = front ++ domain.chars)
    (hfront : front ≠ []) (hinside : front.getLast? ≠ some '.') :
    name.isWithin domain.chars = false := by
  rw [Bool.eq_false_iff]
  intro hwithin
  rcases isWithin_chars_iff.mp hwithin with hwhole | ⟨before, hsuffix⟩
  · rw [hchars, List.append_left_eq_self] at hwhole
    exact hfront hwhole
  · rw [hchars, List.append_cons] at hsuffix
    have hlast : before ++ ['.'] = front := List.append_cancel_right hsuffix
    rw [← hlast, List.getLast?_concat] at hinside
    exact hinside rfl

/-- A host name as a constraint, in any letter case, covers the names from which
it is reached by leaving out first labels, itself included, and with a leading
dot those below it. So containment orders the host names; it means that the
labels of the domain are the last ones of the name, and no domain begins inside
a label. -/
theorem isWithin_iff_ancestor :
    (∀ (name domain : DnsName) (text : List Char), ofChars? text = some domain →
      (name.isWithin text = true ↔
        Relation.ReflTransGen HasParent name domain) ∧
      (name.isWithin ('.' :: text) = true ↔
        Relation.TransGen HasParent name domain)) ∧
    (∀ (name : DnsName) (text other : List Char), lower text = lower other →
      name.isWithin text = name.isWithin other) ∧
    (IsPartialOrder DnsName fun name domain =>
      name.isWithin domain.chars = true) ∧
    (∀ name domain : DnsName,
      name.isWithin domain.chars = true ↔ domain.labels <:+ name.labels) ∧
    ∀ (name domain : DnsName) (front : List Char),
      name.chars = front ++ domain.chars →
      front ≠ [] → front.getLast? ≠ some '.' →
      name.isWithin domain.chars = false := by
  refine ⟨?_, ?_, isPartialOrder_isWithin, ?_, ?_⟩
  · intro name domain text hdomain
    have hlower := lower_of_ofChars? hdomain
    rw [← isWithin_lower, hlower, isWithin_chars_iff_reflTransGen,
      isWithin_dot_iff_of_lower_eq hlower, dot_suffix_iff_transGen]
    exact ⟨Iff.rfl, Iff.rfl⟩
  · intro name text other hcase
    rw [← isWithin_lower, hcase, isWithin_lower]
  · intro name domain
    rw [isWithin_chars_iff, labels_suffix_iff]
  · intro name domain front hchars hfront hinside
    exact not_isWithin_of_inside_label hchars hfront hinside

/-- A host and its domain, in another letter case; and the end of the domain's
name from inside a label. -/
theorem host_below_site :
    ∃ host site tail : DnsName, ofChars? "mail.example.com".toList = some host ∧
      ofChars? "Example.COM".toList = some site ∧
      ofChars? "ample.com".toList = some tail ∧
      Relation.TransGen HasParent host site ∧
      ¬ Relation.TransGen HasParent host host ∧
      host.isWithin tail.chars = false := by
  obtain ⟨hancestor, _, _, _, hinside⟩ := isWithin_iff_ancestor
  have hhost : ofChars? "mail.example.com".toList =
      some ⟨"mail.example.com".toList, by decide, by decide⟩ := by decide
  have hsite : ofChars? "Example.COM".toList =
      some ⟨"example.com".toList, by decide, by decide⟩ := by
    decide
  have htail : ofChars? "ample.com".toList =
      some ⟨"ample.com".toList, by decide, by decide⟩ := by
    decide
  refine ⟨_, _, _, hhost, hsite, htail, ?_, ?_, ?_⟩
  · exact (hancestor _ _ _ hsite).2.mp (by decide)
  · exact mt (hancestor _ _ _ hhost).2.mpr (by decide)
  · exact hinside _ _ "mail.ex".toList (by decide) (by decide) (by decide)

end TrustPath.DnsName
