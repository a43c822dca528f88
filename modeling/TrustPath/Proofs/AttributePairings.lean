import TrustPath.Proofs.EncodingOrder
import TrustPath.Proofs.SpelledValues
import TrustPath.Proofs.Words

/-!
Names whose parts have the same attributes. A part is a set of attributes, but
two parts are compared place by place, each in the order of its encodings. So if
the attributes of one correspond to those of the other, letter case and white
space aside, the parts match only as far as the correspondence keeps the order.
-/

namespace TrustPath

open Der

/-! ### Attributes -/

namespace Attribute

variable {a b : Attribute}

/-- The value is an ASCII text. -/
def IsAsciiText (a : Attribute) : Prop :=
  ∃ s, a.valueText? = some s ∧ ∀ c ∈ s.toList, c.toNat < 128

/-- Two attributes have one type, and ASCII texts with the same words, letter
case aside. -/
structure Alike (a b : Attribute) : Prop where
  kind : a.kind = b.kind
  text : ∃ s t, a.valueText? = some s ∧ b.valueText? = some t ∧
    Text.SameWords s t

/-- Two attributes are alike, and their values have encodings of one length. -/
structure EvenlyAlike (a b : Attribute) : Prop extends Alike a b where
  length : a.value.encode.length = b.value.encode.length

theorem Alike.isAsciiText_left (halike : a.Alike b) : a.IsAsciiText := by
  obtain ⟨s, _, hs, _, hwords⟩ := halike.text
  exact ⟨s, hs, hwords.ascii_left⟩

theorem Alike.isAsciiText_right (halike : a.Alike b) : b.IsAsciiText := by
  obtain ⟨_, t, _, ht, hwords⟩ := halike.text
  exact ⟨t, ht, hwords.ascii_right⟩

theorem IsAsciiText.isComparable (ha : a.IsAsciiText) :
    a.isComparable = true := by
  obtain ⟨s, hs, _⟩ := ha
  rw [Attribute.isComparable, hs]
  rfl

theorem isMatch_self (ha : a.IsAsciiText) : a.isMatch a = true :=
  isMatch_iff.mpr ⟨rfl, ha.isComparable, ha.isComparable, rfl⟩

/-- ASCII texts match if the attributes are alike. -/
theorem isMatch_iff_alike (ha : a.IsAsciiText) (hb : b.IsAsciiText) :
    a.isMatch b = true ↔ a.Alike b := by
  rw [isMatch_iff, and_iff_right ha.isComparable, and_iff_right hb.isComparable]
  obtain ⟨s, hs, hsAscii⟩ := ha
  obtain ⟨t, ht, htAscii⟩ := hb
  rw [comparisonText_eq_of_valueText?_eq_some hs,
    comparisonText_eq_of_valueText?_eq_some ht,
    Text.fold_eq_iff hsAscii htAscii]
  constructor
  · rintro ⟨hkind, hwords⟩
    exact ⟨hkind, s, t, hs, ht, hwords⟩
  · rintro ⟨hkind, s', t', hs', ht', hwords⟩
    rw [Option.some.inj (hs.symm.trans hs'),
      Option.some.inj (ht.symm.trans ht')]
    exact ⟨hkind, hwords⟩

end Attribute

/-! ### Parts of names -/

namespace RelativeName

variable {p q : RelativeName}

/-- The attributes of one part correspond to those of another, one to one. -/
def Corresponds (p q : RelativeName) : Prop :=
  ∃ paired, paired.Perm q ∧ List.Forall₂ Attribute.Alike p paired

/-- There is a correspondence that keeps the order of the encodings. -/
def CorrespondsInOrder (p q : RelativeName) : Prop :=
  ∃ paired, paired.Perm q ∧ List.Forall₂ Attribute.Alike p paired ∧
    paired.Pairwise fun a b => a.le b = true

/-- Why a correspondence keeps the order: there is but one attribute, or the
attributes differ in type and are written in values of the same lengths. -/
inductive IsUndisturbed (p q : RelativeName) : Prop where
  | single (length : p.length ≤ 1)
  | distinct (kinds : p.Pairwise fun a b => a.kind ≠ b.kind)
      (even : ∃ paired, paired.Perm q ∧
        List.Forall₂ Attribute.EvenlyAlike p paired)

theorem Corresponds.isAsciiText_left (hpairs : Corresponds p q) :
    ∀ a ∈ p, a.IsAsciiText := by
  obtain ⟨paired, _, halike⟩ := hpairs
  exact forall_mem_of_forall₂
    (fun _ _ => Attribute.Alike.isAsciiText_left) halike

theorem Corresponds.isAsciiText_right (hpairs : Corresponds p q) :
    ∀ b ∈ q, b.IsAsciiText := by
  obtain ⟨paired, hperm, halike⟩ := hpairs
  intro b hb
  exact forall_mem_of_forall₂
    (fun _ _ hab => Attribute.Alike.isAsciiText_right hab) halike.flip b
    (hperm.symm.subset hb)

theorem CorrespondsInOrder.isMatch (hq : IsCanonical q)
    (hpairs : CorrespondsInOrder p q) : isMatch p q = true := by
  obtain ⟨paired, hperm, halike, hsorted⟩ := hpairs
  rw [hq.eq_of_perm hperm hsorted] at halike
  refine isMatch_iff.mpr (Or.inr (halike.imp ?_))
  intro a b hab
  exact (Attribute.isMatch_iff_alike hab.isAsciiText_left
    hab.isAsciiText_right).mpr hab

/-- Parts with corresponding attributes match exactly if they correspond in the
order of their encodings. -/
theorem isMatch_iff_correspondsInOrder (hq : IsCanonical q)
    (hpairs : Corresponds p q) : isMatch p q = true ↔
      CorrespondsInOrder p q := by
  constructor
  · intro hmatch
    have hplaces : List.Forall₂ (fun a b => a.isMatch b = true) p q := by
      rcases isMatch_iff.mp hmatch with rfl | hplaces
      · refine List.forall₂_same.mpr fun a ha => ?_
        exact Attribute.isMatch_self (hpairs.isAsciiText_left a ha)
      · exact hplaces
    have hleft := (List.forall₂_and_left _ _).mpr ⟨hpairs.isAsciiText_left,
        hplaces⟩
    have hright := (List.forall₂_and_left _ _).mpr ⟨hpairs.isAsciiText_right,
        hleft.flip⟩
    refine ⟨q, List.Perm.refl q, hright.flip.imp ?_, hq.sorted⟩
    rintro a b ⟨hb, ha, hab⟩
    exact (Attribute.isMatch_iff_alike ha hb).mp hab
  · exact CorrespondsInOrder.isMatch hq

/-- Between attributes of different types nothing but the lengths of the values
counts. -/
theorem IsUndisturbed.correspondsInOrder (hp : IsCanonical p)
    (hpairs : Corresponds p q) (hundisturbed : IsUndisturbed p q) :
    CorrespondsInOrder p q := by
  cases hundisturbed with
  | single hlength =>
      obtain ⟨paired, hperm, halike⟩ := hpairs
      refine ⟨paired, hperm, halike, ?_⟩
      rw [halike.length_eq] at hlength
      cases paired with
      | nil => exact List.Pairwise.nil
      | cons a rest =>
          have hrest : rest = [] :=
            List.eq_nil_of_length_eq_zero (by simpa using hlength)
          rw [hrest]
          exact List.pairwise_singleton _ a
  | distinct hkinds heven =>
      obtain ⟨paired, hperm, halike⟩ := heven
      refine ⟨paired, hperm, halike.imp fun a b hab => hab.toAlike, ?_⟩
      have hboth := (List.forall₂_and_left _ _).mpr ⟨hp.encodable, halike⟩
      refine pairwise_of_forall₂ ?_ hboth (hp.sorted.and hkinds)
      rintro a b a' b' ⟨ha, haa'⟩ ⟨hb, hbb'⟩ ⟨hle, hne⟩
      rw [Attribute.le_eq_of_kind_ne ha hb hne haa'.kind haa'.length hbb'.kind
        hbb'.length]
      exact hle

end RelativeName

/-- Names whose parts have corresponding attributes match exactly if the
attributes of every part correspond in the order of their encodings; so they do
where a part has one attribute, or attributes of different types whose values
have the same lengths. -/
theorem corresponding_names_match_iff {e f : Element} {l r : Name}
    (hl : Name.ofElement? e = some l) (hr : Name.ofElement? f = some r)
    (hpairs : List.Forall₂ RelativeName.Corresponds l.rdns r.rdns) :
    (l.isMatch r = true ↔
      List.Forall₂ RelativeName.CorrespondsInOrder l.rdns r.rdns) ∧
      (List.Forall₂ RelativeName.IsUndisturbed l.rdns r.rdns →
        l.isMatch r = true) := by
  have hleft := Name.isCanonical_of_ofElement?_eq_some hl
  have hright := Name.isCanonical_of_ofElement?_eq_some hr
  have hplaces : List.Forall₂
      (fun p q => RelativeName.IsCanonical p ∧ RelativeName.IsCanonical q ∧
        RelativeName.Corresponds p q)
      l.rdns r.rdns :=
    (List.forall₂_and_left _ _).mpr
      ⟨hleft, ((List.forall₂_and_left _ _).mpr ⟨hright, hpairs.flip⟩).flip⟩
  have hmatch : l.isMatch r = true ↔
      List.Forall₂ RelativeName.CorrespondsInOrder l.rdns r.rdns := by
    rw [Name.isMatch_iff]
    apply forall₂_congr_of_places
    refine hplaces.imp ?_
    rintro p q ⟨_, hq, hcorresponds⟩
    exact RelativeName.isMatch_iff_correspondsInOrder hq hcorresponds
  refine ⟨hmatch, ?_⟩
  intro hundisturbed
  rw [hmatch]
  refine List.Forall₂.mp ?_ hplaces hundisturbed
  rintro p q ⟨hp, _, hcorresponds⟩ hparts
  exact hparts.correspondsInOrder hp hcorresponds

namespace AttributePairings

/-- A name of one part, with a common name and an organization. -/
def member (commonName organization : Bytes) : Name :=
  ⟨[[⟨⟨[0x55, 0x04, 0x03]⟩, ⟨.utf8String, commonName⟩⟩,
    ⟨⟨[0x55, 0x04, 0x0a]⟩, ⟨.utf8String, organization⟩⟩]]⟩

def pair (first second : Bytes) : Name :=
  ⟨[[⟨⟨[0x55, 0x04, 0x03]⟩, ⟨.utf8String, first⟩⟩,
    ⟨⟨[0x55, 0x04, 0x03]⟩, ⟨.utf8String, second⟩⟩]]⟩

theorem alike {kind : Oid} {as bs : Bytes} {s t : String}
    (hs : Bytes.text? as = some s) (ht : Bytes.text? bs = some t)
    (hwords : Text.SameWords s t) : Attribute.Alike ⟨kind, ⟨.utf8String, as⟩⟩
      ⟨kind, ⟨.utf8String, bs⟩⟩ :=
  ⟨rfl, s, t, hs, ht, hwords⟩

/-- A common name and an organization, and the same with every letter in the
other case. -/
def person : Name := member [0x41, 0x62] [0x43, 0x6f]
def recased : Name := member [0x61, 0x42] [0x63, 0x4f]

/-- In a part with attributes of two types the letters may be of either case. -/
theorem letter_case_ignored :
    Name.ofElement? person.toElement = some person ∧
      Name.ofElement? recased.toElement = some recased ∧
      List.Forall₂ RelativeName.Corresponds person.rdns recased.rdns ∧
      person.isMatch recased = true := by
  have hl : Name.ofElement? person.toElement = some person := by
    apply Name.ofElement?_toElement
    decide +kernel
  have hr : Name.ofElement? recased.toElement = some recased := by
    apply Name.ofElement?_toElement
    decide +kernel
  have hname : Text.SameWords "Ab" "aB" := ⟨by simp, by simp, by decide +kernel⟩
  have horganization : Text.SameWords "Co" "cO" :=
    ⟨by simp, by simp, by decide +kernel⟩
  have heven : List.Forall₂ (List.Forall₂ Attribute.EvenlyAlike) person.rdns
      recased.rdns := by
    refine .cons (.cons ⟨?_, rfl⟩ (.cons ⟨?_, rfl⟩ .nil)) .nil
    · exact alike (by decide +kernel) (by decide +kernel) hname
    · exact alike (by decide +kernel) (by decide +kernel) horganization
  have hpairs : List.Forall₂ RelativeName.Corresponds person.rdns
      recased.rdns :=
    heven.imp fun p q hparts =>
      ⟨q, List.Perm.refl q, hparts.imp fun a b hab => hab.toAlike⟩
  refine ⟨hl, hr, hpairs, (corresponding_names_match_iff hl hr hpairs).2 ?_⟩
  obtain ⟨hparts, _⟩ := List.forall₂_cons.mp heven
  exact .cons (.distinct (by decide +kernel) ⟨_, List.Perm.refl _, hparts⟩) .nil

/-- The common names B and a correspond to A and b, but in another order. -/
theorem order_disturbed :
    Name.ofElement? (pair [0x42] [0x61]).toElement = some (pair [0x42] [0x61]) ∧
      Name.ofElement? (pair [0x41] [0x62]).toElement =
        some (pair [0x41] [0x62]) ∧
      List.Forall₂ RelativeName.Corresponds (pair [0x42] [0x61]).rdns
        (pair [0x41] [0x62]).rdns ∧
      (pair [0x42] [0x61]).isMatch (pair [0x41] [0x62]) = false := by
  have ha : Text.SameWords "a" "A" := ⟨by simp, by simp, by decide +kernel⟩
  have hb : Text.SameWords "B" "b" := ⟨by simp, by simp, by decide +kernel⟩
  refine ⟨?_, ?_, .cons ⟨_, List.Perm.swap _ _ [], .cons ?_ (.cons ?_ .nil)⟩
    .nil, by decide +kernel⟩
  · apply Name.ofElement?_toElement
    decide +kernel
  · apply Name.ofElement?_toElement
    decide +kernel
  · exact alike (by decide +kernel) (by decide +kernel) hb
  · exact alike (by decide +kernel) (by decide +kernel) ha

end AttributePairings

end TrustPath
