import TrustPath.Proofs.DerElements
import TrustPath.Proofs.NameMatching
import TrustPath.Proofs.PlainText

/-!
What names that match have in common. Place by place, their attributes have one
type, and texts that are equal when folded or values with one encoding; with one
exception, for the text of an encoding is compared like any other text. A value
whose own text is that text matches the value it spells, which is no text.
-/

namespace TrustPath

namespace Attribute

/-- Two attributes are the same: of one type, with texts that are equal when
folded, or with one encoding. -/
structure Same (a b : Attribute) : Prop where
  kind : a.kind = b.kind
  value : (∃ s t, a.valueText? = some s ∧ b.valueText? = some t ∧
    Text.fold s = Text.fold t) ∨ a.value.encode = b.value.encode

/-- The text of one attribute spells the value of another of its type, which is
no text: folded, it is the type, two signs, and the base-16 digits of the
encoding. -/
structure Spells (a b : Attribute) : Prop where
  kind : a.kind = b.kind
  text : ∃ s, a.valueText? = some s ∧
    Text.fold s = (b.kind.text ++ "=#" ++ Bytes.hex b.value.encode).toList
  noText : b.valueText? = none
  encodable : b.value.encode.length ≤ Der.maxLength

variable {a b : Attribute}

theorem Same.refl (a : Attribute) : a.Same a :=
  ⟨rfl, Or.inr rfl⟩

theorem Same.symm (hsame : a.Same b) : b.Same a := by
  refine ⟨hsame.kind.symm, ?_⟩
  rcases hsame.value with ⟨s, t, hs, ht, hfold⟩ | hencode
  · exact Or.inl ⟨t, s, ht, hs, hfold.symm⟩
  · exact Or.inr hencode.symm

theorem comparisonText_eq_of_valueText?_eq_some {text : String}
    (htext : a.valueText? = some text) : a.comparisonText = text := by
  rw [comparisonText, htext, Option.getD_some]

theorem comparisonText_eq_of_valueText?_eq_none (hnone : a.valueText? = none) :
    a.comparisonText = a.opaqueText := by
  rw [comparisonText, hnone, Option.getD_none]

theorem encodable_of_isComparable (hcomparable : a.isComparable = true)
    (hnone : a.valueText? = none) :
    a.value.encode.length ≤ Der.maxLength := by
  simpa [isComparable, hnone] using hcomparable

/-- Attributes that match are the same, unless one spells the other. -/
theorem same_or_spells_of_isMatch (hmatch : a.isMatch b = true) :
    a.Same b ∨ a.Spells b ∨ b.Spells a := by
  obtain ⟨hkind, ha, hb, hfold⟩ := isMatch_iff.mp hmatch
  cases hleft : a.valueText? with
  | some s =>
      rw [comparisonText_eq_of_valueText?_eq_some hleft] at hfold
      cases hright : b.valueText? with
      | some t =>
          rw [comparisonText_eq_of_valueText?_eq_some hright] at hfold
          exact Or.inl ⟨hkind, Or.inl ⟨s, t, hleft, hright, hfold⟩⟩
      | none =>
          rw [comparisonText_eq_of_valueText?_eq_none hright, fold_opaqueText]
            at hfold
          exact Or.inr (Or.inl
            ⟨hkind, ⟨s, hleft, hfold⟩, hright,
              encodable_of_isComparable hb hright⟩)
  | none =>
      rw [comparisonText_eq_of_valueText?_eq_none hleft, fold_opaqueText]
        at hfold
      cases hright : b.valueText? with
      | some t =>
          rw [comparisonText_eq_of_valueText?_eq_some hright] at hfold
          exact Or.inr (Or.inr
            ⟨hkind.symm, ⟨t, hright, hfold.symm⟩, hleft,
              encodable_of_isComparable ha hleft⟩)
      | none =>
          rw [comparisonText_eq_of_valueText?_eq_none hright, fold_opaqueText,
            String.toList_inj]
            at hfold
          exact Or.inl ⟨hkind, Or.inr (encode_eq_of_opaqueText_eq hkind hfold)⟩

theorem Spells.isMatch (hspells : a.Spells b) : a.isMatch b = true := by
  obtain ⟨s, hs, hfold⟩ := hspells.text
  refine isMatch_iff.mpr ⟨hspells.kind, ?_, ?_, ?_⟩
  · rw [isComparable, hs]
    rfl
  · rw [isComparable, hspells.noText]
    exact decide_eq_true hspells.encodable
  · rw [comparisonText_eq_of_valueText?_eq_some hs,
      comparisonText_eq_of_valueText?_eq_none hspells.noText,
      fold_opaqueText, hfold]
    rfl

/-- A text and a value that is none are not the same, whatever the text says. -/
theorem Spells.not_same (hspells : a.Spells b) : ¬ a.Same b := by
  intro hsame
  obtain ⟨s, hs, _⟩ := hspells.text
  rcases hsame.value with ⟨_, t, _, ht, _⟩ | hencode
  · rw [hspells.noText] at ht
    cases ht
  · have hvalue := Der.Element.encode_injective hencode
    rw [valueText?, hvalue, ← valueText?, hspells.noText] at hs
    cases hs

end Attribute

/-- Names that match have as many parts, and these as many attributes, and place
by place the attributes are the same or one spells the other. So matching names
are the same in all places exactly if in none of them one attribute spells the
other. -/
theorem matching_names_same_or_spelled (a b : Name)
    (hmatch : a.isMatch b = true) :
    List.Forall₂ (List.Forall₂ fun x y => x.Same y ∨ x.Spells y ∨ y.Spells x)
      a.rdns b.rdns ∧
    (List.Forall₂ (List.Forall₂ Attribute.Same) a.rdns b.rdns ↔
      List.Forall₂ (List.Forall₂ fun x y => ¬ x.Spells y ∧ ¬ y.Spells x) a.rdns
        b.rdns) := by
  have hplaces : List.Forall₂ (List.Forall₂ fun x y => x.Same y ∨ x.Spells y ∨
      y.Spells x)
      a.rdns b.rdns := by
    refine (Name.isMatch_iff.mp hmatch).imp ?_
    intro l r hparts
    rcases RelativeName.isMatch_iff.mp hparts with rfl | hparts
    · exact List.forall₂_same.mpr fun x _ => Or.inl (Attribute.Same.refl x)
    · exact hparts.imp fun x y => Attribute.same_or_spells_of_isMatch
  refine ⟨hplaces, ?_, ?_⟩
  · intro hsame
    refine hsame.imp fun l r hparts => hparts.imp fun x y hattributes =>
      ⟨?_, ?_⟩
    · exact fun hspells => hspells.not_same hattributes
    · exact fun hspells => hspells.not_same hattributes.symm
  · intro hnone
    refine List.Forall₂.mp (fun l r hparts => ?_) hplaces hnone
    refine List.Forall₂.mp (fun x y hattributes => ?_) hparts
    rintro ⟨hleft, hright⟩
    rcases hattributes with hsame | hspells | hspells
    · exact hsame
    · exact absurd hspells hleft
    · exact absurd hspells hright

namespace SpelledValues

def text : Attribute :=
  ⟨⟨[0x55, 0x04, 0x03]⟩,
    ⟨.utf8String, "2.5.4.3=#1e020041".toList.map fun c => UInt8.ofNat c.toNat⟩⟩

/-- The common name A in two-octet characters, which are not read as text. -/
def wide : Attribute :=
  ⟨⟨[0x55, 0x04, 0x03]⟩, ⟨⟨0x1e⟩, [0x00, 0x41]⟩⟩

theorem text_spells_wide : text.Spells wide where
  kind := rfl
  text := ⟨"2.5.4.3=#1e020041", by decide +kernel, by decide +kernel⟩
  noText := rfl
  encodable := by decide

def country (value : Der.Element) : Name :=
  ⟨[[⟨⟨[0x55, 0x04, 0x06]⟩, value⟩]]⟩

/-- Two ways to write a country are the same. -/
theorem countries_same :
    (country ⟨.printableString, [0x58, 0x58]⟩).isMatch
        (country ⟨.utf8String, [0x78, 0x78, 0x20]⟩) = true ∧
      List.Forall₂ (List.Forall₂ Attribute.Same)
        (country ⟨.printableString, [0x58, 0x58]⟩).rdns
        (country ⟨.utf8String, [0x78, 0x78, 0x20]⟩).rdns := by
  have hmatch : (country ⟨.printableString, [0x58, 0x58]⟩).isMatch
      (country ⟨.utf8String, [0x78, 0x78, 0x20]⟩) = true := by
    decide +kernel
  have hnone {x y : Attribute} (htext : x.valueText?.isSome = true) :
      ¬ y.Spells x := by
    intro hspells
    rw [hspells.noText] at htext
    cases htext
  refine ⟨hmatch, (matching_names_same_or_spelled _ _ hmatch).2.mpr ?_⟩
  exact .cons (.cons ⟨hnone (by decide +kernel), hnone (by decide +kernel)⟩
    .nil) .nil

/-- A text matches a value of another kind, with another encoding. -/
theorem text_matches_wide :
    Name.isMatch ⟨[[text]]⟩ ⟨[[wide]]⟩ = true ∧
      text.value.encode ≠ wide.value.encode ∧ wide.valueText? = none ∧
      ¬ List.Forall₂ (List.Forall₂ Attribute.Same) [[text]] [[wide]] := by
  refine ⟨?_, by decide, rfl, ?_⟩
  · refine Name.isMatch_iff.mpr
      (.cons (RelativeName.isMatch_iff.mpr (Or.inr ?_)) .nil)
    exact .cons text_spells_wide.isMatch .nil
  · intro hsame
    cases hsame with
    | cons hparts _ =>
        cases hparts with
        | cons hattributes _ => exact text_spells_wide.not_same hattributes

end SpelledValues

end TrustPath
