import Mathlib.Data.List.Forall2
import TrustPath.Name.Matching

/-!
Laws of name matching. Names match if their parts do, place by place, and parts
match if they are equal or their attributes match, place by place; so what is to
be known of names is known of attributes. Matching is an equivalence of names,
although an attribute that cannot be compared does not match itself.
-/

namespace TrustPath

/-! ### Lists that match place by place -/

section

variable {α : Type} {R S T : α → α → Prop} {P : α → Prop} {as bs cs : List α}

theorem forall₂_symm (hsymm : ∀ a b, R a b → R b a)
    (hall : List.Forall₂ R as bs) : List.Forall₂ R bs as :=
  (hall.imp hsymm).flip

theorem forall₂_trans (htrans : ∀ a b c, R a b → R b c → R a c)
    (hleft : List.Forall₂ R as bs) (hright : List.Forall₂ R bs cs) :
    List.Forall₂ R as cs := by
  induction hleft generalizing cs with
  | nil => exact hright
  | cons hab _ ih =>
      cases hright with
      | cons hbc hrest => exact .cons (htrans _ _ _ hab hbc) (ih hrest)

theorem forall_mem_of_forall₂ (hleft : ∀ a b, R a b → P a)
    (hpairs : List.Forall₂ R as bs) : ∀ a ∈ as, P a := by
  have hboth : List.Forall₂ (fun a b => P a ∧ R a b) as bs :=
    hpairs.imp fun a b hab => ⟨hleft a b hab, hab⟩
  exact ((List.forall₂_and_left _ _).mp hboth).1

/-- What holds between the places of one list holds between those of another, if
it passes from pairs to pairs. -/
theorem pairwise_of_forall₂
    (hpass : ∀ a b a' b', R a a' → R b b' → S a b → T a' b')
    (hpairs : List.Forall₂ R as bs) (hleft : as.Pairwise S) :
    bs.Pairwise T := by
  induction hpairs with
  | nil => exact List.Pairwise.nil
  | @cons a a' rest rest' hfirst hrest ih =>
      obtain ⟨hbefore, hpairwise⟩ := List.pairwise_cons.mp hleft
      have hbehind : List.Forall₂ (fun b b' => S a b ∧ R b b') rest rest' :=
        (List.forall₂_and_left _ _).mpr ⟨hbefore, hrest⟩
      rw [List.pairwise_cons]
      refine ⟨forall_mem_of_forall₂ ?_ hbehind.flip, ih hpairwise⟩
      intro b' b hb
      exact hpass a b a' b' hfirst hb.2 hb.1

theorem forall₂_congr_of_places
    (hplaces : List.Forall₂ (fun a b => R a b ↔ S a b) as bs) :
    List.Forall₂ R as bs ↔ List.Forall₂ S as bs := by
  constructor
  · intro hleft
    exact List.Forall₂.mp (fun a b hab => hab.mp) hplaces hleft
  · intro hright
    exact List.Forall₂.mp (fun a b hab => hab.mpr) hplaces hright

/-- The test of two lists is the relation of their members. -/
theorem forall₂_iff_all_zip {test : α → α → Bool} :
    List.Forall₂ (fun a b => test a b = true) as bs ↔
      as.length = bs.length ∧
        ((as.zip bs).all fun pair => test pair.1 pair.2) = true := by
  rw [List.forall₂_iff_zip, List.all_eq_true]
  refine and_congr_right fun _ => ⟨?_, ?_⟩
  · intro htests pair hpair
    exact htests hpair
  · intro htests a b hpair
    exact htests (a, b) hpair

end

/-! ### Attributes -/

namespace Attribute

variable {a b c : Attribute}

theorem isMatch_iff :
    a.isMatch b = true ↔
      a.kind = b.kind ∧ a.isComparable = true ∧ b.isComparable = true ∧
        Text.fold a.comparisonText = Text.fold b.comparisonText := by
  simp only [isMatch, Bool.and_eq_true, decide_eq_true_iff, and_assoc]

theorem isMatch_symm (hmatch : a.isMatch b = true) : b.isMatch a = true := by
  obtain ⟨hkind, ha, hb, htext⟩ := isMatch_iff.mp hmatch
  exact isMatch_iff.mpr ⟨hkind.symm, hb, ha, htext.symm⟩

theorem isMatch_trans (hleft : a.isMatch b = true)
    (hright : b.isMatch c = true) : a.isMatch c = true := by
  obtain ⟨hkind, ha, _, htext⟩ := isMatch_iff.mp hleft
  obtain ⟨hkind', _, hc, htext'⟩ := isMatch_iff.mp hright
  exact isMatch_iff.mpr ⟨hkind.trans hkind', ha, hc, htext.trans htext'⟩

end Attribute

/-! ### Relative names -/

namespace RelativeName

variable {a b c : RelativeName}

theorem isMatch_iff :
    isMatch a b = true ↔
      a = b ∨ List.Forall₂ (fun x y => Attribute.isMatch x y = true) a b := by
  rw [isMatch, Bool.and_eq_true, Bool.or_eq_true, decide_eq_true_iff,
    decide_eq_true_iff, forall₂_iff_all_zip, and_or_left]
  refine or_congr_left ⟨And.right, ?_⟩
  rintro rfl
  exact ⟨rfl, rfl⟩

theorem isMatch_self (a : RelativeName) : isMatch a a = true :=
  isMatch_iff.mpr (Or.inl rfl)

theorem isMatch_symm (hmatch : isMatch a b = true) : isMatch b a = true := by
  rw [isMatch_iff] at hmatch ⊢
  rcases hmatch with rfl | hmatch
  · exact Or.inl rfl
  · exact Or.inr (forall₂_symm (fun _ _ => Attribute.isMatch_symm) hmatch)

/-- An equal part in between hides nothing: only two matches of attributes have
to be put together. -/
theorem isMatch_trans (hleft : isMatch a b = true)
    (hright : isMatch b c = true) : isMatch a c = true := by
  rw [isMatch_iff] at hleft
  rcases hleft with rfl | hleft
  · exact hright
  · rw [isMatch_iff] at hright
    rcases hright with rfl | hright
    · exact isMatch_iff.mpr (Or.inr hleft)
    · refine isMatch_iff.mpr (Or.inr (forall₂_trans ?_ hleft hright))
      intro x y z
      exact Attribute.isMatch_trans

end RelativeName

/-! ### Names -/

namespace Name

variable {a b : Name}

theorem isMatch_iff :
    a.isMatch b = true ↔
      List.Forall₂ (fun l r => RelativeName.isMatch l r = true) a.rdns
        b.rdns := by
  rw [isMatch, Bool.and_eq_true, decide_eq_true_iff, forall₂_iff_all_zip]

theorem isMatch_self (name : Name) : name.isMatch name = true :=
  isMatch_iff.mpr (List.forall₂_same.mpr fun rdn _ =>
    RelativeName.isMatch_self rdn)

theorem isMatch_symm (hmatch : a.isMatch b = true) : b.isMatch a = true :=
  isMatch_iff.mpr (forall₂_symm (fun _ _ => RelativeName.isMatch_symm)
    (isMatch_iff.mp hmatch))

theorem isMatch_eq_false_of_length_ne
    (hlength : a.rdns.length ≠ b.rdns.length) : a.isMatch b = false := by
  simp [isMatch, hlength]

/-- Matching is an equivalence of names, and answers alike in both
directions. -/
theorem isMatch_equivalence :
    (Equivalence fun a b : Name => a.isMatch b = true) ∧
      ∀ a b : Name, a.isMatch b = b.isMatch a := by
  refine ⟨⟨isMatch_self, isMatch_symm, ?_⟩, ?_⟩
  · intro a b c hleft hright
    rw [isMatch_iff] at hleft hright ⊢
    refine forall₂_trans ?_ hleft hright
    intro l m r
    exact RelativeName.isMatch_trans
  · intro a b
    rw [Bool.eq_iff_iff]
    exact ⟨isMatch_symm, isMatch_symm⟩

end Name

end TrustPath
