import Mathlib.Data.List.Forall2
import TrustPath.Name
import TrustPath.Proofs.DerElements

/-!
The order in which a set is encoded. Octets are compared from the first place on
where they differ, so two encodings of different types of attribute are put in
order before their values are looked at, by their lengths and then by the types.
-/

namespace TrustPath

/-! ### The order of octets -/

namespace Bytes

variable {as bs cs ds : Bytes}

/-- Octets are in the order of lists. -/
theorem le_iff : le as bs = true ↔ as ≤ bs := by
  induction as generalizing bs with
  | nil => exact iff_of_true rfl (List.nil_le bs)
  | cons a as ih =>
      cases bs with
      | nil =>
          exact iff_of_false Bool.false_ne_true
            (List.not_le.mpr (List.nil_lt_cons a as))
      | cons b bs =>
          rw [le, List.cons_le_cons_iff, ← ih, UInt8.lt_iff_toNat_lt,
            ← UInt8.toNat_inj]
          by_cases hless : a.toNat < b.toNat
          · rw [if_pos hless]
            exact iff_of_true rfl (Or.inl hless)
          · by_cases hgreater : b.toNat < a.toNat
            · rw [if_neg hless, if_pos hgreater]
              apply iff_of_false Bool.false_ne_true
              omega
            · have heq : a.toNat = b.toNat := by omega
              rw [if_neg hless, if_neg hgreater, or_iff_right hless,
                and_iff_right heq]

theorem le_total (as bs : Bytes) : (le as bs || le bs as) = true := by
  rw [Bool.or_eq_true, le_iff, le_iff]
  exact List.le_total as bs

theorem le_trans (hleft : le as bs = true) (hright : le bs cs = true) :
    le as cs = true :=
  le_iff.mpr (List.le_trans (le_iff.mp hleft) (le_iff.mp hright))

theorem le_antisymm (hleft : le as bs = true) (hright : le bs as = true) :
    as = bs :=
  List.le_antisymm (le_iff.mp hleft) (le_iff.mp hright)

/-- What stands behind two beginnings does not count if the beginnings differ in
a place. -/
theorem le_append_of_not_prefix (has : ¬ as <+: bs) (hbs : ¬ bs <+: as)
    (cs ds : Bytes) : le (as ++ cs) (bs ++ ds) = le as bs := by
  induction as generalizing bs with
  | nil => exact absurd List.nil_prefix has
  | cons a as ih =>
      cases bs with
      | nil => exact absurd List.nil_prefix hbs
      | cons b bs =>
          rw [List.cons_append, List.cons_append, le, le]
          by_cases hab : a = b
          · cases hab
            rw [List.cons_prefix_cons, and_iff_right rfl] at has hbs
            rw [ih has hbs]
          · have hne : a.toNat ≠ b.toNat := fun heq =>
              hab (UInt8.toNat_inj.mp heq)
            by_cases hless : a.toNat < b.toNat
            · rw [if_pos hless, if_pos hless]
            · have hgreater : b.toNat < a.toNat := by omega
              rw [if_neg hless, if_neg hless, if_pos hgreater, if_pos hgreater]

end Bytes

open Der

/-! ### Attributes -/

namespace Attribute

variable {a b a' b' : Attribute} {e : Element}

/-- The octets of an attribute before those of its value: those that announce
the length of the whole, and its type. -/
def beginning (a : Attribute) : Bytes :=
  Tag.sequence.octet :: encodeLength a.toElement.contents.length ++
    (oidElement a.kind).encode

/-- The attribute is read back from what it is written as, and that is not too
long. -/
structure IsEncodable (a : Attribute) : Prop where
  read : ofElement? a.toElement = some a
  fits : a.toElement.Fits

instance (a : Attribute) : Decidable a.IsEncodable :=
  decidable_of_iff (ofElement? a.toElement = some a ∧ a.toElement.Fits)
    ⟨fun h => ⟨h.1, h.2⟩, fun h => ⟨h.read, h.fits⟩⟩

theorem contents_toElement (a : Attribute) :
    a.toElement.contents = (oidElement a.kind).encode ++ a.value.encode := by
  rw [toElement, Element.around, encodeAll_cons, encodeAll_cons, encodeAll,
    List.flatMap_nil, List.append_nil]

theorem encode_toElement (a : Attribute) :
    a.toElement.encode = a.beginning ++ a.value.encode := by
  rw [Element.encode, contents_toElement, beginning, contents_toElement,
    List.append_assoc]
  rfl

/-- An attribute is read from its own encoding only. -/
theorem of_ofElement?_eq_some (hread : ofElement? e = some a) :
    e = a.toElement ∧ (oidElement a.kind).Fits := by
  obtain ⟨es, hes, hinside⟩ := Option.bind_eq_some_iff.mp hread
  obtain ⟨rfl, hfits⟩ := Element.sequence?_eq_some_iff.mp hes
  split at hinside
  next kind value =>
    obtain ⟨oid, hoid, hvalue⟩ := Option.bind_eq_some_iff.mp hinside
    cases hvalue
    rw [eq_oidElement_of_oid? hoid] at hfits ⊢
    exact ⟨rfl, hfits _ List.mem_cons_self⟩
  next => cases hinside

theorem isEncodable_of_ofElement?_eq_some (hread : ofElement? e = some a)
    (hfits : e.Fits) : a.IsEncodable := by
  obtain ⟨rfl, _⟩ := of_ofElement?_eq_some hread
  exact ⟨hread, hfits⟩

/-- Attributes that precede each other are one. -/
theorem le_antisymm (ha : a.IsEncodable) (hb : b.IsEncodable)
    (hle : a.le b = true) (hge : b.le a = true) : a = b := by
  have hencode := Element.encode_injective (Bytes.le_antisymm hle hge)
  have hread := ha.read
  rw [hencode, hb.read] at hread
  exact (Option.some.inj hread).symm

theorem IsEncodable.fits_kind (ha : a.IsEncodable) : (oidElement a.kind).Fits :=
  (of_ofElement?_eq_some ha.read).2

/-- The type can be read off the beginning, so no beginning continues that of
another type. -/
theorem not_beginning_prefix (ha : a.IsEncodable) (hb : b.IsEncodable)
    (hkind : a.kind ≠ b.kind) : ¬ a.beginning <+: b.beginning := by
  rintro ⟨rest, hrest⟩
  rw [beginning, beginning, List.cons_append, List.cons_append,
    List.cons_append, List.cons.injEq, List.append_assoc] at hrest
  have hlength := readLength?_encodeLength ha.fits.length_le
      ((oidElement a.kind).encode ++ rest)
  rw [hrest.2, readLength?_encodeLength hb.fits.length_le, Option.some.injEq,
    Prod.mk.injEq] at hlength
  have hread := Element.read?_encode ha.fits_kind rest
  rw [← hlength.2, ← List.append_nil (oidElement b.kind).encode,
    Element.read?_encode hb.fits_kind,
    Option.some.injEq, Prod.mk.injEq, oidElement, oidElement, Element.mk.injEq]
      at hread
  exact hkind (congrArg Oid.mk hread.1.2).symm

/-- What a beginning depends on. -/
theorem beginning_eq (hkind : a.kind = a'.kind)
    (hlength : a.value.encode.length = a'.value.encode.length) :
    a.beginning = a'.beginning := by
  rw [beginning, beginning, contents_toElement, contents_toElement,
    List.length_append, List.length_append, hkind, hlength]

/-- Attributes of different types are put in order whatever their values are, as
long as these are of the same lengths. -/
theorem le_eq_of_kind_ne (ha : a.IsEncodable) (hb : b.IsEncodable)
    (hne : a.kind ≠ b.kind) (hkind : a.kind = a'.kind)
    (hlength : a.value.encode.length = a'.value.encode.length)
    (hkind' : b.kind = b'.kind)
    (hlength' : b.value.encode.length = b'.value.encode.length) :
    a'.le b' = a.le b := by
  have hforth := not_beginning_prefix ha hb hne
  have hback := not_beginning_prefix hb ha hne.symm
  rw [le, le, encode_toElement, encode_toElement, encode_toElement,
    encode_toElement, ← beginning_eq hkind hlength,
    ← beginning_eq hkind' hlength', Bytes.le_append_of_not_prefix hforth hback,
    Bytes.le_append_of_not_prefix hforth hback]

end Attribute

/-! ### Sets -/

/-- What is read from a list are the results for its members. -/
theorem exists_of_mem_mapM {α β : Type} {read : α → Option β} {as : List α}
    {bs : List β} {b : β} (hread : as.mapM read = some bs) (hb : b ∈ bs) :
    ∃ a ∈ as, read a = some b := by
  induction as generalizing bs with
  | nil =>
      cases hread
      cases hb
  | cons a rest ih =>
      rw [List.mapM_cons] at hread
      obtain ⟨first, hfirst, hrest⟩ := Option.bind_eq_some_iff.mp hread
      obtain ⟨others, hothers, hboth⟩ := Option.bind_eq_some_iff.mp hrest
      cases hboth
      rcases List.mem_cons.mp hb with rfl | hb
      · exact ⟨a, List.mem_cons_self, hfirst⟩
      · obtain ⟨a', ha', hread'⟩ := ih hothers hb
        exact ⟨a', List.mem_cons_of_mem a ha', hread'⟩

/-- Members that are read back one by one are read back together. -/
theorem mapM_map_eq_some {α β : Type} {write : α → β} {read : β → Option α}
    {as : List α} (hread : ∀ a ∈ as, read (write a) = some a) :
    (as.map write).mapM read = some as := by
  induction as with
  | nil => rfl
  | cons a rest ih =>
      obtain ⟨ha, hrest⟩ := List.forall_mem_cons.mp hread
      rw [List.map_cons, List.mapM_cons, ha, ih hrest]
      rfl

namespace RelativeName

variable {p q : RelativeName}

/-- Every attribute can be read back, none occurs twice, and they are in the
order of their encodings. -/
structure IsCanonical (p : RelativeName) : Prop where
  encodable : ∀ a ∈ p, a.IsEncodable
  nodup : p.Nodup
  sorted : p.Pairwise fun a b => a.le b = true

instance (p : RelativeName) : Decidable p.IsCanonical :=
  decidable_of_iff ((∀ a ∈ p, a.IsEncodable) ∧ p.Nodup ∧ p.Pairwise fun a b =>
    a.le b = true)
    ⟨fun h => ⟨h.1, h.2.1, h.2.2⟩, fun h => ⟨h.encodable, h.nodup, h.sorted⟩⟩

theorem isCanonical_of_ofElement?_eq_some {e : Element}
    (hread : ofElement? e = some p) : p.IsCanonical := by
  obtain ⟨es, hes, hinside⟩ := Option.bind_eq_some_iff.mp hread
  obtain ⟨attributes, hmap, hsort⟩ := Option.bind_eq_some_iff.mp hinside
  split at hsort
  next hnodup =>
    cases hsort
    refine ⟨?_, (List.mergeSort_perm _ _).nodup_iff.mpr hnodup, ?_⟩
    · intro a ha
      obtain ⟨x, hx, hxa⟩ := exists_of_mem_mapM hmap (List.mem_mergeSort.mp ha)
      rw [Element.inside?] at hes
      split at hes
      next =>
        exact Attribute.isEncodable_of_ofElement?_eq_some hxa
          ((elements?_eq_some_iff.mp hes).2 x hx)
      next => cases hes
    · apply List.pairwise_mergeSort
      · exact fun a b c => Bytes.le_trans
      · exact fun a b => Bytes.le_total _ _
  next => cases hsort

/-- A part in the order of its encodings is read back. -/
theorem IsCanonical.ofElement?_toElement (hp : IsCanonical p) :
    ofElement? (toElement p) = some p := by
  have hinside : (toElement p).inside? .set =
      some (p.map Attribute.toElement) := by
    rw [Element.inside?, toElement, Element.around, if_pos rfl,
      elements?_eq_some_iff]
    exact ⟨rfl, List.forall_mem_map.mpr fun a ha => (hp.encodable a ha).fits⟩
  have hread := mapM_map_eq_some fun a ha => (hp.encodable a ha).read
  rw [ofElement?, hinside, Option.bind_eq_bind, Option.bind_some, hread,
    Option.bind_eq_bind, Option.bind_some, if_pos hp.nodup,
    List.mergeSort_of_pairwise hp.sorted]
  rfl

/-- There is one order for a set of attributes. -/
theorem IsCanonical.eq_of_perm (hq : q.IsCanonical) (hperm : p.Perm q)
    (hsorted : p.Pairwise fun a b => a.le b = true) : p = q := by
  apply hperm.eq_of_pairwise ?_ hsorted hq.sorted
  intro a b ha hb
  exact Attribute.le_antisymm (hq.encodable a (hperm.subset ha))
    (hq.encodable b hb)

end RelativeName

/-- A name whose parts are in the order of their encodings, and not too long, is
read back. -/
theorem Name.ofElement?_toElement {name : Name}
    (hparts : ∀ p ∈ name.rdns, p.IsCanonical ∧ p.toElement.Fits) :
    ofElement? name.toElement = some name := by
  have hinside : name.toElement.sequence? =
      some (name.rdns.map RelativeName.toElement) :=
    Element.sequence?_eq_some_iff.mpr ⟨rfl, List.forall_mem_map.mpr fun p hp =>
      (hparts p hp).2⟩
  have hread := mapM_map_eq_some fun p hp =>
    (hparts p hp).1.ofElement?_toElement
  rw [ofElement?, hinside, Option.bind_eq_bind, Option.bind_some, hread]
  rfl

theorem Name.isCanonical_of_ofElement?_eq_some {e : Element} {name : Name}
    (hread : ofElement? e = some name) : ∀ p ∈ name.rdns, p.IsCanonical := by
  obtain ⟨es, hes, hinside⟩ := Option.bind_eq_some_iff.mp hread
  obtain ⟨rdns, hmap, hname⟩ := Option.bind_eq_some_iff.mp hinside
  cases hname
  intro p hp
  obtain ⟨x, hx, hxp⟩ := exists_of_mem_mapM hmap hp
  exact RelativeName.isCanonical_of_ofElement?_eq_some hxp

end TrustPath
