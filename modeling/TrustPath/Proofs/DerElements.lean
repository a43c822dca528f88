import Mathlib.Algebra.Order.Ring.Nat
import Mathlib.Data.List.Induction
import TrustPath.Der.Value

/-!
An element has one encoding. What is read as an element are exactly the octets
that it is written with: no shorter or longer form of a length is accepted, and
nothing is passed over between elements. Each reader is here described by what
it has been given.
-/

namespace TrustPath

namespace Bytes

theorem length_ofNat (width n : Nat) : (ofNat width n).length = width := by
  induction width generalizing n with
  | zero => rfl
  | succ width ih => rw [ofNat, List.length_append, ih, List.length_singleton]

theorem toNat_concat (bs : Bytes) (b : UInt8) :
    toNat (bs ++ [b]) = 256 * toNat bs + b.toNat := by
  simp [toNat]

theorem toNat_cons (b : UInt8) (bs : Bytes) :
    toNat (b :: bs) = 256 ^ bs.length * b.toNat + toNat bs := by
  induction bs using List.reverseRecOn with
  | nil => simp [toNat]
  | append_singleton bs c ih =>
      rw [← List.cons_append, toNat_concat, ih, toNat_concat,
        List.length_append, List.length_singleton,
        Nat.pow_succ, Nat.mul_add, ← Nat.mul_assoc, Nat.mul_comm 256,
          Nat.add_assoc]

theorem toNat_lt (bs : Bytes) : toNat bs < 256 ^ bs.length := by
  induction bs using List.reverseRecOn with
  | nil => decide
  | append_singleton bs b ih =>
      have hb := b.toNat_lt
      rw [toNat_concat, List.length_append, List.length_singleton, Nat.pow_succ]
      omega

theorem toNat_ofNat {width n : Nat} (hn : n < 256 ^ width) :
    toNat (ofNat width n) = n := by
  induction width generalizing n with
  | zero =>
      have hzero : n = 0 := by simpa using hn
      rw [hzero]
      rfl
  | succ width ih =>
      have hhigh : n / 256 < 256 ^ width := by
        rw [Nat.pow_succ, Nat.mul_comm] at hn
        exact Nat.div_lt_of_lt_mul hn
      rw [ofNat, toNat_concat, ih hhigh, UInt8.toNat_ofNat']
      omega

/-- Octets are the digits of the number that they write. -/
theorem ofNat_toNat (bs : Bytes) : ofNat bs.length (toNat bs) = bs := by
  induction bs using List.reverseRecOn with
  | nil => rfl
  | append_singleton bs b ih =>
      have hb := b.toNat_lt
      have hhigh : (256 * toNat bs + b.toNat) / 256 = toNat bs := by omega
      have hlow : UInt8.ofNat (256 * toNat bs + b.toNat) = b := by
        rw [← UInt8.toNat_inj, UInt8.toNat_ofNat']
        omega
      rw [toNat_concat, List.length_append, List.length_singleton, ofNat, hhigh,
        ih, hlow]

end Bytes

namespace Der

/-! ### Lengths -/

/-- From 128 on, a length is written in so many octets as it needs, after one
that counts them. -/
theorem encodeLength_of_size {size n : Nat} (hpositive : 1 ≤ size)
    (hsize : size ≤ 4) (hlong : 128 ≤ n) (hlow : 256 ^ (size - 1) ≤ n)
    (hhigh : n < 256 ^ size) : encodeLength n = UInt8.ofNat
      (128 + size) :: Bytes.ofNat size n := by
  have hcases : size = 1 ∨ size = 2 ∨ size = 3 ∨ size = 4 := by omega
  rw [encodeLength, if_neg (Nat.not_lt.mpr hlong)]
  rcases hcases with rfl | rfl | rfl | rfl
  · rw [if_pos (by omega)]
    rfl
  · rw [if_neg (by omega), if_pos (by omega)]
    rfl
  · rw [if_neg (by omega), if_neg (by omega), if_pos (by omega)]
    rfl
  · rw [if_neg (by omega), if_neg (by omega), if_neg (by omega)]
    rfl

theorem length_encodeLength (n : Nat) :
    (encodeLength n).length =
      if n < 0x80 then 1 else if n < 0x100 then 2 else if n < 0x10000 then 3
        else if n < 0x1000000 then 4 else 5 := by
  rw [encodeLength]
  repeat' split
  all_goals simp [Bytes.length_ofNat]

/-- Every length that an element may have needs at most four octets. -/
theorem exists_size {n : Nat} (hlong : 128 ≤ n) (hn : n ≤ maxLength) :
    ∃ size, 1 ≤ size ∧ size ≤ 4 ∧ 256 ^ (size - 1) ≤ n ∧ n < 256 ^ size := by
  rw [maxLength] at hn
  by_cases hone : n < 256
  · exact ⟨1, by omega⟩
  · by_cases htwo : n < 65536
    · exact ⟨2, by omega⟩
    · by_cases hthree : n < 16777216
      · exact ⟨3, by omega⟩
      · exact ⟨4, by omega⟩

theorem shiftLeft_octets (k : Nat) : 1 <<< (8 * k) = 256 ^ k := by
  rw [Nat.one_shiftLeft, Nat.pow_mul]

/-- What is written for a length is read back, whatever follows. -/
theorem readLength?_encodeLength {n : Nat} (hn : n ≤ maxLength) (rest : Bytes) :
    readLength? (encodeLength n ++ rest) = some (n, rest) := by
  by_cases hshort : n < 128
  · have hfirst : (UInt8.ofNat n).toNat = n := by
      rw [UInt8.toNat_ofNat']
      omega
    rw [encodeLength, if_pos hshort, List.singleton_append, readLength?, hfirst,
      if_pos hshort]
  · obtain ⟨size, hpositive, hsize, hlow, hhigh⟩ :=
      exists_size (Nat.le_of_not_lt hshort) hn
    have hfirst : (UInt8.ofNat (128 + size)).toNat = 128 + size := by
      rw [UInt8.toNat_ofNat']
      omega
    have hdigits := Bytes.length_ofNat size n
    have hshift := shiftLeft_octets (size - 1)
    rw [encodeLength_of_size hpositive hsize (Nat.le_of_not_lt hshort) hlow
      hhigh, List.cons_append, readLength?, hfirst, if_neg (by omega)]
    dsimp only
    rw [Nat.add_sub_cancel_left, List.take_left' hdigits,
      List.drop_left' hdigits, Bytes.toNat_ofNat hhigh, hshift,
      List.length_append, hdigits, if_pos (by omega)]

/-- Only what is written for a length is read as one. -/
theorem eq_encodeLength_of_readLength? {bs rest : Bytes} {n : Nat}
    (hread : readLength? bs = some (n, rest)) : bs = encodeLength n ++ rest ∧
      n ≤ maxLength := by
  cases bs with
  | nil => cases hread
  | cons first tail =>
      rw [readLength?] at hread
      split at hread
      next hshort =>
        cases hread
        rw [encodeLength, if_pos hshort, UInt8.ofNat_toNat,
          List.singleton_append, maxLength]
        exact ⟨rfl, by omega⟩
      next hlong =>
        dsimp only at hread
        split at hread
        next hfits =>
          obtain ⟨hpositive, hsize, henough, hleast, hlow, hmost⟩ := hfits
          rw [Option.some.injEq, Prod.mk.injEq] at hread
          obtain ⟨rfl, rfl⟩ := hread
          have hfirst := first.toNat_lt
          have hdigits : (tail.take (first.toNat - 128)).length =
              first.toNat - 128 := by
            rw [List.length_take, Nat.min_eq_left henough]
          have hhigh := Bytes.toNat_lt (tail.take (first.toNat - 128))
          have hback := Bytes.ofNat_toNat (tail.take (first.toNat - 128))
          rw [hdigits] at hhigh hback
          rw [shiftLeft_octets] at hlow
          refine ⟨?_, hmost⟩
          rw [encodeLength_of_size hpositive hsize hleast hlow hhigh, hback,
            Nat.add_sub_cancel' (Nat.le_of_not_lt hlong), UInt8.ofNat_toNat,
            List.cons_append, List.take_append_drop]
        next => cases hread

/-! ### Elements -/

theorem encodeAll_cons (e : Element) (es : List Element) :
    encodeAll (e :: es) = e.encode ++ encodeAll es := by
  rw [encodeAll, List.flatMap_cons, encodeAll]

namespace Element

/-- The element can be read back from its encoding: its identifier octet is in
use, and its contents are not too long. -/
structure Fits (e : Element) : Prop where
  known : e.tag.isKnown = true
  length_le : e.contents.length ≤ maxLength

instance (e : Element) : Decidable e.Fits :=
  decidable_of_iff (e.tag.isKnown = true ∧ e.contents.length ≤ maxLength)
    ⟨fun h => ⟨h.1, h.2⟩, fun h => ⟨h.known, h.length_le⟩⟩

theorem encode_append (e : Element) (rest : Bytes) :
    e.encode ++ rest =
      e.tag.octet :: (encodeLength e.contents.length ++
        (e.contents ++ rest)) := by
  rw [encode, List.append_assoc, List.cons_append]

theorem read?_encode {e : Element} (hfits : e.Fits) (rest : Bytes) :
    read? (e.encode ++ rest) = some (e, rest) := by
  rw [encode_append, read?, if_pos hfits.known,
    readLength?_encodeLength hfits.length_le]
  dsimp only
  rw [List.length_append, if_pos (Nat.le_add_right _ _), List.take_left,
    List.drop_left]

theorem eq_encode_of_read? {bs rest : Bytes} {e : Element}
    (hread : read? bs = some (e, rest)) : bs = e.encode ++ rest ∧ e.Fits := by
  cases bs with
  | nil => cases hread
  | cons octet tail =>
      rw [read?] at hread
      split at hread
      next hknown =>
        split at hread
        next => cases hread
        next n body hlength =>
          obtain ⟨rfl, hn⟩ := eq_encodeLength_of_readLength? hlength
          split at hread
          next henough =>
            cases hread
            have hcontents : (body.take n).length = n := by
              rw [List.length_take, Nat.min_eq_left henough]
            refine ⟨?_, hknown, by rw [hcontents]; exact hn⟩
            rw [encode_append, hcontents, List.take_append_drop]
          next => cases hread
      next => cases hread

theorem length_contents_lt_encode (e : Element) :
    e.contents.length < e.encode.length := by
  rw [encode, List.length_append, List.length_cons]
  omega

/-- Elements of any length are told apart by their encodings: the longer the
contents, the longer the whole. -/
theorem encode_injective {e f : Element} (hencode : e.encode = f.encode) :
    e = f := by
  rw [encode, encode, List.cons_append, List.cons_append, List.cons.injEq]
    at hencode
  obtain ⟨htag, hrest⟩ := hencode
  have hwhole := congrArg List.length hrest
  rw [List.length_append, List.length_append, length_encodeLength,
    length_encodeLength] at hwhole
  have hlength : e.contents.length = f.contents.length := by
    repeat' split at hwhole
    all_goals omega
  rw [hlength] at hrest
  have hcontents := List.append_cancel_left hrest
  cases e with
  | mk tag contents =>
      cases tag
      cases htag
      cases hcontents
      rfl

theorem splitWithin?_encodeAll {es : List Element} (hfits : ∀ e ∈ es, e.Fits)
    {count : Nat} (hcount : es.length ≤ count) :
    splitWithin? count (encodeAll es) = some es := by
  induction es generalizing count with
  | nil => cases count <;> rfl
  | cons e rest ih =>
      cases count with
      | zero => simp at hcount
      | succ count =>
          have hread := read?_encode (hfits e List.mem_cons_self)
              (encodeAll rest)
          have hrest := ih (fun other hother =>
            hfits other (List.mem_cons_of_mem e hother))
            (Nat.le_of_succ_le_succ hcount)
          rw [encode_append] at hread
          rw [encodeAll_cons, encode_append]
          simp only [splitWithin?, hread, hrest, Option.map_some]

theorem eq_encodeAll_of_splitWithin? {count : Nat} {bs : Bytes}
    {es : List Element} (hsplit : splitWithin? count bs = some es) :
    bs = encodeAll es ∧ ∀ e ∈ es, e.Fits := by
  induction count generalizing bs es with
  | zero =>
      cases bs with
      | nil =>
          cases hsplit
          exact ⟨rfl, by simp⟩
      | cons b bs => cases hsplit
  | succ count ih =>
      cases bs with
      | nil =>
          cases hsplit
          exact ⟨rfl, by simp⟩
      | cons b bs =>
          simp only [splitWithin?] at hsplit
          split at hsplit
          next => cases hsplit
          next e rest hread =>
            obtain ⟨others, hothers, rfl⟩ := Option.map_eq_some_iff.mp hsplit
            obtain ⟨hbs, hfits⟩ := eq_encode_of_read? hread
            obtain ⟨rfl, hall⟩ := ih hothers
            rw [encodeAll_cons]
            exact ⟨hbs, List.forall_mem_cons.mpr ⟨hfits, hall⟩⟩

end Element

/-- No element is empty, so there are no more of them than octets. -/
theorem length_le_length_encodeAll (es : List Element) :
    es.length ≤ (encodeAll es).length := by
  induction es with
  | nil => exact Nat.le_refl 0
  | cons e rest ih =>
      have hpositive := Nat.zero_lt_of_lt e.length_contents_lt_encode
      rw [encodeAll_cons, List.length_append, List.length_cons]
      omega

/-- What stands inside an element is shorter than the element. -/
theorem Element.length_encode_lt_around {tag : Tag} {es : List Element}
    {e : Element} (he : e ∈ es) :
    e.encode.length < (around tag es).encode.length := by
  obtain ⟨before, after, rfl⟩ := List.append_of_mem he
  have hinside := (around tag (before ++ e :: after)).length_contents_lt_encode
  have hall : (around tag (before ++ e :: after)).contents =
      encodeAll before ++ (e.encode ++ encodeAll after) := by
    rw [around, encodeAll, List.flatMap_append, ← encodeAll, ← encodeAll,
      encodeAll_cons]
  rw [hall, List.length_append, List.length_append] at hinside
  omega

/-- A byte string is split into the elements whose octets it is made of. -/
theorem elements?_eq_some_iff {bs : Bytes} {es : List Element} :
    elements? bs = some es ↔ bs = encodeAll es ∧ ∀ e ∈ es, e.Fits := by
  constructor
  · exact Element.eq_encodeAll_of_splitWithin?
  · rintro ⟨rfl, hfits⟩
    exact Element.splitWithin?_encodeAll hfits (length_le_length_encodeAll es)

/-- A byte string is a single element if it is the octets of it, and not too
long. -/
theorem element?_eq_some_iff {bs : Bytes} {e : Element} :
    element? bs = some e ↔ bs = e.encode ∧ e.tag.isKnown = true ∧
      bs.length ≤ maxLength := by
  rw [element?]
  constructor
  · intro helement
    split at helement
    next hlength =>
      split at helement
      next hread =>
        cases helement
        obtain ⟨hbs, hfits⟩ := Element.eq_encode_of_read? hread
        rw [List.append_nil] at hbs
        exact ⟨hbs, hfits.known, hlength⟩
      next => cases helement
    next => cases helement
  · rintro ⟨rfl, hknown, hlength⟩
    have hcontents := e.length_contents_lt_encode
    have hread := Element.read?_encode ⟨hknown, by omega⟩ []
    rw [List.append_nil] at hread
    rw [if_pos hlength, hread]

theorem Element.sequence?_eq_some_iff {e : Element} {es : List Element} :
    e.sequence? = some es ↔ e = .around .sequence es ∧ ∀ x ∈ es, x.Fits := by
  rw [sequence?, inside?, around]
  split
  next htag =>
    rw [elements?_eq_some_iff, ← htag]
    constructor
    · rintro ⟨hcontents, hfits⟩
      exact ⟨by rw [← hcontents], hfits⟩
    · rintro ⟨he, hfits⟩
      exact ⟨congrArg contents he, hfits⟩
  next htag =>
    constructor
    · exact nofun
    · rintro ⟨rfl, _⟩
      exact absurd rfl htag

end Der

/-! ### Identifiers -/

theorem Oid.content_eq_of_ofContent? {content : Bytes} {oid : Oid}
    (hread : ofContent? content = some oid) : oid.content = content := by
  rw [ofContent?] at hread
  split at hread
  next =>
    cases hread
    rfl
  next => cases hread

theorem Der.eq_oidElement_of_oid? {e : Element} {oid : Oid}
    (hread : oid? e = some oid) : e = oidElement oid := by
  obtain ⟨contents, hcontents, hread⟩ := Option.bind_eq_some_iff.mp hread
  rw [Element.expect?] at hcontents
  split at hcontents
  next htag =>
    cases hcontents
    rw [oidElement, Oid.content_eq_of_ofContent? hread, ← htag]
  next => cases hcontents

/-- An identifier is read from the element that it is written as, if its
contents are well formed. -/
theorem Der.oid?_eq_some_iff {e : Element} {oid : Oid}
    (hformed : Oid.ofContent? oid.content = some oid) :
    oid? e = some oid ↔ e = oidElement oid := by
  constructor
  · exact eq_oidElement_of_oid?
  · rintro rfl
    exact hformed

end TrustPath
