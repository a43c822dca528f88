import TrustPath.Name.Matching
import TrustPath.Proofs.Words

/-!
Texts that folding leaves as they are. Among them is the text of an encoding:
the dotted digits of an identifier, two signs, and base-16 digits, from which
the octets can be read back.
-/

namespace TrustPath

namespace Text

/-- Whether a character is visible ASCII and no capital letter. -/
def isPlain (c : Char) : Bool :=
  33 ≤ c.toNat && c.toNat ≤ 126 && !(65 ≤ c.toNat && c.toNat ≤ 90)

variable {c : Char}

theorem isPlain_iff :
    isPlain c = true ↔ 33 ≤ c.toNat ∧ c.toNat ≤ 126 ∧
      (c.toNat < 65 ∨ 90 < c.toNat) := by
  simp only [isPlain, Bool.and_eq_true, Bool.not_eq_true',
    Bool.and_eq_false_iff, decide_eq_true_iff, decide_eq_false_iff_not]
  omega

theorem isBlank_of_isPlain (hplain : isPlain c = true) : isBlank c = false := by
  obtain ⟨hlow, hhigh, _⟩ := isPlain_iff.mp hplain
  simp only [isBlank, Bool.or_eq_false_iff, Bool.and_eq_false_iff,
    decide_eq_false_iff_not]
  omega

theorem toLower_of_isPlain (hplain : isPlain c = true) : c.toLower = c := by
  obtain ⟨_, _, hsmall⟩ := isPlain_iff.mp hplain
  rw [← Char.toNat_inj, Ascii.toNat_toLower, if_neg (by omega)]

/-- Folding changes nothing in a plain text, which is one word in lower case. -/
theorem fold_of_isPlain {text : String}
    (hplain : ∀ c ∈ text.toList, isPlain c = true) :
    fold text = text.toList := by
  have hascii : ∀ c ∈ text.toList, c.toNat < 128 := by
    intro c hc
    have hbounds := isPlain_iff.mp (hplain c hc)
    omega
  have hlower : text.toList.map Char.toLower = text.toList.map id :=
    List.map_congr_left fun c hc => toLower_of_isPlain (hplain c hc)
  rw [fold_eq_intercalate hascii, hlower, List.map_id]
  by_cases hempty : text.toList = []
  · rw [hempty]
    rfl
  · rw [words_of_word (fun c hc => isBlank_of_isPlain (hplain c hc)) hempty,
      List.intercalate_singleton]

end Text

/-! ### Base-16 digits -/

namespace Bytes

theorem isPlain_hexDigit : ∀ n < 16, Text.isPlain (hexDigit n) = true := by
  decide

theorem hexValue?_hexDigit : ∀ n < 16, hexValue? (hexDigit n) = some n := by
  decide

theorem isPlain_hex (bs : Bytes) : ∀ c ∈ (hex bs).toList,
      Text.isPlain c = true := by
  intro c hc
  rw [hex, String.toList_ofList, List.mem_flatMap] at hc
  obtain ⟨b, _, hc⟩ := hc
  have hb := b.toNat_lt
  rw [hexPair, List.mem_cons, List.mem_singleton] at hc
  rcases hc with rfl | rfl
  · exact isPlain_hexDigit _ (by omega)
  · exact isPlain_hexDigit _ (by omega)

/-- Base-16 text is read back. -/
theorem ofHexDigits?_hexPairs (bs : Bytes) :
    ofHexDigits? (bs.flatMap hexPair) = some bs := by
  induction bs with
  | nil => rfl
  | cons b rest ih =>
      have hb := b.toNat_lt
      have hhalves : UInt8.ofNat (16 * (b.toNat / 16) + b.toNat % 16) = b := by
        rw [Nat.div_add_mod, UInt8.ofNat_toNat]
      rw [List.flatMap_cons, hexPair, List.cons_append, List.singleton_append,
        ofHexDigits?, hexValue?_hexDigit _ (by omega),
        hexValue?_hexDigit _ (by omega), ih]
      exact congrArg (fun b => some (b :: rest)) hhalves

theorem hex_injective {as bs : Bytes} (hhex : hex as = hex bs) : as = bs := by
  have hdigits := String.ofList_injective hhex
  have hread := ofHexDigits?_hexPairs as
  rw [hdigits, ofHexDigits?_hexPairs] at hread
  exact (Option.some.inj hread).symm

end Bytes

/-! ### The text of an encoding -/

theorem isPlain_intercalate {separator : String} {texts : List String}
    (hseparator : ∀ c ∈ separator.toList, Text.isPlain c = true)
    (htexts : ∀ text ∈ texts, ∀ c ∈ text.toList, Text.isPlain c = true) :
    ∀ c ∈ (separator.intercalate texts).toList, Text.isPlain c = true := by
  induction texts with
  | nil => simp
  | cons text rest ih =>
      obtain ⟨htext, hrest⟩ := List.forall_mem_cons.mp htexts
      cases rest with
      | nil => simpa using htext
      | cons next rest =>
          rw [String.intercalate_cons_cons]
          intro c hc
          simp only [String.toList_append, List.mem_append] at hc
          rcases hc with (hc | hc) | hc
          · exact htext c hc
          · exact hseparator c hc
          · exact ih hrest c hc

theorem Oid.isPlain_text (oid : Oid) : ∀ c ∈ oid.text.toList,
      Text.isPlain c = true := by
  refine isPlain_intercalate (by simp [Text.isPlain_iff]) ?_
  intro text htext c hc
  obtain ⟨arc, _, rfl⟩ := List.mem_map.mp htext
  rw [Nat.toString_eq_repr, Nat.toList_repr] at hc
  have hdigit := Nat.isDigit_of_mem_toDigits (by decide) (by decide) hc
  rw [Text.isPlain_iff]
  simp only [Char.isDigit, Bool.and_eq_true, decide_eq_true_iff, ge_iff_le,
    UInt32.le_iff_toNat_le]
    at hdigit
  change 48 ≤ c.toNat ∧ c.toNat ≤ 57 at hdigit
  omega

namespace Attribute

variable {a b : Attribute}

/-- The text of an encoding is written as folding would write it. -/
theorem fold_opaqueText (a : Attribute) :
    Text.fold a.opaqueText = a.opaqueText.toList := by
  apply Text.fold_of_isPlain
  intro c hc
  simp only [opaqueText, String.toList_append, List.mem_append] at hc
  rcases hc with (hc | hc) | hc
  · exact a.kind.isPlain_text c hc
  · have hsigns : ∀ c ∈ "=#".toList, Text.isPlain c = true := by
      simp [Text.isPlain_iff]
    exact hsigns c hc
  · exact Bytes.isPlain_hex _ c hc

/-- Of attributes of one type, the texts tell the encodings apart. -/
theorem encode_eq_of_opaqueText_eq (hkind : a.kind = b.kind)
    (htext : a.opaqueText = b.opaqueText) :
    a.value.encode = b.value.encode := by
  rw [opaqueText, opaqueText, hkind] at htext
  exact Bytes.hex_injective (String.append_right_inj _ |>.mp htext)

end Attribute

end TrustPath
