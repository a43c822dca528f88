import TrustPath.Json.Quoted
import TrustPath.Proofs.PlainText

/-!
Texts between quotes. Octets spell a content when a reader that gets through
them has that content before all that follows; the escapes spell what they stand
for, and every other octet that may stand between quotes spells itself. So a
text that was written between quotes is read back.
-/

namespace TrustPath

/-! ### The octets of a text -/

namespace Bytes

variable {c : Char}

theorem ofText_ofList (cs : List Char) :
    ofText (String.ofList cs) = cs.flatMap String.utf8EncodeChar := by
  rw [ofText, String.toByteArray_ofList, List.utf8Encode,
    List.toList_data_toByteArray]

theorem ofText_eq_flatMap (text : String) :
    ofText text = text.toList.flatMap String.utf8EncodeChar := by
  rw [← ofText_ofList, String.ofList_toList]

theorem ofText_append (text more : String) :
    ofText (text ++ more) = ofText text ++ ofText more := by
  simp only [ofText_eq_flatMap, String.toList_append, List.flatMap_append]

theorem ofText_singleton (c : Char) :
    ofText (String.singleton c) = String.utf8EncodeChar c := by
  rw [ofText_eq_flatMap, String.toList_singleton, List.flatMap_singleton]

/-- The octets of a text stand for it. -/
theorem text?_ofText (text : String) : text? (ofText text) = some text := by
  have hoctets : List.toByteArray (ofText text) = text.toByteArray :=
    ByteArray.ext (Array.toList_inj.mp List.toList_data_toByteArray)
  rw [text?, hoctets, String.fromUTF8?, dif_pos text.isValidUTF8]
  rfl

/-- The octets of a character are its number, or are beyond the numbers of
single octets. -/
theorem toNat_of_mem_utf8EncodeChar {b : UInt8}
    (hb : b ∈ String.utf8EncodeChar c) : b.toNat = c.toNat ∨ 128 ≤ b.toNat := by
  have hvalue : c.val.toNat = c.toNat := rfl
  rw [String.utf8EncodeChar] at hb
  split_ifs at hb
  · rw [List.mem_singleton] at hb
    rw [hb, UInt8.toNat_ofNat']
    omega
  -- two, three or four octets, all with their high bits set
  all_goals
    simp only [List.mem_cons, List.not_mem_nil, or_false] at hb
    rcases hb with rfl | rfl | rfl | rfl <;> rw [UInt8.toNat_ofNat'] <;> omega

end Bytes

namespace Json

/-! ### What stands between quotes -/

theorem Sized.after_after {α β γ : Type} (m n : Nat) (f : α → β) (g : β → γ)
    (found : Sized α) : (found.after m f).after n g = found.after (n + m)
      (g ∘ f) := by
  cases found with
  | ok found => simp only [Sized.after, Function.comp_apply, Nat.add_assoc]
  | error fault => simp only [Sized.after, Nat.add_assoc]

/-- Octets between quotes spell a content: a reader gets through them to parts
that stand for the content, whatever follows. -/
def Spells (octets content : Bytes) : Prop :=
  ∃ parts : List Part,
    (∀ rest, readParts (octets ++ rest) = (readParts rest).after octets.length
      (parts ++ ·)) ∧ ∀ more, octets? (parts ++ more) = (octets? more).map
      (content ++ ·)

/-- The octets of an escape by number: two zeros and two more digits, which
write the number. -/
theorem numberedEscape_octets {c : Char} (hcontrol : c.toNat < 32) :
    ∃ h l, (numberedEscape c).flatMap String.utf8EncodeChar =
      [0x5c, 0x75, 0x30, 0x30, h, l] ∧ unit? 0x30 0x30 h l = some c.toNat := by
  have hall : ∀ n < 32,
      ((numberedEscape (Char.ofNat n)).flatMap String.utf8EncodeChar) =
      [0x5c, 0x75, 0x30, 0x30, UInt8.ofNat (Bytes.hexDigit (n / 16)).toNat,
        UInt8.ofNat (Bytes.hexDigit (n % 16)).toNat] ∧
      unit? 0x30 0x30 (UInt8.ofNat (Bytes.hexDigit (n / 16)).toNat)
        (UInt8.ofNat (Bytes.hexDigit (n % 16)).toNat) = some n := by
    decide
  have hc := hall c.toNat hcontrol
  rw [Char.ofNat_toNat] at hc
  exact ⟨_, _, hc⟩

namespace Spells

variable {octets octets' content content' : Bytes} {b e : UInt8} {c : Char}

theorem nil : Spells [] [] := by
  refine ⟨[], fun rest => ?_, fun more => by simp⟩
  rw [List.nil_append]
  cases readParts rest with
  | ok found => simp [Sized.after]
  | error fault => simp [Sized.after]

theorem append (hfirst : Spells octets content)
    (hthen : Spells octets' content') :
    Spells (octets ++ octets') (content ++ content') := by
  obtain ⟨parts, hread, hstand⟩ := hfirst
  obtain ⟨parts', hread', hstand'⟩ := hthen
  refine ⟨parts ++ parts', fun rest => ?_, fun more => ?_⟩
  · rw [List.append_assoc, hread, hread', Sized.after_after, List.length_append]
    simp only [Function.comp_def, List.append_assoc]
  · rw [List.append_assoc, hstand, hstand', Option.map_map]
    simp only [Function.comp_def, List.append_assoc]

/-- A reader goes on to the closing quote. -/
theorem readParts_append (hspells : Spells octets content) (rest : Bytes) :
    ∃ parts, readParts (octets ++ 0x22 :: rest) =
      .ok (parts, octets.length + 1) ∧ octets? parts = some content := by
  obtain ⟨parts, hread, hstand⟩ := hspells
  refine ⟨parts, ?_, ?_⟩
  · rw [hread, readParts.eq_def]
    dsimp only
    rw [if_pos rfl, Sized.after, List.append_nil]
  · have hall := hstand []
    rwa [List.append_nil, octets?, Option.map_some, List.append_nil] at hall

/-- An octet that is no quote, no backslash and no control character spells
itself. -/
theorem plain (hquote : b ≠ 0x22) (hescape : b ≠ 0x5c)
    (hcontrol : 32 ≤ b.toNat) : Spells [b] [b] := by
  refine ⟨[.octet b], fun rest => ?_, fun more => rfl⟩
  rw [List.singleton_append, readParts.eq_def]
  dsimp only
  rw [if_neg hquote, if_neg hescape, if_neg (Nat.not_lt.mpr hcontrol)]
  rfl

/-- A backslash and a letter, or a sign, stand for one octet. -/
theorem short (hnumbered : e ≠ 0x75) (hescape : shortEscape? e = some b) :
    Spells [0x5c, e] [b] := by
  refine ⟨[.octet b], fun rest => ?_, fun more => rfl⟩
  rw [List.cons_append, List.singleton_append, readParts.eq_def]
  dsimp only
  rw [if_neg (by decide), if_pos rfl, if_neg hnumbered, hescape]
  rfl

/-- A control character may be written by number. -/
theorem numbered (hcontrol : c.toNat < 32) :
    Spells ((numberedEscape c).flatMap String.utf8EncodeChar)
      (String.utf8EncodeChar c) := by
  obtain ⟨h, l, hoctets, hunit⟩ := numberedEscape_octets hcontrol
  refine ⟨[.unit c.toNat], fun rest => ?_, fun more => ?_⟩
  · rw [hoctets]
    simp only [List.cons_append, List.nil_append]
    rw [readParts.eq_def]
    dsimp only
    rw [if_neg (by decide), if_pos rfl, if_pos rfl, hunit]
    rfl
  · rw [List.singleton_append, octets?.eq_def]
    dsimp only
    rw [if_neg, if_neg, charOctets, Char.ofNat_toNat, Bytes.ofText_singleton]
    all_goals
      simp only [isFirstHalf, isSecondHalf, Bool.and_eq_true,
        decide_eq_true_iff]
      omega

/-- Octets that each spell themselves spell themselves together. -/
theorem of_forall_mem
    (hplain : ∀ b ∈ octets, b ≠ 0x22 ∧ b ≠ 0x5c ∧ 32 ≤ b.toNat) :
    Spells octets octets := by
  induction octets with
  | nil => exact nil
  | cons b rest ih =>
      obtain ⟨⟨hquote, hescape, hcontrol⟩, hrest⟩ :=
        List.forall_mem_cons.mp hplain
      exact (plain hquote hescape hcontrol).append (ih hrest)

/-- A character that needs no escape spells itself. -/
theorem char (hquote : c ≠ '"') (hescape : c ≠ '\\') (hcontrol : 32 ≤ c.toNat) :
    Spells (String.utf8EncodeChar c) (String.utf8EncodeChar c) := by
  apply of_forall_mem
  intro b hb
  rcases Bytes.toNat_of_mem_utf8EncodeChar hb with hsame | hlarge
  · refine ⟨?_, ?_, by omega⟩
    · rintro rfl
      exact hquote (Char.toNat_inj.mp hsame.symm)
    · rintro rfl
      exact hescape (Char.toNat_inj.mp hsame.symm)
  · refine ⟨?_, ?_, by omega⟩
    · rintro rfl
      exact absurd hlarge (by decide)
    · rintro rfl
      exact absurd hlarge (by decide)

/-- A character is spelled as it is written. -/
theorem escapedChar (c : Char) :
    Spells ((Json.escapedChar c).flatMap String.utf8EncodeChar)
      (String.utf8EncodeChar c) := by
  rw [Json.escapedChar]
  split_ifs with hquote hescape hback htab hline hfeed hreturn hcontrol
  · subst hquote
    exact short (by decide) (by decide)
  · subst hescape
    exact short (by decide) (by decide)
  · subst hback
    exact short (by decide) (by decide)
  · subst htab
    exact short (by decide) (by decide)
  · subst hline
    exact short (by decide) (by decide)
  · subst hfeed
    exact short (by decide) (by decide)
  · subst hreturn
    exact short (by decide) (by decide)
  · exact numbered hcontrol
  · rw [List.flatMap_singleton]
    exact char hquote hescape (Nat.le_of_not_lt hcontrol)

/-- The characters of a text are spelled one by one. -/
theorem escaped (cs : List Char) :
    Spells ((cs.flatMap Json.escapedChar).flatMap String.utf8EncodeChar)
      (cs.flatMap String.utf8EncodeChar) := by
  induction cs with
  | nil => exact nil
  | cons c cs ih =>
      rw [List.flatMap_cons, List.flatMap_append, List.flatMap_cons]
      exact (escapedChar c).append ih

end Spells

/-- What stands between the quotes of a text, with the closing quote, is read as
parts that stand for the text. -/
theorem readParts_quoted (text : String) (rest : Bytes) :
    ∃ more parts, Bytes.ofText (quoted text) = 0x22 :: more ∧
      readParts (more ++ rest) = .ok (parts, more.length) ∧
        content? parts = some text := by
  obtain ⟨parts, hread, hstand⟩ :=
    (Spells.escaped text.toList).readParts_append rest
  refine ⟨(text.toList.flatMap escapedChar).flatMap String.utf8EncodeChar ++
    [0x22], parts, ?_, ?_, ?_⟩
  · have hsign : Bytes.ofText "\"" = [0x22] := Bytes.ofText_singleton '"'
    rw [quoted, Bytes.ofText_append, Bytes.ofText_append, hsign,
      Bytes.ofText_ofList]
    rfl
  · rw [List.append_assoc, List.singleton_append, hread, List.length_append,
      List.length_singleton]
  · rw [content?, hstand, Option.bind_some, ← Bytes.ofText_eq_flatMap,
      Bytes.text?_ofText]

end Json

end TrustPath
