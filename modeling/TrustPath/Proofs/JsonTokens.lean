import TrustPath.Json.Token
import TrustPath.Proofs.QuotedTexts

/-!
Tokens as they are written. Octets write a token before others when a reader
takes just them for it, wherever they stand. A sign, a word and a text between
quotes are written before anything; the digits of a number are written before
whatever does not go on with the number.
-/

namespace TrustPath.Json

/-! ### Decimal digits -/

theorem toNat_digit {n : Nat} (hn : n < 10) :
    (UInt8.ofNat (48 + n)).toNat = 48 + n := by
  rw [UInt8.toNat_ofNat', Nat.mod_eq_of_lt (by omega)]

/-- The digits of a number are one digit, or those of its tenth and one more. -/
theorem decimal_induction {holds : Nat → Bytes → Prop}
    (one : ∀ n < 10, holds n [UInt8.ofNat (48 + n)])
    (more : ∀ n digits, 10 ≤ n → holds (n / 10) digits →
      holds n (digits ++ [UInt8.ofNat (48 + n % 10)]))
    (n : Nat) : holds n (Bytes.ofText (toString n)) := by
  have hdigit : ∀ d < 10, String.utf8EncodeChar (Nat.digitChar d) =
      [UInt8.ofNat (48 + d)] := by
    decide
  induction n using Nat.strongRecOn with
  | ind n ih =>
      rw [Nat.toString_eq_ofList_toDigits, Bytes.ofText_ofList,
        Nat.toDigits_eq_if (by decide)]
      split
      next hn =>
        rw [List.flatMap_singleton, hdigit n hn]
        exact one n hn
      next hn =>
        rw [List.flatMap_append, List.flatMap_singleton,
          hdigit _ (Nat.mod_lt n (by decide)),
          ← Bytes.ofText_ofList, ← Nat.toString_eq_ofList_toDigits]
        exact more n _ (Nat.le_of_not_lt hn) (ih (n / 10) (by omega))

theorem isDigit_of_mem_decimal (n : Nat) : ∀ b ∈ Bytes.ofText (toString n),
      isDigit b = true := by
  have hdigit : ∀ d < 10, isDigit (UInt8.ofNat (48 + d)) = true := by
    decide
  induction n using decimal_induction with
  | one n hn => exact List.forall_mem_singleton.mpr (hdigit n hn)
  | more n digits hn ih =>
      rw [List.forall_mem_append]
      exact ⟨ih, List.forall_mem_singleton.mpr
        (hdigit _ (Nat.mod_lt n (by decide)))⟩

/-- The digits of a number have its value. -/
theorem digitsValue_decimal (n : Nat) :
    digitsValue (Bytes.ofText (toString n)) = n := by
  induction n using decimal_induction with
  | one n hn =>
      rw [digitsValue, List.foldl_cons, List.foldl_nil, toNat_digit hn]
      omega
  | more n digits hn ih =>
      rw [digitsValue] at ih ⊢
      rw [List.foldl_append, ih, List.foldl_cons, List.foldl_nil,
        toNat_digit (Nat.mod_lt n (by decide))]
      omega

/-- Only zero begins with a zero. -/
theorem decimal_head (n : Nat) :
    ∃ b rest, Bytes.ofText (toString n) = b :: rest ∧
      (b = 0x30 → n = 0 ∧ rest = []) := by
  induction n using decimal_induction with
  | one n hn =>
      refine ⟨_, [], rfl, fun hzero => ⟨?_, rfl⟩⟩
      have hvalue := toNat_digit hn
      rw [hzero] at hvalue
      change 48 = 48 + n at hvalue
      omega
  | more n digits hn ih =>
      obtain ⟨b, rest, rfl, hzero⟩ := ih
      refine ⟨b, rest ++ [UInt8.ofNat (48 + n % 10)], rfl, fun hb => ?_⟩
      -- a tenth of at least one does not begin with a zero
      have htenth := (hzero hb).1
      omega

/-! ### Numbers -/

/-- Whether a number ends before some octets. -/
def EndsNumber (rest : Bytes) : Prop :=
  ∀ b ∈ rest.head?, isDigit b = false ∧ b ≠ 0x2e ∧ b ≠ 0x65 ∧ b ≠ 0x45

section Number

variable {digits rest : Bytes}

theorem endsNumber_cons {b : UInt8}
    (hb : isDigit b = false ∧ b ≠ 0x2e ∧ b ≠ 0x65 ∧ b ≠ 0x45)
    (rest : Bytes) : EndsNumber (b :: rest) := by
  rintro c ⟨⟩
  exact hb

theorem digitCount_append (hdigits : ∀ b ∈ digits, isDigit b = true)
    (hrest : EndsNumber rest) :
    digitCount (digits ++ rest) = digits.length := by
  have hend : rest.takeWhile isDigit = [] := by
    cases rest with
    | nil => rfl
    | cons b more =>
        rw [List.takeWhile_cons, if_neg (by simp [(hrest b rfl).1])]
  rw [digitCount, List.takeWhile_append_of_pos hdigits, hend, List.append_nil]

theorem readFraction_of_endsNumber (hrest : EndsNumber rest) :
    readFraction rest = .ok ((), 0) := by
  rw [readFraction.eq_def]
  split
  next => exact absurd rfl (hrest 0x2e rfl).2.1
  next => rfl

theorem readExponent_of_endsNumber (hrest : EndsNumber rest) :
    readExponent rest = .ok ((), 0) := by
  cases rest with
  | nil => rfl
  | cons b more =>
      obtain ⟨_, _, hsmall, hlarge⟩ := hrest b rfl
      rw [readExponent.eq_def]
      dsimp only
      rw [if_neg (by simp [hsmall, hlarge])]

theorem readWhole_decimal (n : Nat) (hrest : EndsNumber rest) :
    readWhole (Bytes.ofText (toString n) ++ rest) =
      .ok ((), (Bytes.ofText (toString n)).length) := by
  obtain ⟨b, more, hdigits, hzero⟩ := decimal_head n
  have hall := isDigit_of_mem_decimal n
  rw [hdigits] at hall ⊢
  rw [List.cons_append, readWhole.eq_def]
  split
  next after heq =>
    obtain ⟨rfl, rfl⟩ := List.cons.inj heq
    obtain ⟨-, rfl⟩ := hzero rfl
    rw [List.nil_append, show digitCount rest = 0 from digitCount_append
      (List.forall_mem_nil _) hrest]
    rfl
  next =>
    rw [readDigits, ← List.cons_append, digitCount_append hall hrest]
    rfl

/-- The digits of a number of 64 bits are read as the number. -/
theorem readNumber_decimal {n : Nat} (hn : n < UInt64.size)
    (hrest : EndsNumber rest) :
    readNumber false (Bytes.ofText (toString n) ++ rest) =
      .ok (.integer n, (Bytes.ofText (toString n)).length) := by
  rw [readNumber, readWhole_decimal n hrest]
  simp only [bind, Except.bind, pure, Except.pure, List.drop_left,
    readFraction_of_endsNumber hrest, readExponent_of_endsNumber hrest,
    Sized.after, Nat.add_zero, List.take_left, digitsValue_decimal]
  rw [if_pos ⟨trivial, rfl, hn⟩]

end Number

/-! ### Tokens -/

/-- Octets write a token before others: a reader takes just them for it,
wherever they stand. -/
def WritesToken (octets : Bytes) (token : Token) (rest : Bytes) : Prop :=
  ∀ offset, lexemesFrom offset 0 (octets ++ rest) =
    ⟨token, offset, offset + octets.length⟩ :: lexemesFrom
    (offset + octets.length) 0 rest

section Tokens

variable {b : UInt8} {more rest : Bytes} {token : Token}

/-- The octets of the token before are passed over. -/
theorem lexemesFrom_append (offset : Nat) (more rest : Bytes) :
    lexemesFrom offset more.length (more ++ rest) =
      lexemesFrom (offset + more.length) 0 rest := by
  induction more generalizing offset with
  | nil => rfl
  | cons b more ih =>
      rw [List.length_cons, List.cons_append, lexemesFrom, ih, Nat.add_assoc,
        Nat.add_comm 1]

theorem writesToken_of_readToken (hspace : isSpace b = false)
    (hread : readToken b (more ++ rest) = .ok (token, more.length)) :
    WritesToken (b :: more) token rest := by
  intro offset
  rw [List.cons_append, lexemesFrom.eq_def]
  dsimp only
  rw [if_neg (by simp [hspace]), hread]
  dsimp only
  rw [lexemesFrom_append, List.length_cons, Nat.add_comm more.length,
    Nat.add_assoc]

/-- A sign is one octet. -/
theorem lexemesFrom_sign (b : UInt8) (token : Token) {offset : Nat}
    (hspace : isSpace b = false) (hread : readToken b rest = .ok (token, 0)) :
    lexemesFrom offset 0 (b :: rest) =
      ⟨token, offset, offset + 1⟩ :: lexemesFrom (offset + 1) 0 rest := by
  have hwrites : WritesToken (b :: []) token rest :=
    writesToken_of_readToken hspace hread
  exact hwrites offset

theorem writesToken_null (rest : Bytes) :
    WritesToken (Bytes.ofText "null") .null rest := by
  have hword : Bytes.ofText "null" = 0x6e :: [0x75, 0x6c, 0x6c] := by
    decide +kernel
  rw [hword]
  exact writesToken_of_readToken (by decide) rfl

theorem writesToken_quoted (text : String) (rest : Bytes) :
    WritesToken (Bytes.ofText (quoted text)) (.text (some text)) rest := by
  obtain ⟨more, parts, hoctets, hread, hcontent⟩ := readParts_quoted text rest
  rw [hoctets]
  apply writesToken_of_readToken (by decide)
  rw [readToken, if_neg (by decide), if_neg (by decide), if_neg (by decide),
    if_neg (by decide), if_neg (by decide), if_neg (by decide), if_pos rfl,
    hread, Sized.after, hcontent, Nat.zero_add]

theorem writesToken_decimal {n : Nat} (hn : n < UInt64.size)
    (hrest : EndsNumber rest) : WritesToken (Bytes.ofText (toString n))
      (.integer n) rest := by
  have hnumber := readNumber_decimal hn hrest
  have hall := isDigit_of_mem_decimal n
  obtain ⟨b, more, hdigits, -⟩ := decimal_head n
  rw [hdigits] at hnumber hall ⊢
  have hne : ∀ other, isDigit other = false → b ≠ other := by
    rintro other hother rfl
    rw [hall b List.mem_cons_self] at hother
    cases hother
  have hspace : isSpace b = false := by
    simp [isSpace, hne 0x20 rfl, hne 0x09 rfl, hne 0x0a rfl, hne 0x0d rfl]
  refine writesToken_of_readToken hspace ?_
  rw [List.cons_append] at hnumber
  rw [readToken, if_neg (hne 0x7b rfl), if_neg (hne 0x7d rfl),
    if_neg (hne 0x5b rfl), if_neg (hne 0x5d rfl), if_neg (hne 0x2c rfl),
    if_neg (hne 0x3a rfl), if_neg (hne 0x22 rfl),
    if_neg (hne 0x6e rfl), if_neg (hne 0x74 rfl), if_neg (hne 0x66 rfl),
      if_neg (hne 0x2d rfl),
    if_pos (hall b List.mem_cons_self), hnumber]
  rfl

end Tokens

end TrustPath.Json
