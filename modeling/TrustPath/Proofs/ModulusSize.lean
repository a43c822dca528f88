import TrustPath.Policy
import TrustPath.Proofs.DerElements

/-!
The size of an RSA modulus. It is counted from the octets of the modulus, of
which the first is not zero unless there are no others; so it is the number of
bits of the modulus, and a least size of `k` bits admits exactly the moduli from
the power of two with exponent `k - 1` on.
-/

namespace TrustPath

namespace Bytes

/-- Octets of which the first is not zero have as many bits as the first one
has, and eight for each of the others. -/
theorem log2_toNat_cons {b : UInt8} (hb : b.toNat ≠ 0) (bs : Bytes) :
    toNat (b :: bs) ≠ 0 ∧ Nat.log2 (toNat (b :: bs)) =
      8 * bs.length + Nat.log2 b.toNat := by
  have hpower : 256 ^ bs.length = 2 ^ (8 * bs.length) := by rw [Nat.pow_mul]
  have hrest := toNat_lt bs
  have hlow : 2 ^ Nat.log2 b.toNat ≤ b.toNat := Nat.log2_self_le hb
  have hhigh : b.toNat + 1 ≤ 2 ^ (Nat.log2 b.toNat + 1) := Nat.lt_log2_self
  have hbelow : 2 ^ (8 * bs.length + Nat.log2 b.toNat) ≤ toNat (b :: bs) := by
    rw [toNat_cons, hpower, Nat.pow_add]
    exact (Nat.mul_le_mul_left _ hlow).trans (Nat.le_add_right _ _)
  have habove : toNat (b :: bs) < 2 ^
      (8 * bs.length + Nat.log2 b.toNat + 1) := by
    calc
      toNat (b :: bs) < 256 ^ bs.length * (b.toNat + 1) := by
        rw [toNat_cons, Nat.mul_succ]
        omega
      _ ≤ 256 ^ bs.length * 2 ^ (Nat.log2 b.toNat + 1) :=
        Nat.mul_le_mul_left _ hhigh
      _ = 2 ^ (8 * bs.length + Nat.log2 b.toNat + 1) := by
        rw [hpower, ← Nat.pow_add, Nat.add_assoc]
  have hne : toNat (b :: bs) ≠ 0 :=
    Nat.ne_of_gt ((Nat.two_pow_pos _).trans_le hbelow)
  exact ⟨hne, (Nat.log2_eq_iff hne).mpr ⟨hbelow, habove⟩⟩

end Bytes

namespace Der

theorem Element.expect?_eq_some_iff {tag : Tag} {e : Element}
    {contents : Bytes} : e.expect? tag = some contents ↔
      e = ⟨tag, contents⟩ := by
  rw [Element.expect?]
  cases e with
  | mk other octets =>
      by_cases htag : other = tag
      · simp [htag]
      · simp [htag]

/-- Contents octets write a natural number: they are an integer in its shortest
form with the sign bit clear. -/
structure WritesNatural (contents : Bytes) (n : Nat) : Prop where
  shortest : isMinimalInteger contents = true
  clear : ∃ first rest, contents = first :: rest ∧ first.toNat < 128
  value : Bytes.toNat contents = n

/-- The octets of a magnitude write the number, and do not begin with zero,
unless it is the only one. -/
theorem magnitude?_eq_some {contents magnitude : Bytes}
    (hread : magnitude? contents = some magnitude) :
    WritesNatural contents (Bytes.toNat magnitude) ∧
      ∃ first rest, magnitude = first :: rest ∧
        (first.toNat = 0 → rest = []) := by
  rw [magnitude?.eq_def] at hread
  split at hread
  next hshortest =>
    split at hread
    next a b rest =>
      split at hread
      next hzero =>
        cases hread
        refine ⟨⟨hshortest, ⟨a, b :: rest, rfl, by rw [hzero]; decide⟩, ?_⟩, b,
          rest, rfl, ?_⟩
        · rw [Bytes.toNat_cons, hzero]
          simp
        · intro hb
          simp [isMinimalInteger, hzero, hb] at hshortest
      next hne =>
        split at hread
        next hclear =>
          cases hread
          refine ⟨⟨hshortest, ⟨a, b :: rest, rfl, hclear⟩, rfl⟩, a, b :: rest,
            rfl, ?_⟩
          intro ha
          exact absurd (UInt8.toNat_inj.mp ha) hne
        next => cases hread
    next a =>
      split at hread
      next hclear =>
        cases hread
        exact ⟨⟨hshortest, ⟨a, [], rfl, hclear⟩, rfl⟩, a, [], rfl, fun _ => rfl⟩
      next => cases hread
    next => cases hread
  next => cases hread

theorem WritesNatural.exists_magnitude? {contents : Bytes} {n : Nat}
    (hwrites : WritesNatural contents n) :
    ∃ magnitude, magnitude? contents = some magnitude := by
  obtain ⟨first, rest, rfl, hclear⟩ := hwrites.clear
  rw [magnitude?.eq_def, if_pos hwrites.shortest]
  cases rest with
  | nil => exact ⟨_, if_pos hclear⟩
  | cons b rest =>
      by_cases hzero : first = 0x00
      · exact ⟨_, if_pos hzero⟩
      · exact ⟨_, (if_neg hzero).trans (if_pos hclear)⟩

end Der

open Der

/-- The size of a modulus in bits is that of the number. -/
theorem RsaPublicKey.modulusBits_eq {k : RsaPublicKey} {first : UInt8}
    {rest : Bytes} (hmodulus : k.modulus = first :: rest)
    (hfirst : first.toNat = 0 → rest = []) : k.modulusBits =
      if Bytes.toNat k.modulus = 0 then 0
        else Nat.log2 (Bytes.toNat k.modulus) + 1 := by
  rw [modulusBits, hmodulus]
  dsimp only
  by_cases hzero : first.toNat = 0
  · have hfirstZero : first = 0 := UInt8.toNat_inj.mp hzero
    rw [hfirst hzero, hfirstZero]
    rfl
  · obtain ⟨hne, hbits⟩ := Bytes.log2_toNat_cons hzero rest
    have hfirstNe : first ≠ 0 := mt (congrArg UInt8.toNat) hzero
    rw [if_neg hne, hbits, octetBitLength, if_neg hfirstNe, Nat.add_assoc]

namespace PublicKey

variable {key : PublicKey} {m : Nat}

/-- The octets of a key are those of an RSA key: a sequence of two natural
numbers, of which the first is the modulus. -/
structure HasModulus (key : PublicKey) (m : Nat) : Prop where
  written : ∃ modulus exponent e, WritesNatural modulus m ∧
    WritesNatural exponent e ∧
    key.key.octets = (Element.around .sequence [⟨.integer, modulus⟩,
      ⟨.integer, exponent⟩]).encode
  length_le : key.key.octets.length ≤ maxLength

theorem hasModulus_of_ofOctets? {k : RsaPublicKey}
    (hread : RsaPublicKey.ofOctets? key.key.octets = some k) :
    key.HasModulus (Bytes.toNat k.modulus) ∧
      ∃ first rest, k.modulus = first :: rest ∧
        (first.toNat = 0 → rest = []) := by
  obtain ⟨e, helement, hkey⟩ := Option.bind_eq_some_iff.mp hread
  obtain ⟨hoctets, _, hlength⟩ := element?_eq_some_iff.mp helement
  obtain ⟨es, hsequence, hnumbers⟩ := Option.bind_eq_some_iff.mp hkey
  obtain ⟨he, _⟩ := Element.sequence?_eq_some_iff.mp hsequence
  split at hnumbers
  next modulus exponent =>
    simp only [Option.bind_eq_bind, Option.bind_eq_some_iff, Option.pure_def,
      Option.some.injEq, Element.expect?_eq_some_iff] at hnumbers
    obtain ⟨contents, rfl, octets, hmodulus, contents', rfl, octets', hexponent,
        rfl⟩ := hnumbers
    obtain ⟨hwrites, hfirst⟩ := magnitude?_eq_some hmodulus
    obtain ⟨hwrites', _⟩ := magnitude?_eq_some hexponent
    exact ⟨⟨⟨contents, contents', _, hwrites, hwrites', by rw [hoctets, he]⟩,
      hlength⟩, hfirst⟩
  next => cases hnumbers

/-- The keys that are read are those that are written with a modulus. -/
theorem hasModulus_iff :
    key.HasModulus m ↔
      ∃ k, RsaPublicKey.ofOctets? key.key.octets = some k ∧
        Bytes.toNat k.modulus = m := by
  constructor
  · intro hmodulus
    obtain ⟨modulus, exponent, e, hwrites, hwrites', hoctets⟩ :=
      hmodulus.written
    obtain ⟨octets, hread⟩ := hwrites.exists_magnitude?
    obtain ⟨octets', hread'⟩ := hwrites'.exists_magnitude?
    have hlength := hmodulus.length_le
    have helement := element?_eq_some_iff.mpr ⟨hoctets, rfl, hlength⟩
    have hfits : ∀ x ∈ [(⟨.integer, modulus⟩ : Element), ⟨.integer, exponent⟩],
        x.Fits := by
      intro x hx
      have hinside : x.encode.length < key.key.octets.length :=
        hoctets ▸ Element.length_encode_lt_around hx
      have hcontents := x.length_contents_lt_encode
      refine ⟨?_, by omega⟩
      rw [List.mem_cons, List.mem_singleton] at hx
      rcases hx with rfl | rfl
      · rfl
      · rfl
    have hsequence := Element.sequence?_eq_some_iff.mpr ⟨rfl, hfits⟩
    refine ⟨⟨octets, octets'⟩, ?_, ?_⟩
    · rw [RsaPublicKey.ofOctets?, helement, Option.bind_some,
        RsaPublicKey.ofElement?, hsequence]
      simp [Element.expect?, hread, hread']
    · rw [← hwrites.value, (magnitude?_eq_some hread).1.value]
  · rintro ⟨k, hread, rfl⟩
    exact (hasModulus_of_ofOctets? hread).1

/-- The size that is counted is the number of bits of the modulus. -/
theorem HasModulus.rsaModulusBitsOr_eq (hmodulus : key.HasModulus m)
    (fault : Bytes → String) : key.rsaModulusBitsOr fault = .ok
      (if m = 0 then 0 else Nat.log2 m + 1) := by
  obtain ⟨k, hread, rfl⟩ := hasModulus_iff.mp hmodulus
  obtain ⟨_, first, rest, hfirst, hzero⟩ := hasModulus_of_ofOctets? hread
  rw [rsaModulusBitsOr, hread, ← RsaPublicKey.modulusBits_eq hfirst hzero]

end PublicKey

namespace Policy

variable {policy : Policy} {key : PublicKey} {m : Nat}

/-- Without a size the key cannot be read; with one, it is compared with the
least size. -/
theorem checkKeySize_eq_ok_iff_of_bits {bits : Nat}
    (hrsa : key.algorithm.algorithm = .rsaEncryption)
    (hbits : key.rsaModulusBitsOr policy.keyFault = .ok bits) :
    policy.checkKeySize key = .ok () ↔
      policy.minimumRsaModulus.toNat ≤ bits := by
  rw [checkKeySize, if_neg (not_not_intro hrsa), hbits]
  dsimp only
  split
  next hsmall =>
    exact ⟨nofun, fun hlarge => absurd hsmall (Nat.not_lt_of_le hlarge)⟩
  next hlarge => exact ⟨fun _ => Nat.le_of_not_lt hlarge, fun _ => rfl⟩

end Policy

/-- A number has at least `k + 1` bits from the power of two with exponent `k`
on. -/
theorem succ_le_bits_iff {k m : Nat} :
    k + 1 ≤ (if m = 0 then 0 else Nat.log2 m + 1) ↔ 2 ^ k ≤ m := by
  split
  next hzero =>
    have hpositive := Nat.two_pow_pos k
    omega
  next hne => rw [Nat.succ_le_succ_iff, Nat.le_log2 hne]

/-- An RSA key that can be read has a modulus, and its size is the number of
bits of that: none for zero, and otherwise one more than the logarithm. A policy
that asks for `k` bits, one at least, accepts it exactly if the modulus is the
power of two with exponent `k - 1` or more. Keys of other algorithms may have
any size. -/
theorem modulus_size_exact :
    (∀ (key : PublicKey) (m : Nat), key.HasModulus m ↔
      ∃ k, RsaPublicKey.ofOctets? key.key.octets = some k ∧
        Bytes.toNat k.modulus = m) ∧
    (∀ (key : PublicKey) (m : Nat), key.HasModulus m →
      (∀ fault : Bytes → String,
        key.rsaModulusBitsOr fault =
          .ok (if m = 0 then 0 else Nat.log2 m + 1)) ∧
      ∀ policy : Policy, key.algorithm.algorithm = .rsaEncryption →
        1 ≤ policy.minimumRsaModulus.toNat →
        (policy.checkKeySize key = .ok () ↔
          2 ^ (policy.minimumRsaModulus.toNat - 1) ≤ m)) ∧
    ∀ (key : PublicKey) (policy : Policy),
      key.algorithm.algorithm ≠ .rsaEncryption →
      policy.checkKeySize key = .ok () := by
  refine ⟨fun key m => PublicKey.hasModulus_iff, ?_, ?_⟩
  · intro key m hmodulus
    refine ⟨hmodulus.rsaModulusBitsOr_eq, ?_⟩
    intro policy hrsa hminimum
    rw [Policy.checkKeySize_eq_ok_iff_of_bits hrsa
      (hmodulus.rsaModulusBitsOr_eq _), ← succ_le_bits_iff,
      Nat.sub_add_cancel hminimum]
  · intro key policy hother
    rw [Policy.checkKeySize, if_pos hother]

/-- A modulus that fills its octet, and is written with a zero octet before it,
has eight bits and no more. -/
theorem octet_modulus_accepted :
    let key : PublicKey :=
      ⟨⟨.rsaEncryption, none⟩,
        ⟨0, [0x30, 0x07, 0x02, 0x02, 0x00, 0x80, 0x02, 0x01, 0x03]⟩⟩
    let curveKey : PublicKey := ⟨⟨.ecPublicKey, none⟩, ⟨0, [0x04]⟩⟩
    let policy (minimum : UInt64) : Policy :=
      ⟨⟨2030, 1, 1, 0, 0, 0, by decide⟩, 8, none, .serverAuth, minimum,
        .standard, plainKeyFault⟩
    key.HasModulus 128 ∧ key.rsaModulusBits = .ok 8 ∧
      (policy 8).checkKeySize key = .ok () ∧ (policy 9).checkKeySize key ≠
      .ok () ∧ (policy 9).checkKeySize curveKey = .ok () := by
  intro key curveKey policy
  obtain ⟨hread, hsize, hother⟩ := modulus_size_exact
  have hmodulus : key.HasModulus 128 :=
    (hread key 128).mpr ⟨⟨[0x80], [0x03]⟩, by decide, by decide⟩
  obtain ⟨hbits, haccepts⟩ := hsize key 128 hmodulus
  refine ⟨hmodulus, hbits plainKeyFault, ?_, ?_,
    hother curveKey (policy 9) (by decide)⟩
  · rw [haccepts (policy 8) rfl (by decide)]
    decide
  · rw [Ne, haccepts (policy 9) rfl (by decide)]
    decide

end TrustPath
