import TrustPath.Proofs.DerElements
import TrustPath.Subject.IpAddress

/-!
Address ranges in numbers. Octets write a number, most significant octet first,
and masking them one by one masks the number. So an address lies in a range
exactly if it agrees with the network in the bits of the mask, and if these are
leading bits, it does so exactly if the two have the same beginning.
-/

namespace TrustPath

/-! ### Octets and masks -/

namespace Bytes

variable {octets network mask : Bytes}

/-- Numbers are masked digit by digit, the lowest digit having so many bits. -/
theorem land_digits {bits low low' : Nat} (hlow : low < 2 ^ bits)
    (hlow' : low' < 2 ^ bits) (high high' : Nat) :
    (2 ^ bits * high + low) &&& (2 ^ bits * high' + low') =
      2 ^ bits * (high &&& high') + (low &&& low') := by
  apply Nat.eq_of_testBit_eq
  intro i
  have hboth : low &&& low' < 2 ^ bits := Nat.and_lt_two_pow low hlow'
  rw [Nat.testBit_and, Nat.testBit_two_pow_mul_add _ hlow,
    Nat.testBit_two_pow_mul_add _ hlow', Nat.testBit_two_pow_mul_add _ hboth]
  by_cases hi : i < bits
  · simp only [if_pos hi, Nat.testBit_and]
  · simp only [if_neg hi, Nat.testBit_and]

/-- The octets with the bits kept that are set in a mask. -/
def masked (octets mask : Bytes) : Bytes :=
  List.zipWith (· &&& ·) octets mask

theorem length_masked (hlength : octets.length = mask.length) :
    (masked octets mask).length = mask.length := by
  rw [masked, List.length_zipWith, hlength, Nat.min_self]

theorem two_pow_octets (count : Nat) : 2 ^ (8 * count) = 256 ^ count := by
  rw [Nat.pow_mul]

theorem toNat_lt_two_pow (octets : Bytes) :
    toNat octets < 2 ^ (8 * octets.length) := by
  rw [two_pow_octets]
  exact toNat_lt octets

theorem toNat_masked (hlength : octets.length = mask.length) :
    toNat (masked octets mask) = toNat octets &&& toNat mask := by
  induction octets generalizing mask with
  | nil => simp [masked, toNat]
  | cons octet octets ih =>
      cases mask with
      | nil => cases hlength
      | cons m mask =>
          have hrest : octets.length = mask.length := Nat.succ.inj hlength
          have hoctets := toNat_lt_two_pow octets
          rw [hrest] at hoctets
          calc
            toNat (masked (octet :: octets) (m :: mask))
                = 256 ^ (masked octets mask).length * (octet &&& m).toNat +
                    toNat (masked octets mask) := toNat_cons _ _
            _ = 2 ^ (8 * mask.length) * (octet.toNat &&& m.toNat) +
                  (toNat octets &&& toNat mask) := by
                rw [length_masked hrest, ih hrest, two_pow_octets,
                  UInt8.toNat_and]
            _ = (2 ^ (8 * mask.length) * octet.toNat + toNat octets) &&&
                  (2 ^ (8 * mask.length) * m.toNat + toNat mask) :=
                (land_digits hoctets (toNat_lt_two_pow mask) _ _).symm
            _ = toNat (octet :: octets) &&& toNat (m :: mask) := by
                rw [toNat_cons, toNat_cons, hrest, two_pow_octets]

/-- Octets of one length are the same if their numbers are. -/
theorem eq_of_toNat_eq (hlength : octets.length = network.length)
    (hsame : toNat octets = toNat network) : octets = network := by
  rw [← ofNat_toNat octets, ← ofNat_toNat network, hlength, hsame]

/-- Octets are compared under a mask one by one. -/
theorem all_zip_iff (hnetwork : network.length = octets.length)
    (hmask : mask.length = octets.length) :
    ((octets.zip (network.zip mask)).all fun (octet, network, mask) =>
        octet &&& mask = network &&& mask) = true ↔
      masked octets mask = masked network mask := by
  induction octets generalizing network mask with
  | nil =>
      rw [List.length_nil, List.length_eq_zero_iff] at hnetwork
      simp [hnetwork, masked]
  | cons octet octets ih =>
      cases network with
      | nil => cases hnetwork
      | cons n network =>
          cases mask with
          | nil => cases hmask
          | cons m mask =>
              have hrest := ih (Nat.succ.inj hnetwork) (Nat.succ.inj hmask)
              rw [List.zip_cons_cons, List.zip_cons_cons, List.all_cons,
                Bool.and_eq_true, decide_eq_true_iff, hrest]
              exact List.cons_eq_cons.symm

end Bytes

/-! ### Masks of leading bits -/

/-- Of the bits of a number of a width, the first so many are set, and no
others. -/
structure IsLeadingMask (width count mask : Nat) : Prop where
  count_le : count ≤ width
  testBit_eq : ∀ i, mask.testBit i = decide (width - count ≤ i ∧ i < width)

namespace IsLeadingMask

variable {width count shorter mask other x y : Nat}

/-- Under a mask of leading bits, numbers are compared without the bits behind
them. -/
theorem land_eq_iff (hmask : IsLeadingMask width count mask)
    (hx : x < 2 ^ width) (hy : y < 2 ^ width) :
    x &&& mask = y &&& mask ↔
      x / 2 ^ (width - count) = y / 2 ^ (width - count) := by
  constructor
  · intro hsame
    apply Nat.eq_of_testBit_eq
    intro i
    rw [Nat.testBit_div_two_pow, Nat.testBit_div_two_pow]
    by_cases hi : i + (width - count) < width
    · have hbit := congrArg (fun n => n.testBit (i + (width - count))) hsame
      simpa [Nat.testBit_and, hmask.testBit_eq, hi] using hbit
    · -- from the width on, neither number has a bit
      have hpower := Nat.pow_le_pow_right (Nat.succ_pos 1) (Nat.le_of_not_lt hi)
      rw [Nat.testBit_lt_two_pow (hx.trans_le hpower),
        Nat.testBit_lt_two_pow (hy.trans_le hpower)]
  · intro hsame
    apply Nat.eq_of_testBit_eq
    intro i
    rw [Nat.testBit_and, Nat.testBit_and, hmask.testBit_eq]
    by_cases hi : width - count ≤ i
    · have hbit := congrArg (fun n => n.testBit (i - (width - count))) hsame
      simp only [Nat.testBit_div_two_pow, Nat.sub_add_cancel hi] at hbit
      rw [hbit]
    · simp [hi]

/-- Numbers that have the same longer beginning have the same shorter one. -/
theorem land_eq_of_le (hmask : IsLeadingMask width count mask)
    (hother : IsLeadingMask width shorter other) (hle : shorter ≤ count)
    (hsame : x &&& mask = y &&& mask) : x &&& other = y &&& other := by
  have hsub : mask &&& other = other := by
    apply Nat.eq_of_testBit_eq
    intro i
    rw [Nat.testBit_and, hmask.testBit_eq, hother.testBit_eq, ← Bool.decide_and]
    apply decide_eq_decide.mpr
    omega
  calc
    x &&& other = x &&& mask &&& other := by rw [Nat.and_assoc, hsub]
    _ = y &&& mask &&& other := by rw [hsame]
    _ = y &&& other := by rw [Nat.and_assoc, hsub]

/-- The mask as a number. -/
theorem of_eq (hcount : count ≤ width)
    (hmask : mask = 2 ^ (width - count) * (2 ^ count - 1)) :
    IsLeadingMask width count mask where
  count_le := hcount
  testBit_eq i := by
    rw [hmask, Nat.testBit_two_pow_mul, Nat.testBit_two_pow_sub_one,
      ← Bool.decide_and]
    apply decide_eq_decide.mpr
    omega

end IsLeadingMask

/-! ### Ranges -/

namespace IpAddress

variable {address other : IpAddress} {range range' : Bytes}
  {network network' mask mask' : Nat}

/-- The number of bits of an address. -/
def width (address : IpAddress) : Nat :=
  8 * address.octets.length

/-- The number that the octets of an address write. -/
def toNat (address : IpAddress) : Nat :=
  Bytes.toNat address.octets

/-- A range is made of a network and a mask, both as long as the address and
given here as numbers. -/
structure IsRange (address : IpAddress) (range : Bytes) (network mask : Nat) :
    Prop where
  length_eq : range.length = 2 * address.octets.length
  network_eq : Bytes.toNat (range.take address.octets.length) = network
  mask_eq : Bytes.toNat (range.drop address.octets.length) = mask

theorem toNat_lt (address : IpAddress) : address.toNat < 2 ^ address.width :=
  Bytes.toNat_lt_two_pow address.octets

theorem isWithin_eq_false_of_length_ne
    (hlength : range.length ≠ 2 * address.octets.length) :
    address.isWithin range = false := by
  rw [isWithin, decide_eq_false hlength, Bool.false_and]

namespace IsRange

theorem length_take (hrange : address.IsRange range network mask) :
    (range.take address.octets.length).length = address.octets.length := by
  have hlength := hrange.length_eq
  rw [List.length_take]
  omega

theorem length_drop (hrange : address.IsRange range network mask) :
    (range.drop address.octets.length).length = address.octets.length := by
  have hlength := hrange.length_eq
  rw [List.length_drop]
  omega

theorem network_lt (hrange : address.IsRange range network mask) :
    network < 2 ^ address.width := by
  have hlt := Bytes.toNat_lt_two_pow (range.take address.octets.length)
  rwa [hrange.length_take, hrange.network_eq] at hlt

/-- The address agrees with the network in the bits of the mask. -/
theorem isWithin_iff (hrange : address.IsRange range network mask) :
    address.isWithin range = true ↔
      address.toNat &&& mask = network &&& mask := by
  have hnetwork := hrange.length_take
  have hmask := hrange.length_drop
  rw [isWithin, decide_eq_true hrange.length_eq, Bool.true_and,
    Bytes.all_zip_iff hnetwork hmask, ← hrange.network_eq,
    ← hrange.mask_eq, toNat, ← Bytes.toNat_masked hmask.symm,
    ← Bytes.toNat_masked (hnetwork.trans hmask.symm)]
  constructor
  · intro hsame
    rw [hsame]
  · apply Bytes.eq_of_toNat_eq
    rw [Bytes.length_masked hmask.symm,
      Bytes.length_masked (hnetwork.trans hmask.symm)]

/-- Where the mask is clear, neither the address nor the network counts. -/
theorem isWithin_eq (hrange : address.IsRange range network mask)
    (hrange' : other.IsRange range' network' mask)
    (haddress : address.toNat &&& mask = other.toNat &&& mask)
    (hnetwork : network &&& mask = network' &&& mask) :
    address.isWithin range = other.isWithin range' := by
  rw [Bool.eq_iff_iff, hrange.isWithin_iff, hrange'.isWithin_iff, haddress,
    hnetwork]

/-- Under a mask of leading bits, the address begins like the network. -/
theorem isWithin_iff_div {count : Nat}
    (hrange : address.IsRange range network mask)
    (hmask : IsLeadingMask address.width count mask) :
    address.isWithin range = true ↔
      address.toNat / 2 ^ (address.width - count) =
        network / 2 ^ (address.width - count) := by
  rw [hrange.isWithin_iff]
  exact hmask.land_eq_iff address.toNat_lt hrange.network_lt

/-- A range that asks for a shorter beginning of the same network covers the
address too. -/
theorem isWithin_of_le {count shorter : Nat}
    (hrange : address.IsRange range network mask)
    (hrange' : address.IsRange range' network' mask')
    (hmask : IsLeadingMask address.width count mask)
    (hmask' : IsLeadingMask address.width shorter mask') (hle : shorter ≤ count)
    (hnetwork : network &&& mask' = network' &&& mask')
    (hwithin : address.isWithin range = true) :
    address.isWithin range' = true := by
  apply hrange'.isWithin_iff.mpr
  rw [← hnetwork]
  apply hmask.land_eq_of_le hmask' hle
  exact hrange.isWithin_iff.mp hwithin

end IsRange

/-- A range covers no address of another length than its halves. It covers the
others that agree with its network in the bits of its mask, whatever the other
bits are. If these are leading bits, it covers the addresses that begin like the
network, and one that asks for more of the same network covers fewer. -/
theorem isWithin_iff_prefix :
    (∀ (address : IpAddress) (range : Bytes),
      range.length ≠ 2 * address.octets.length →
      address.isWithin range = false) ∧
    (∀ (address : IpAddress) (range : Bytes) (network mask : Nat),
      address.IsRange range network mask →
      (address.isWithin range = true ↔
        address.toNat &&& mask = network &&& mask)) ∧
    (∀ (address other : IpAddress) (range range' : Bytes)
      (network network' mask : Nat),
      address.IsRange range network mask → other.IsRange range' network' mask →
      address.toNat &&& mask = other.toNat &&& mask →
      network &&& mask = network' &&& mask →
      address.isWithin range = other.isWithin range') ∧
    (∀ (address : IpAddress) (range : Bytes) (network mask count : Nat),
      address.IsRange range network mask →
      IsLeadingMask address.width count mask →
      (address.isWithin range = true ↔
        address.toNat / 2 ^ (address.width - count) =
          network / 2 ^ (address.width - count))) ∧
    ∀ (address : IpAddress) (range range' : Bytes)
      (network network' mask mask' count shorter : Nat),
      address.IsRange range network mask →
      address.IsRange range' network' mask' →
      IsLeadingMask address.width count mask →
      IsLeadingMask address.width shorter mask' →
      shorter ≤ count → network &&& mask' = network' &&& mask' →
      address.isWithin range = true → address.isWithin range' = true := by
  refine ⟨?_, ?_, ?_, ?_, ?_⟩
  · intro address range hlength
    exact isWithin_eq_false_of_length_ne hlength
  · intro address range network mask hrange
    exact hrange.isWithin_iff
  · intro address other range range' network network' mask hrange hrange'
      haddress hnetwork
    exact hrange.isWithin_eq hrange' haddress hnetwork
  · intro address range network mask count hrange hmask
    exact hrange.isWithin_iff_div hmask
  · intro address range range' network network' mask mask' count shorter hrange
      hrange' hmask hmask'
      hle hnetwork hwithin
    exact hrange.isWithin_of_le hrange' hmask hmask' hle hnetwork hwithin

/-- A block of twelve leading bits, which end inside an octet: its last
addresses, the first ones behind it, the block with other bits behind the
twelve, a wider block and an address of sixteen octets. -/
theorem twelve_bits_cover :
    let inside : IpAddress := ⟨[172, 31, 255, 1], Or.inl rfl⟩
    let outside : IpAddress := ⟨[172, 32, 0, 1], Or.inl rfl⟩
    let long : IpAddress := ⟨List.replicate 16 172, Or.inr rfl⟩
    let block : Bytes := [172, 16, 0, 0, 255, 240, 0, 0]
    let loose : Bytes := [172, 16, 3, 4, 255, 240, 0, 0]
    let wider : Bytes := [172, 0, 0, 0, 255, 0, 0, 0]
    inside.isWithin block = true ∧ outside.isWithin block = false ∧
      long.isWithin block = false ∧
      inside.isWithin block = inside.isWithin loose ∧
      inside.isWithin wider = true ∧
      (inside.toNat &&& 0xfff00000 = 0xac100000 &&& 0xfff00000) := by
  intro inside outside long block loose wider
  obtain ⟨hlength, hmasked, hother, hbeginning, hwider⟩ := isWithin_iff_prefix
  have hblock : inside.IsRange block 0xac100000 0xfff00000 := ⟨rfl, rfl, rfl⟩
  have hloose : inside.IsRange loose 0xac100304 0xfff00000 := ⟨rfl, rfl, rfl⟩
  have htwelve : IsLeadingMask inside.width 12 0xfff00000 :=
    .of_eq (by decide) (by decide)
  have hcovers : inside.isWithin block = true :=
    (hbeginning _ _ _ _ _ hblock htwelve).mpr (by decide)
  refine ⟨hcovers, ?_, hlength _ _ (by decide), ?_, ?_,
    (hmasked _ _ _ _ hblock).mp hcovers⟩
  · rw [Bool.eq_false_iff]
    intro hwithin
    have hbegins := (hbeginning outside block 0xac100000 0xfff00000 12
        ⟨rfl, rfl, rfl⟩
      (.of_eq (by decide) (by decide))).mp hwithin
    exact absurd hbegins (by decide)
  · apply hother _ _ _ _ _ _ _ hblock hloose
    · rfl
    · decide
  · apply hwider _ _ _ 0xac100000 0xac000000 0xfff00000 0xff000000 12 8 hblock
      ⟨rfl, rfl, rfl⟩ htwelve
    · exact .of_eq (by decide) (by decide)
    · decide
    · rfl
    · exact hcovers

end IpAddress

end TrustPath
