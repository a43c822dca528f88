import TrustPath.Proofs.DayCount
import TrustPath.Proofs.JsonValues
import TrustPath.Settings

/-!
Settings that are written as JSON are read back. Each member of the text is read
as the setting it was written for: a number that is within its bounds, a moment
from its seconds, a text from what stands between quotes, bounds from an object
of their own, and nothing from null.
-/

namespace TrustPath

open Json (Writes)

namespace Json

/-! ### Single settings -/

theorem writes_natural {n limit : Nat} (hn : n ≤ limit)
    (hlimit : limit < UInt64.size) :
    Writes (Bytes.ofText (toString n)) fun value => ∀ expected,
      value.natural limit expected = .ok n := by
  refine (Writes.decimal (Nat.lt_of_le_of_lt hn hlimit)).mono ?_
  rintro value ⟨start, stop, rfl⟩ expected
  exact if_pos ⟨Int.natCast_nonneg n, Int.ofNat_le.mpr hn⟩

theorem writes_count (n : UInt64) :
    Writes (Bytes.ofText (toString n.toNat)) fun value =>
      value.count = .ok n := by
  have hn : n.toNat ≤ UInt64.size - 1 := Nat.le_sub_one_of_lt n.toNat_lt
  refine (writes_natural hn (by decide)).mono fun value hvalue => ?_
  rw [count, hvalue, Except.map, UInt64.ofNat_toNat]

theorem writes_countBelow256 (n : UInt8) :
    Writes (Bytes.ofText (toString n.toNat)) fun value =>
      value.countBelow256 = .ok n := by
  have hn : n.toNat ≤ UInt8.size - 1 := Nat.le_sub_one_of_lt n.toNat_lt
  refine (writes_natural hn (by decide)).mono fun value hvalue => ?_
  rw [countBelow256, hvalue, Except.map, UInt8.ofNat_toNat]

/-- The seconds of a moment have 64 bits, and stand for no other moment. -/
theorem writes_moment (t : DateTime) :
    Writes (Bytes.ofText (toString t.toSeconds)) fun value =>
      value.moment = .ok t := by
  have hseconds : t.toSeconds < UInt64.size :=
    Nat.lt_of_le_of_lt t.toSeconds_le (by decide)
  refine (Writes.decimal hseconds).mono ?_
  rintro value ⟨start, stop, rfl⟩
  have hread : DateTime.ofSeconds? t.toSeconds = some t :=
    DateTime.ofSeconds?_eq_some_iff.mpr rfl
  change moment (.scalar ⟨.integer (.ofNat t.toSeconds), start, stop⟩) = .ok t
  rw [moment, hread]

theorem writes_text (text : String) :
    Writes (Bytes.ofText (quoted text)) fun value => value.text = .ok text := by
  refine (Writes.quoted text).mono ?_
  rintro value ⟨start, stop, rfl⟩
  rfl

/-- Null is read as a setting that is missing, and only null is. -/
theorem writes_orNull {α : Type} {write : α → String}
    {read : Json → Except Fault α}
    (hnull : ∀ start stop, ∃ fault, read (.scalar ⟨.null, start, stop⟩) =
      .error fault)
    (hwrites : ∀ a, Writes (Bytes.ofText (write a)) fun value =>
      read value = .ok a)
    (setting : Option α) :
    Writes (Bytes.ofText (PolicySettings.orNull write setting)) fun value =>
      optional read (some value) = .ok setting := by
  cases setting with
  | none =>
      refine Writes.null.mono ?_
      rintro value ⟨start, stop, rfl⟩
      rfl
  | some a =>
      refine (hwrites a).mono fun value hread => ?_
      rw [optional.eq_def]
      split
      next heq => cases heq
      next start stop heq =>
        obtain ⟨fault, hfault⟩ := hnull start stop
        rw [Option.some.inj heq, hfault] at hread
        cases hread
      next heq =>
        rw [← Option.some.inj heq, hread]
        rfl

end Json

/-! ### Bounds -/

namespace SearchLimits

def members (limits : SearchLimits) : List Json.Member :=
  [⟨"max_signature_checks", _, _, Json.writes_count limits.maxSignatureChecks⟩,
    ⟨"max_candidates", _, _, Json.writes_count limits.maxCandidates⟩]

theorem ofText_toJson (limits : SearchLimits) :
    Bytes.ofText limits.toJson = Json.objectOctets limits.members := by
  have hchecks : Bytes.ofText "\x7b\"max_signature_checks\":" =
      0x7b :: Bytes.ofText (Json.quoted "max_signature_checks") ++ [0x3a] := by
        decide +kernel
  have hcandidates : Bytes.ofText ",\"max_candidates\":" =
      0x2c :: Bytes.ofText (Json.quoted "max_candidates") ++ [0x3a] := by
        decide +kernel
  have hend : Bytes.ofText "\x7d" = [0x7d] := by decide +kernel
  -- looking for an equation, as `rw` does, evaluates the texts
  unfold toJson
  simp only [Bytes.ofText_append, hchecks, hcandidates, hend, Json.objectOctets,
    members, Json.Member.line, List.map_cons, List.map_nil,
    List.intercalate_cons_cons, List.intercalate_singleton,
    List.append_assoc, List.cons_append, List.nil_append]

/-- Bounds that were written are read back. -/
theorem writes_toJson (limits : SearchLimits) :
    Writes (Bytes.ofText limits.toJson) fun value =>
      ofJsonValue value = .ok limits := by
  rw [ofText_toJson]
  refine (Writes.record (by simp [members])).mono fun value hrecord => ?_
  obtain ⟨fields, hread, hmembers⟩ :=
    hrecord ["max_signature_checks", "max_candidates"]
      "struct PathBuildingLimits" (by simp [members])
  simp only [members, List.forall_mem_cons] at hmembers
  obtain ⟨⟨checks, hchecks, hcount⟩, ⟨candidates, hcandidates, hcount'⟩, -⟩ :=
    hmembers
  rw [ofJsonValue, hread]
  simp only [bind, Except.bind, pure, Except.pure, hchecks, hcandidates, hcount,
    hcount']

end SearchLimits

/-! ### All settings -/

namespace PolicySettings

def members (settings : PolicySettings) : List Json.Member :=
  [⟨"validation_time", _, _,
      Json.writes_orNull (fun _ _ => ⟨_, rfl⟩) Json.writes_moment
      settings.validationTime⟩,
    ⟨"max_chain_depth", _, _,
      Json.writes_orNull (fun _ _ => ⟨_, rfl⟩) Json.writes_countBelow256
      settings.maxChainDepth⟩,
    ⟨"minimum_rsa_modulus", _, _,
      Json.writes_orNull (fun _ _ => ⟨_, rfl⟩) Json.writes_count
      settings.minimumRsaModulus⟩,
    ⟨"extended_key_usage", _, _,
      Json.writes_orNull (fun _ _ => ⟨_, rfl⟩) Json.writes_text
      settings.purposeText⟩,
    ⟨"limits", _, _,
      Json.writes_orNull (fun _ _ => ⟨_, rfl⟩) SearchLimits.writes_toJson
      settings.limits⟩]

theorem ofText_toJson (settings : PolicySettings) :
    Bytes.ofText settings.toJson = Json.objectOctets settings.members := by
  have htime : Bytes.ofText "\x7b\"validation_time\":" =
      0x7b :: Bytes.ofText (Json.quoted "validation_time") ++ [0x3a] := by
        decide +kernel
  have hdepth : Bytes.ofText ",\"max_chain_depth\":" =
      0x2c :: Bytes.ofText (Json.quoted "max_chain_depth") ++ [0x3a] := by
        decide +kernel
  have hmodulus : Bytes.ofText ",\"minimum_rsa_modulus\":" =
      0x2c :: Bytes.ofText (Json.quoted "minimum_rsa_modulus") ++ [0x3a] := by
        decide +kernel
  have hpurpose : Bytes.ofText ",\"extended_key_usage\":" =
      0x2c :: Bytes.ofText (Json.quoted "extended_key_usage") ++ [0x3a] := by
        decide +kernel
  have hlimits : Bytes.ofText ",\"limits\":" =
      0x2c :: Bytes.ofText (Json.quoted "limits") ++ [0x3a] := by decide +kernel
  have hend : Bytes.ofText "\x7d" = [0x7d] := by decide +kernel
  -- looking for an equation, as `rw` does, evaluates the texts
  unfold toJson
  simp only [Bytes.ofText_append, htime, hdepth, hmodulus, hpurpose, hlimits,
    hend, Json.objectOctets, members, Json.Member.line, List.map_cons,
    List.map_nil, List.intercalate_cons_cons,
    List.intercalate_singleton, List.append_assoc, List.cons_append,
      List.nil_append]

/-- Settings are written as an object that is read as the settings. -/
theorem writes_toJson (settings : PolicySettings) :
    Writes (Bytes.ofText settings.toJson) fun value =>
      ofJsonValue value = .ok settings := by
  rw [ofText_toJson]
  refine (Writes.record (by simp [members])).mono fun value hrecord => ?_
  obtain ⟨fields, hread, hmembers⟩ := hrecord
    ["validation_time", "max_chain_depth", "minimum_rsa_modulus",
      "extended_key_usage", "limits"]
    "struct PolicySettings" (by simp [members])
  simp only [members, List.forall_mem_cons] at hmembers
  obtain ⟨⟨time, htime, hmoment⟩, ⟨depth, hdepth, hcount⟩,
      ⟨bits, hbits, hcount'⟩,
    ⟨purpose, hpurpose, htext⟩, ⟨limits, hlimits, hbounds⟩, -⟩ := hmembers
  rw [ofJsonValue, hread]
  simp only [bind, Except.bind, pure, Except.pure, htime, hmoment, hdepth,
    hcount, hbits, hcount', hpurpose, htext, hlimits, hbounds]

/-- Settings that were written as JSON are read back, each as it was or missing
as it was, and nothing is logged. -/
theorem ofJson_toJson (settings : PolicySettings) :
    ofJson (Bytes.ofText settings.toJson) = .quiet (.ok settings) := by
  obtain ⟨value, hvalue, hread⟩ := (writes_toJson settings).ofBytes
  rw [ofJson, hvalue, Except.bind, hread]

end PolicySettings

end TrustPath
