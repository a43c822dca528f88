import TrustPath.Proofs.ChainFamily
import TrustPath.Proofs.DayCount

/-!
Moments are compared field by field in one place and by their seconds in
another. Both ways agree, so that a certificate is valid from the first of its
dates to the last.
-/

namespace TrustPath

namespace DateTime

def first : DateTime :=
  ⟨1970, 1, 1, 0, 0, 0, by decide⟩

def last : DateTime :=
  ⟨9999, 12, 31, 23, 59, 59, by decide⟩

theorem toSeconds_first : first.toSeconds = 0 := rfl

theorem toSeconds_last : last.toSeconds = 253402300799 := by
  decide +kernel

/-- The seconds that stand for a moment are those from the first moment to the
last. -/
theorem exists_ofSeconds?_iff {seconds : Nat} :
    (∃ t, ofSeconds? seconds = some t) ↔ first.toSeconds ≤ seconds ∧
      seconds ≤ last.toSeconds := by
  rw [toSeconds_first, toSeconds_last, and_iff_right (Nat.zero_le seconds)]
  constructor
  · rintro ⟨t, hread⟩
    rw [← ofSeconds?_eq_some_iff.mp hread]
    exact t.toSeconds_le
  · intro hseconds
    obtain ⟨t, hread, _⟩ := exists_ofSeconds? hseconds
    exact ⟨t, hread⟩

end DateTime

namespace TbsCertificate

open DateTime

/-- What is found does not depend on whether it is logged. -/
theorem value_validAt (tbs : TbsCertificate) (now : DateTime)
    (stifleLog : Bool) : (tbs.validAt now stifleLog).value =
      if now.toSeconds < tbs.validity.notBefore.moment.toSeconds then
        .error (.rejectedAs .invalidNotBeforeDate
          (tbs.subject.text ++ " is not valid before " ++
            tbs.validity.notBefore.moment.text))
      else if tbs.validity.notAfter.moment.toSeconds < now.toSeconds then
        .error (.rejectedAs .invalidNotAfterDate
          (tbs.subject.text ++ " expired at " ++
            tbs.validity.notAfter.moment.text))
      else .ok (tbs.validity.notAfter.moment.toSeconds - now.toSeconds) := by
  rw [validAt]
  split
  · cases stifleLog <;> rfl
  · split
    · cases stifleLog <;> rfl
    · rfl

end TbsCertificate

open DateTime in
/-- The seconds from the first moment to the last are those that stand for a
moment, each for the one that has as many. Moments, and a moment and a date of a
certificate, compare field by field as by their seconds. A certificate is valid
at a moment that is neither before its first date nor after its last one, and
what is answered is how far off that is; a moment before the first date fails
for that, also if it is after the last one. -/
theorem times_compare_as_seconds :
    (∀ seconds : Nat, ((∃ t, ofSeconds? seconds = some t) ↔
        first.toSeconds ≤ seconds ∧ seconds ≤ last.toSeconds) ∧
      ∀ t, ofSeconds? seconds = some t → t.toSeconds = seconds) ∧
    (∀ a b : DateTime, a.cmp b = compare a.toSeconds b.toSeconds ∧
      (a = b ↔ a.toSeconds = b.toSeconds)) ∧
    (∀ (now : DateTime) (date : CertificateTime),
      now.cmp date.moment = compare now.toSeconds date.moment.toSeconds ∧
      (now = date.moment ↔ now.toSeconds = date.moment.toSeconds)) ∧
    ∀ (tbs : TbsCertificate) (now : DateTime) (stifleLog : Bool),
      ((∃ left, (tbs.validAt now stifleLog).value = .ok left) ↔
        now.cmp tbs.validity.notBefore.moment ≠ .lt ∧
          now.cmp tbs.validity.notAfter.moment ≠ .gt) ∧
      (∀ left, (tbs.validAt now stifleLog).value = .ok left →
        now.toSeconds + left = tbs.validity.notAfter.moment.toSeconds) ∧
      (now.cmp tbs.validity.notBefore.moment = .lt →
        (tbs.validAt now stifleLog).value =
          .error (.rejectedAs .invalidNotBeforeDate
          (tbs.subject.text ++ " is not valid before " ++
            tbs.validity.notBefore.moment.text))) ∧
      (now.cmp tbs.validity.notBefore.moment ≠ .lt →
        now.cmp tbs.validity.notAfter.moment = .gt →
        (tbs.validAt now stifleLog).value =
          .error (.rejectedAs .invalidNotAfterDate
          (tbs.subject.text ++ " expired at " ++
            tbs.validity.notAfter.moment.text))) := by
  refine ⟨fun seconds =>
    ⟨exists_ofSeconds?_iff, fun t => ofSeconds?_eq_some_iff.mp⟩,
    fun a b => ⟨cmp_eq_compare a b, toSeconds_inj.symm⟩,
    fun now date => ⟨cmp_eq_compare now date.moment, toSeconds_inj.symm⟩, ?_⟩
  intro tbs now stifleLog
  simp only [cmp_eq_compare, ne_eq, Nat.compare_eq_lt, Nat.compare_eq_gt,
    tbs.value_validAt]
  refine ⟨?_, ?_, ?_, ?_⟩
  · constructor
    · rintro ⟨left, hvalid⟩
      rw [ite_error_eq_ok_iff, ite_error_eq_ok_iff] at hvalid
      exact ⟨hvalid.1, hvalid.2.1⟩
    · rintro ⟨hbegun, hlasts⟩
      rw [if_neg hbegun, if_neg hlasts]
      exact ⟨_, rfl⟩
  · intro left hvalid
    rw [ite_error_eq_ok_iff, ite_error_eq_ok_iff, Except.ok.injEq] at hvalid
    omega
  · intro hearly
    rw [if_pos hearly]
  · intro hbegun hlate
    rw [if_neg hbegun, if_pos hlate]

open ChainFamily in
/-- The last second of a leap day comes before the first of March. A leaf is
valid for the seconds that are left to it; with its two dates exchanged it is
not yet valid, although it has expired. -/
theorem leaf_validity_judged :
    let leapDay : DateTime := ⟨2000, 2, 29, 23, 59, 59, by decide⟩
    let march : DateTime := ⟨2000, 3, 1, 0, 0, 0, by decide⟩
    let tbs := (leaf 2).certificate.tbs
    let exchanged := { tbs with
        validity := ⟨validity.notAfter, validity.notBefore⟩ }
    DateTime.ofSeconds? 951868799 = some leapDay ∧
      leapDay.toSeconds = 951868799 ∧
      leapDay.cmp march = compare leapDay.toSeconds march.toSeconds ∧
      (tbs.validAt now false).value = .ok 315532800 ∧
      now.toSeconds + 315532800 = validity.notAfter.moment.toSeconds ∧
      now.cmp exchanged.validity.notBefore.moment = .lt ∧
      now.cmp exchanged.validity.notAfter.moment = .gt ∧
      (exchanged.validAt now false).value =
        .error (.rejectedAs .invalidNotBeforeDate
        "CN=L is not valid before 2040-01-01T00:00:00Z") := by
  intro leapDay march tbs exchanged
  obtain ⟨hread, hcmp, _, hvalidity⟩ := times_compare_as_seconds
  have hleapDay : DateTime.ofSeconds? 951868799 = some leapDay := by
    decide +kernel
  obtain ⟨hvalid, hleft, _, _⟩ := hvalidity tbs now false
  obtain ⟨left, hleaf⟩ := hvalid.mpr ⟨by decide +kernel, by decide +kernel⟩
  have hcount := hleft left hleaf
  have hyears : now.toSeconds + 315532800 =
      validity.notAfter.moment.toSeconds := by decide +kernel
  have hsame : left = 315532800 :=
    Nat.add_left_cancel (hcount.trans hyears.symm)
  have hearly : now.cmp exchanged.validity.notBefore.moment = .lt := by
    decide +kernel
  have hlate : now.cmp exchanged.validity.notAfter.moment = .gt := by
    decide +kernel
  refine ⟨hleapDay, (hread _).2 _ hleapDay, (hcmp leapDay march).1,
    hsame ▸ hleaf, hyears, hearly, hlate, ?_⟩
  obtain ⟨_, _, hrefused, _⟩ := hvalidity exchanged now false
  rw [hrefused hearly]
  decide +kernel

end TrustPath
