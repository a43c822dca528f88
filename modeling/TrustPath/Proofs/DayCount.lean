import Mathlib.Algebra.Order.Ring.Nat
import Mathlib.Order.Monotone.Basic
import TrustPath.Calendar

/-!
Moments by their numbers. The days of the years and months that have passed, and
then the seconds of the day, number the moments from 1970 to 9999 in the order
of their fields, and no number is left out.
-/

namespace TrustPath

namespace Calendar

/-! ### Years -/

theorem daysBeforeYear_mono : Monotone daysBeforeYear :=
  monotone_nat_of_le_succ fun n =>
    Nat.le_add_right (daysBeforeYear n) (yearLength (firstYear + n))

/-- A year ends before a later one begins. -/
theorem daysBeforeYear_add_le {n m : Nat} (hlt : n < m) :
    daysBeforeYear n + yearLength (firstYear + n) ≤ daysBeforeYear m :=
  daysBeforeYear_mono hlt

/-- One day in four years is a leap day, but for three in four hundred years. -/
theorem daysBeforeYear_eq (n : Nat) :
    daysBeforeYear n + (1969 + n) / 100 + 719162 =
      365 * (1969 + n) + (1969 + n) / 4 + (1969 + n) / 400 := by
  induction n with
  | zero => rfl
  | succ n ih =>
      have hleap : isLeap (1970 + n) = true ↔
          (1970 + n) % 4 = 0 ∧
          ((1970 + n) % 100 ≠ 0 ∨ (1970 + n) % 400 = 0) := by
        simp [isLeap]
      rw [daysBeforeYear, yearLength, firstYear]
      split
      next hyes =>
        have hdivides := hleap.mp hyes
        omega
      next hno =>
        have hdivides := mt hleap.mpr hno
        omega

theorem daysBeforeYear_end :
    daysBeforeYear (lastYear - firstYear + 1) = 2932897 := by
  have hcount := daysBeforeYear_eq 8030
  change daysBeforeYear 8030 = 2932897
  -- nothing but the equation may be known of the count, which would be
  -- evaluated
  generalize daysBeforeYear 8030 = days at hcount ⊢
  omega

/-- A day is found in the year in which it lies. -/
theorem exists_findYear? {span k day : Nat}
    (hday : daysBeforeYear k + day < daysBeforeYear (k + span)) :
    ∃ n rest, findYear? span (firstYear + k) day = some (firstYear + n, rest) ∧
      n < k + span ∧ rest < yearLength (firstYear + n) ∧
      daysBeforeYear n + rest = daysBeforeYear k + day := by
  induction span generalizing k day with
  | zero => exact absurd hday (by simp)
  | succ span ih =>
      rw [findYear?]
      split
      next hthis => exact ⟨k, day, rfl, by omega, hthis, rfl⟩
      next hlater =>
        have hnext : daysBeforeYear
            (k + 1) + (day - yearLength (firstYear + k)) =
            daysBeforeYear k + day := by
          rw [daysBeforeYear]
          omega
        rw [show k + (span + 1) = k + 1 + span by omega, ← hnext] at hday
        rw [← hnext, show k + (span + 1) = k + 1 + span by omega]
        exact ih hday

theorem findYear?_eq_none {span k day : Nat}
    (hday : daysBeforeYear (k + span) ≤ daysBeforeYear k + day) :
    findYear? span (firstYear + k) day = none := by
  induction span generalizing k day with
  | zero => rfl
  | succ span ih =>
      have hthis := daysBeforeYear_add_le (show k < k + (span + 1) by omega)
      rw [findYear?, if_neg (by omega), Nat.add_assoc]
      apply ih
      rw [show k + 1 + span = k + (span + 1) by omega, daysBeforeYear]
      omega

/-! ### Months -/

theorem sum_monthLengths (year : Nat) :
    (monthLengths year).sum = yearLength year := by
  rw [monthLengths, yearLength]
  split
  · rfl
  · rfl

/-- The first lengths and the one after them are no more than more of the
lengths. -/
theorem sum_take_add_getD_le {lengths : List Nat} {i j : Nat} (hij : i < j) :
    (lengths.take i).sum + lengths.getD i 0 ≤ (lengths.take j).sum := by
  induction lengths generalizing i j with
  | nil => simp
  | cons length rest ih =>
      obtain ⟨j, rfl⟩ :=
        Nat.exists_eq_add_one_of_ne_zero (Nat.ne_zero_of_lt hij)
      cases i with
      | zero => simp
      | succ i =>
          have hrest := ih (Nat.lt_of_succ_lt_succ hij)
          simp only [List.take_succ_cons, List.sum_cons, List.getD_cons_succ]
          omega

variable {year month month' day : Nat}

theorem daysBeforeMonth_add_sub (hmonth : 1 ≤ month) :
    daysBeforeMonth year month + monthLength year month =
      ((monthLengths year).take (month - 1)).sum + (monthLengths year).getD
        (month - 1) 0 := by
  rw [monthLength, if_neg (by omega)]
  rfl

/-- A month ends before a later one begins. -/
theorem daysBeforeMonth_add_le (hmonth : 1 ≤ month) (hlt : month < month') :
    daysBeforeMonth year month + monthLength year month ≤
      daysBeforeMonth year month' := by
  rw [daysBeforeMonth_add_sub hmonth]
  exact sum_take_add_getD_le (by omega)

/-- The last month ends with the year. -/
theorem daysBeforeMonth_add_le_yearLength (hfirst : 1 ≤ month)
    (hlast : month ≤ 12) : daysBeforeMonth year month + monthLength year month ≤
      yearLength year := by
  rw [daysBeforeMonth_add_sub hfirst, ← sum_monthLengths]
  exact sum_take_add_getD_le (j := 12) (by omega)

/-- A day is found in the month in which it lies. -/
theorem exists_findMonth {lengths : List Nat} (hday : day < lengths.sum)
    (month : Nat) : ∃ i rest,
      findMonth month lengths day = (month + i, rest + 1) ∧ i < lengths.length ∧
      rest < lengths.getD i 0 ∧ (lengths.take i).sum + rest = day := by
  induction lengths generalizing month day with
  | nil => exact absurd hday (by simp)
  | cons length rest ih =>
      rw [findMonth]
      split
      next hthis => exact ⟨0, day, rfl, by simp, hthis, by simp⟩
      next hlater =>
        rw [List.sum_cons] at hday
        obtain ⟨i, left, hfind, hi, hleft, hcount⟩ :=
          ih (show day - length < rest.sum by omega) (month + 1)
        refine ⟨i + 1, left, ?_, by simpa using hi, hleft, ?_⟩
        · rw [hfind, Nat.add_assoc, Nat.add_comm 1 i]
        · rw [List.take_succ_cons, List.sum_cons]
          omega

theorem exists_findMonth_year (hday : day < yearLength year) :
    ∃ month dayOfMonth, findMonth 1 (monthLengths year) day =
      (month, dayOfMonth) ∧ 1 ≤ month ∧ month ≤ 12 ∧ 1 ≤ dayOfMonth ∧
      dayOfMonth ≤ monthLength year month ∧
      daysBeforeMonth year month + (dayOfMonth - 1) = day := by
  rw [← sum_monthLengths] at hday
  obtain ⟨i, rest, hfind, hi, hrest, hcount⟩ := exists_findMonth hday 1
  change i < 12 at hi
  refine ⟨1 + i, rest + 1, hfind, by omega, by omega, by omega, ?_, ?_⟩
  · rw [monthLength, if_neg (by omega), Nat.add_sub_cancel_left]
    exact hrest
  · rw [← hcount, daysBeforeMonth, Nat.add_sub_cancel_left]
    rfl

theorem isMoment_iff {hour minute second : Nat} :
    isMoment year month day hour minute second = true ↔
      (1970 ≤ year ∧ year ≤ 9999) ∧ (1 ≤ month ∧ month ≤ 12) ∧
        (1 ≤ day ∧ day ≤ monthLength year month) ∧ hour ≤ 23 ∧ minute ≤ 59 ∧
          second ≤ 59 := by
  simp only [isMoment, Bool.and_eq_true, decide_eq_true_iff]
  rw [firstYear, lastYear]
  omega

end Calendar

/-! ### Comparing in parts -/

section Compare

variable {n n' part part' : Nat}

/-- Numbers compare as other numbers do that order them alike. -/
theorem compare_congr (hlt : part < part' → n < n')
    (hgt : part' < part → n' < n) (heq : part = part' → n = n') :
    compare n n' = compare part part' := by
  rcases Nat.lt_trichotomy part part' with hpart | hpart | hpart
  · rw [Nat.compare_eq_lt.mpr hpart, Nat.compare_eq_lt.mpr (hlt hpart)]
  · rw [Nat.compare_eq_eq.mpr hpart, Nat.compare_eq_eq.mpr (heq hpart)]
  · rw [Nat.compare_eq_gt.mpr hpart, Nat.compare_eq_gt.mpr (hgt hpart)]

/-- Numbers compare by their first parts, and by what is left where those are
equal. -/
theorem compare_eq_then {rest : Ordering} (hlt : part < part' → n < n')
    (hgt : part' < part → n' < n) (heq : part = part' → compare n n' = rest) :
    compare n n' = (compare part part').then rest := by
  rcases Nat.lt_trichotomy part part' with hpart | hpart | hpart
  · rw [Nat.compare_eq_lt.mpr hpart, Nat.compare_eq_lt.mpr (hlt hpart),
      Ordering.lt_then]
  · rw [Nat.compare_eq_eq.mpr hpart, Ordering.eq_then, heq hpart]
  · rw [Nat.compare_eq_gt.mpr hpart, Nat.compare_eq_gt.mpr (hgt hpart),
      Ordering.gt_then]

end Compare

namespace DateTime

open Calendar

variable {a b t : DateTime} {seconds : Nat}

def dayNumber (t : DateTime) : Nat :=
  daysBeforeYear (t.year - firstYear) +
    (daysBeforeMonth t.year t.month + (t.day - 1))

def secondOfDay (t : DateTime) : Nat :=
  3600 * t.hour + (60 * t.minute + t.second)

theorem toSeconds_eq (t : DateTime) :
    t.toSeconds = 86400 * t.dayNumber + t.secondOfDay := by
  rw [toSeconds, dayNumber, secondOfDay]
  omega

theorem secondOfDay_lt (t : DateTime) : t.secondOfDay < 86400 := by
  obtain ⟨_, _, _, hhour, hminute, hsecond⟩ := isMoment_iff.mp t.isMoment
  rw [secondOfDay]
  omega

/-- The day of the year, from zero, is within the year. -/
theorem dayOfYear_lt (t : DateTime) :
    daysBeforeMonth t.year t.month + (t.day - 1) < yearLength t.year := by
  obtain ⟨_, ⟨hfirst, hlast⟩, hday, _⟩ := isMoment_iff.mp t.isMoment
  have hyear : daysBeforeMonth t.year t.month + monthLength t.year t.month ≤
      yearLength t.year :=
    daysBeforeMonth_add_le_yearLength hfirst hlast
  omega

/-- A moment comes before the end of its year. -/
theorem dayNumber_lt (t : DateTime) : t.dayNumber < daysBeforeYear
      (t.year - firstYear + 1) := by
  obtain ⟨⟨hyear, _⟩, _⟩ := isMoment_iff.mp t.isMoment
  have hday := t.dayOfYear_lt
  rw [dayNumber, daysBeforeYear,
    Nat.add_sub_cancel' (show firstYear ≤ t.year from hyear)]
  omega

theorem dayNumber_lt_of_year_lt (hyear : a.year < b.year) :
    a.dayNumber < b.dayNumber := by
  obtain ⟨⟨hfirst, _⟩, _⟩ := isMoment_iff.mp a.isMoment
  calc
    a.dayNumber < daysBeforeYear (a.year - firstYear + 1) := a.dayNumber_lt
    _ ≤ daysBeforeYear (b.year - firstYear) :=
      daysBeforeYear_mono (by rw [firstYear]; omega)
    _ ≤ b.dayNumber := Nat.le_add_right _ _

theorem dayNumber_lt_of_month_lt (hyear : a.year = b.year)
    (hmonth : a.month < b.month) : a.dayNumber < b.dayNumber := by
  obtain ⟨_, ⟨hfirst, _⟩, hday, _⟩ := isMoment_iff.mp a.isMoment
  have hpassed : daysBeforeMonth a.year a.month + monthLength a.year a.month ≤
      daysBeforeMonth a.year b.month :=
    daysBeforeMonth_add_le hfirst hmonth
  rw [dayNumber, dayNumber, ← hyear]
  omega

theorem compare_dayNumber (a b : DateTime) :
    compare a.dayNumber b.dayNumber =
      (compare a.year b.year).then
        ((compare a.month b.month).then (compare a.day b.day)) := by
  obtain ⟨_, _, ⟨hday, _⟩, _⟩ := isMoment_iff.mp a.isMoment
  obtain ⟨_, _, ⟨hday', _⟩, _⟩ := isMoment_iff.mp b.isMoment
  refine compare_eq_then dayNumber_lt_of_year_lt dayNumber_lt_of_year_lt
    fun hyear => ?_
  refine compare_eq_then (dayNumber_lt_of_month_lt hyear)
    (dayNumber_lt_of_month_lt hyear.symm)
    fun hmonth => ?_
  rw [dayNumber, dayNumber, hyear, hmonth]
  exact compare_congr (by omega) (by omega) (by omega)

theorem compare_secondOfDay (a b : DateTime) :
    compare a.secondOfDay b.secondOfDay =
      (compare a.hour b.hour).then
        ((compare a.minute b.minute).then (compare a.second b.second)) := by
  obtain ⟨_, _, _, _, hminute, hsecond⟩ := isMoment_iff.mp a.isMoment
  obtain ⟨_, _, _, _, hminute', hsecond'⟩ := isMoment_iff.mp b.isMoment
  rw [secondOfDay, secondOfDay]
  refine compare_eq_then (by omega) (by omega) fun hhour => ?_
  refine compare_eq_then (by omega) (by omega) fun hminutes => ?_
  exact compare_congr (by omega) (by omega) (by omega)

/-- Moments compare as their numbers of seconds. -/
theorem cmp_eq_compare (a b : DateTime) :
    a.cmp b = compare a.toSeconds b.toSeconds := by
  have ha := a.secondOfDay_lt
  have hb := b.secondOfDay_lt
  have hparts : compare a.toSeconds b.toSeconds =
      (compare a.dayNumber b.dayNumber).then
      (compare a.secondOfDay b.secondOfDay) := by
    rw [toSeconds_eq, toSeconds_eq]
    refine compare_eq_then (by omega) (by omega) fun hday => ?_
    exact compare_congr (by omega) (by omega) (by omega)
  rw [hparts, compare_dayNumber, compare_secondOfDay, Ordering.then_assoc,
    Ordering.then_assoc]
  rfl

theorem cmp_eq_eq_iff : a.cmp b = .eq ↔ a = b := by
  constructor
  · intro hcmp
    simp only [cmp, Ordering.then_eq_eq, Nat.compare_eq_eq] at hcmp
    obtain ⟨hyear, hmonth, hday, hhour, hminute, hsecond⟩ := hcmp
    cases a
    cases b
    cases hyear
    cases hmonth
    cases hday
    cases hhour
    cases hminute
    cases hsecond
    rfl
  · rintro rfl
    rw [cmp_eq_compare, Nat.compare_eq_eq]

/-- No two moments have one number of seconds. -/
theorem toSeconds_inj : a.toSeconds = b.toSeconds ↔ a = b := by
  rw [← cmp_eq_eq_iff, cmp_eq_compare, Nat.compare_eq_eq]

/-- The number of seconds up to the last moment of 9999. -/
theorem toSeconds_le (t : DateTime) : t.toSeconds ≤ 253402300799 := by
  obtain ⟨⟨hfirst, hlast⟩, _⟩ := isMoment_iff.mp t.isMoment
  have hday := t.dayNumber_lt
  have hyear : daysBeforeYear (t.year - firstYear + 1) ≤ daysBeforeYear
      (lastYear - firstYear + 1) :=
    daysBeforeYear_mono (by rw [firstYear, lastYear]; omega)
  rw [daysBeforeYear_end] at hyear
  have hsecond := t.secondOfDay_lt
  rw [toSeconds_eq]
  omega

/-- Every number of seconds up to that of the last moment is the number of a
moment. -/
theorem exists_ofSeconds? (hseconds : seconds ≤ 253402300799) :
    ∃ t, ofSeconds? seconds = some t ∧ t.toSeconds = seconds := by
  have hday : daysBeforeYear 0 + seconds / 86400 < daysBeforeYear
      (0 + (lastYear - firstYear + 1)) := by
    rw [Nat.zero_add, daysBeforeYear_end, daysBeforeYear]
    omega
  obtain ⟨n, rest, hyear, hn, hrest, hdays⟩ := exists_findYear? hday
  obtain ⟨month, day, hmonth, hfirst, hlast, hone, hlength, hcount⟩ :=
    exists_findMonth_year hrest
  have hmoment : Calendar.isMoment (firstYear + n) month day
      (seconds % 86400 / 3600)
      (seconds % 86400 / 60 % 60) (seconds % 86400 % 60) = true := by
    rw [isMoment_iff]
    simp only [firstYear, lastYear] at hn hlength ⊢
    omega
  refine ⟨⟨_, _, _, _, _, _, hmoment⟩, ?_, ?_⟩
  · rw [Nat.add_zero firstYear] at hyear
    simp only [ofSeconds?, hyear, hmonth, Option.bind_eq_bind, Option.bind_some,
      ofFields?, dif_pos hmoment]
  · rw [daysBeforeYear] at hdays
    rw [toSeconds_eq]
    simp only [dayNumber, secondOfDay, Nat.add_sub_cancel_left, hcount]
    omega

theorem ofSeconds?_eq_none (hseconds : 253402300799 < seconds) :
    ofSeconds? seconds = none := by
  have hday : findYear? (lastYear - firstYear + 1) (firstYear + 0)
      (seconds / 86400) = none := by
    apply findYear?_eq_none
    rw [Nat.zero_add, daysBeforeYear_end, daysBeforeYear]
    omega
  rw [Nat.add_zero firstYear] at hday
  rw [ofSeconds?, hday]
  rfl

/-- A number of seconds stands for the moment whose number it is. -/
theorem ofSeconds?_eq_some_iff : ofSeconds? seconds = some t ↔
      t.toSeconds = seconds := by
  constructor
  · intro hread
    by_cases hseconds : seconds ≤ 253402300799
    · obtain ⟨u, hu, hcount⟩ := exists_ofSeconds? hseconds
      rw [hu, Option.some.injEq] at hread
      rw [← hread, hcount]
    · rw [ofSeconds?_eq_none (Nat.lt_of_not_le hseconds)] at hread
      cases hread
  · rintro rfl
    obtain ⟨u, hu, hcount⟩ := exists_ofSeconds? t.toSeconds_le
    rw [hu, toSeconds_inj.mp hcount]

end DateTime

end TrustPath
