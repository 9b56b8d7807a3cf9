import Mathlib.Tactic.IntervalCases
import OpeningHours.Calendar.Civil

/-!
# OpeningHours — dates and counts of days

A count of days is turned into a date by eras of 400 years that begin on 1 March, so that a leap day
is the last day of its year. A date is turned into a count by adding up the days of the years and
months in front of it. The two ways have no formula in common, and each of them undoes the other.

* `daysBeforeMarch y` — the days from 1 March of year 0 to 1 March of another year.

## Results

* `yearOfEra_spec`     — the year of a day in an era is the one that the day lies in.
* `daysBeforeYear_eq`, `daysBeforeMonth_eq` — the days before a date, counted from March.
* `epochDay_dateOfDay` — a count of days is that of its date, which is one of the calendar.
* `epochDay_lt`        — dates are counted in their order.
* `dateOfDay_epochDay` — a date is that of its count of days.
-/

namespace OpeningHours.Calendar

-- ---------------------------------------------------------------------------
-- Years
-- ---------------------------------------------------------------------------

/-- The days from 1 March of year 0 to 1 March of another year. -/
def daysBeforeMarch (y : Int) : Int :=
  365 * y + y / 4 - y / 100 + y / 400

/-- The count of days from January on, by the count from March on. -/
theorem daysBeforeYear_eq (y : Nat) : (daysBeforeYear y : Int) = daysBeforeMarch (y - 1) + 366 := by
  unfold daysBeforeYear daysBeforeMarch
  omega

/-- 1 March is the sixtieth day of a year, or the sixty-first in a leap year. -/
theorem daysBeforeMarch_eq (y : Nat) :
    daysBeforeMarch y = daysBeforeYear y + (isLeapYear y).toNat - 1 := by
  have hnext := daysBeforeYear_eq (y + 1)
  rw [daysBeforeYear_succ, Int.natCast_succ, Int.add_sub_cancel] at hnext
  cases hleap : isLeapYear y <;> simp [hleap] at hnext ⊢ <;> omega

/-- An era of 400 years has 146097 days. -/
theorem daysBeforeMarch_add_eras (y e : Int) :
    daysBeforeMarch (y + e * 400) = daysBeforeMarch y + 146097 * e := by
  unfold daysBeforeMarch
  omega

/-- Later years start later. -/
theorem daysBeforeMarch_mono {y z : Int} (h : y ≤ z) : daysBeforeMarch y ≤ daysBeforeMarch z := by
  unfold daysBeforeMarch
  omega

/-- A year has 366 days at most. -/
theorem daysBeforeMarch_succ_le (y : Int) : daysBeforeMarch (y + 1) ≤ daysBeforeMarch y + 366 := by
  unfold daysBeforeMarch
  omega

/-- Later days are in later years, or in the same one. -/
theorem yearOfEra_mono {d e : Nat} (h : d ≤ e) : yearOfEra d ≤ yearOfEra e := by
  unfold yearOfEra
  apply Nat.div_le_div_right
  omega

/-- The years of an era, each checked at its first and at its last day. -/
theorem yearOfEra_ends : ∀ y : Nat, y < 400 →
    yearOfEra (daysBeforeMarch y).toNat = y ∧
      yearOfEra ((daysBeforeMarch (y + 1 : Nat)).toNat - 1) = y := by
  decide +kernel

/-- The year of a day in an era is the one that the day lies in. -/
theorem yearOfEra_spec {day : Nat} (h : day < 146097) :
    yearOfEra day < 400 ∧ daysBeforeMarch (yearOfEra day) ≤ day ∧
      day < daysBeforeMarch (yearOfEra day + 1 : Nat) := by
  have hlast : yearOfEra day ≤ 399 := yearOfEra_mono (e := 146096) (by omega)
  refine ⟨by omega, ?_, ?_⟩
  · -- a day in front of the year would lie in the year before it, or in front of the era
    rcases Int.lt_or_le day (daysBeforeMarch (yearOfEra day)) with hlt | hle
    · obtain ⟨y, hy⟩ : ∃ y, yearOfEra day = y + 1 := by
        refine Nat.exists_eq_add_one_of_ne_zero fun hzero => ?_
        have hstart : daysBeforeMarch (0 : Nat) = 0 := by decide
        rw [hzero] at hlt
        omega
      have hmono : yearOfEra day ≤ yearOfEra ((daysBeforeMarch (y + 1 : Nat)).toNat - 1) := by
        apply yearOfEra_mono
        rw [hy] at hlt
        omega
      rw [(yearOfEra_ends y (by omega)).2] at hmono
      omega
    · exact hle
  · -- a day behind the year would lie in the year behind it, or behind the era
    rcases Int.lt_or_le day (daysBeforeMarch (yearOfEra day + 1 : Nat)) with hlt | hle
    · exact hlt
    · rcases Nat.lt_or_ge (yearOfEra day + 1) 400 with hnext | hend
      · have hmono :
            yearOfEra (daysBeforeMarch (yearOfEra day + 1 : Nat)).toNat ≤ yearOfEra day := by
          apply yearOfEra_mono
          omega
        rw [(yearOfEra_ends _ hnext).1] at hmono
        omega
      · have hyear : yearOfEra day + 1 = 400 := by omega
        have hera : daysBeforeMarch (400 : Nat) = 146097 := by decide
        rw [hyear] at hle
        omega

-- ---------------------------------------------------------------------------
-- Months
-- ---------------------------------------------------------------------------

/-- A month starts when the month before it ends. -/
theorem daysBeforeMonth_succ (y k : Nat) :
    daysBeforeMonth y (k + 2) = daysBeforeMonth y (k + 1) + daysInMonth y (k + 1) := by
  show (List.range (k + 1)).foldl _ 0 = (List.range k).foldl _ 0 + _
  rw [List.range_succ, List.foldl_append, List.foldl_cons, List.foldl_nil]

/-- The months from March to December are as long as the count from March has it. -/
theorem daysInMonth_eq (y : Nat) {k : Nat} (hk : k < 10) :
    daysFromMarch k + daysInMonth y (k + 3) = daysFromMarch (k + 1) := by
  interval_cases k <;> rfl

theorem daysInMonth_february (y : Nat) : daysInMonth y 2 = 28 + (isLeapYear y).toNat := by
  cases hleap : isLeapYear y <;> simp [daysInMonth, hleap]

/-- The days before a month from March on, up to December. -/
theorem daysBeforeMonth_eq (y : Nat) {k : Nat} (hk : k < 10) :
    daysBeforeMonth y (k + 3) = 59 + (isLeapYear y).toNat + daysFromMarch k := by
  induction k with
  | zero =>
    have hjanuary : daysBeforeMonth y 2 = 31 := daysBeforeMonth_succ y 0
    have hfebruary := daysInMonth_february y
    rw [daysBeforeMonth_succ, hjanuary, hfebruary]
    show 31 + (28 + (isLeapYear y).toNat) = 59 + (isLeapYear y).toNat + 0
    omega
  | succ k ih =>
    calc daysBeforeMonth y (k + 4)
        = daysBeforeMonth y (k + 3) + daysInMonth y (k + 3) := daysBeforeMonth_succ y (k + 2)
      _ = 59 + (isLeapYear y).toNat + (daysFromMarch k + daysInMonth y (k + 3)) := by
        rw [ih (by omega), Nat.add_assoc]
      _ = 59 + (isLeapYear y).toNat + daysFromMarch (k + 1) := by
        rw [daysInMonth_eq y (by omega)]

theorem daysInMonth_le (y m : Nat) : daysInMonth y m ≤ 31 := by
  have hfebruary : (if isLeapYear y then 29 else 28) ≤ 31 := by split <;> decide
  unfold daysInMonth
  split <;> omega

/-- No month has more than 31 days. -/
theorem daysBeforeMonth_le (y k : Nat) : daysBeforeMonth y (k + 1) ≤ 31 * k := by
  induction k with
  | zero => exact Nat.le_refl 0
  | succ k ih =>
    have hlength := daysInMonth_le y (k + 1)
    rw [daysBeforeMonth_succ]
    omega

/-- The month and the day of a date are in their bounds. -/
theorem isDate_bounds {y m d : Nat} (h : isDate y m d = true) :
    (1 ≤ m ∧ m ≤ 12) ∧ 1 ≤ d ∧ d ≤ 31 := by
  have hlength := daysInMonth_le y m
  rw [isDate, Bool.and_eq_true, decide_eq_true_eq, decide_eq_true_eq] at h
  refine ⟨?_, by omega⟩
  unfold daysInMonth at h
  split at h <;> omega

/-- A day lies in its month. -/
theorem monthFromMarch_spec {day : Nat} (h : day < 366) :
    monthFromMarch day < 12 ∧ daysFromMarch (monthFromMarch day) ≤ day ∧
      day < daysFromMarch (monthFromMarch day + 1) := by
  unfold monthFromMarch daysFromMarch
  omega

-- ---------------------------------------------------------------------------
-- Dates
-- ---------------------------------------------------------------------------

section

variable {year : Int} {y day k : Nat} (hyear : year + (if k < 10 then 0 else 1) = y)
  (hday : day < daysBeforeMarch (year + 1) - daysBeforeMarch year)
  (hk : k < 12) (hfirst : daysFromMarch k ≤ day) (hlast : day < daysFromMarch (k + 1))
include hyear hday hk hfirst hlast

/-- A day of a year that begins on 1 March, as a date. -/
theorem epochDay_fromMarch :
    epochDay y (if k < 10 then k + 3 else k - 9) (day - daysFromMarch k + 1) =
        daysBeforeMarch year + day - 719468 ∧
      isDate y (if k < 10 then k + 3 else k - 9) (day - daysFromMarch k + 1) = true := by
  simp only [isDate, Bool.and_eq_true, decide_eq_true_eq]
  unfold epochDay
  by_cases hmarch : k < 10
  · -- from March on the two years have the same number
    rw [if_pos hmarch] at hyear ⊢
    obtain rfl : year = y := by omega
    have hbefore := daysBeforeMarch_eq y
    have hmonth := daysBeforeMonth_eq y hmarch
    have hlength := daysInMonth_eq y hmarch
    omega
  · -- January and February belong to the year that is one further
    rw [if_neg hmarch] at hyear ⊢
    have hbefore := daysBeforeYear_eq y
    have hnext := daysBeforeMarch_eq y
    rw [← hyear, Int.add_sub_cancel] at hbefore
    rw [← hyear] at hnext
    obtain rfl | rfl : k = 10 ∨ k = 11 := by omega
    all_goals simp only [Nat.reduceSub, Nat.reduceAdd] at *
    · have hmonth : daysBeforeMonth y 1 = 0 ∧ daysInMonth y 1 = 31 := ⟨rfl, rfl⟩
      have hstart : daysFromMarch 10 = 306 ∧ daysFromMarch 11 = 337 := ⟨rfl, rfl⟩
      omega
    · have hmonth : daysBeforeMonth y 2 = 31 := daysBeforeMonth_succ y 0
      have hlength := daysInMonth_february y
      have hstart : daysFromMarch 11 = 337 := rfl
      omega

end

/-- A count of days is that of its date, which is one of the calendar. -/
theorem epochDay_dateOfDay {n : Int} {y : Nat} (hy : (dateOfDay n).year = y) :
    epochDay y (dateOfDay n).month (dateOfDay n).day = n ∧
      isDate y (dateOfDay n).month (dateOfDay n).day = true := by
  -- the day in its era, the year in the era, the day in the year, the month in the year
  obtain ⟨e, he⟩ : ∃ e, (n + 719468) / 146097 = e := ⟨_, rfl⟩
  obtain ⟨d, hd⟩ : ∃ d, ((n + 719468) % 146097).toNat = d := ⟨_, rfl⟩
  obtain ⟨year, hyear⟩ : ∃ year, yearOfEra d = year := ⟨_, rfl⟩
  obtain ⟨day, hday⟩ : ∃ day, d - (365 * year + year / 4 - year / 100) = day := ⟨_, rfl⟩
  obtain ⟨k, hk⟩ : ∃ k, monthFromMarch day = k := ⟨_, rfl⟩
  obtain ⟨m, hm⟩ : ∃ m, (if k < 10 then k + 3 else k - 9) = m := ⟨_, rfl⟩
  have hdate : dateOfDay n =
      ⟨year + e * 400 + (if m ≤ 2 then 1 else 0), m, day - daysFromMarch k + 1⟩ := by
    simp only [dateOfDay, he, hd, hyear, hday, hk, hm]
  have hera : d < 146097 := by omega
  obtain ⟨hlt, hstart, hstop⟩ := yearOfEra_spec hera
  rw [hyear] at hlt hstart hstop
  have hbefore : daysBeforeMarch year = (365 * year + year / 4 - year / 100 : Nat) := by
    unfold daysBeforeMarch
    omega
  have hlong := daysBeforeMarch_succ_le year
  have hshift := daysBeforeMarch_add_eras year e
  have hshift' := daysBeforeMarch_add_eras (year + 1) e
  rw [Int.natCast_succ] at hstop
  rw [show (year : Int) + 1 + e * 400 = year + e * 400 + 1 by omega] at hshift'
  have hdays : day < 366 := by omega
  obtain ⟨hmonth, hfirst, hlast⟩ := monthFromMarch_spec hdays
  rw [hk] at hmonth hfirst hlast
  have hwinter : (if m ≤ 2 then 1 else 0 : Int) = if k < 10 then 0 else 1 := by
    split at hm <;> split <;> omega
  rw [hdate, hwinter] at hy
  have hfound := epochDay_fromMarch hy (by omega) hmonth hfirst hlast
  rw [hm] at hfound
  rw [hdate]
  refine ⟨hfound.1.trans ?_, hfound.2⟩
  omega

-- ---------------------------------------------------------------------------
-- The order of dates
-- ---------------------------------------------------------------------------

/-- The months of a year are counted in their order. -/
theorem daysBeforeMonth_mono (y : Nat) {k l : Nat} (h : k ≤ l) :
    daysBeforeMonth y (k + 1) ≤ daysBeforeMonth y (l + 1) := by
  induction h with
  | refl => exact Nat.le_refl _
  | step _ ih =>
    rw [daysBeforeMonth_succ]
    omega

/-- The days of a year, counted as those in front of a thirteenth month. -/
theorem daysBeforeMonth_thirteen (y : Nat) :
    daysBeforeMonth y 13 = 365 + (isLeapYear y).toNat := by
  have hdecember : daysBeforeMonth y 12 = 59 + (isLeapYear y).toNat + 275 :=
    daysBeforeMonth_eq y (show 9 < 10 by decide)
  have hlength : daysInMonth y 12 = 31 := rfl
  rw [daysBeforeMonth_succ, hdecember, hlength]
  omega

section

variable {y y' m m' d d' : Nat} (h : isDate y m d = true)
include h

/-- No date is in front of year 0, and none comes after the days of the years up to its own. -/
theorem epochDay_bounds : -719528 ≤ epochDay y m d ∧ epochDay y m d ≤ 366 * (y + 1 : Nat) := by
  obtain ⟨⟨hfirst, hlast⟩, hday⟩ := isDate_bounds h
  obtain ⟨k, rfl⟩ := Nat.exists_eq_add_of_le' hfirst
  have hbefore := daysBeforeMonth_le y k
  unfold epochDay daysBeforeYear
  omega

/-- A date is counted in front of what follows its month. -/
theorem day_le_daysBeforeMonth (hlt : m < m') : daysBeforeMonth y m + d ≤ daysBeforeMonth y m' := by
  obtain ⟨⟨hfirst, -⟩, -⟩ := isDate_bounds h
  obtain ⟨k, rfl⟩ := Nat.exists_eq_add_of_le' hfirst
  obtain ⟨l, rfl⟩ : ∃ l, m' = l + 1 := Nat.exists_eq_add_of_le' (by omega)
  have hmono := daysBeforeMonth_mono y (Nat.le_of_lt_succ hlt)
  rw [daysBeforeMonth_succ] at hmono
  rw [isDate, Bool.and_eq_true, decide_eq_true_eq, decide_eq_true_eq] at h
  omega

variable (h' : isDate y' m' d' = true)
include h'

/-- Dates are counted in their order. -/
theorem epochDay_lt (hlt : y < y' ∨ y = y' ∧ m < m') : epochDay y m d < epochDay y' m' d' := by
  have hbounds := isDate_bounds h
  have hbounds' := isDate_bounds h'
  rcases hlt with hyear | ⟨rfl, hmonth⟩
  · have hlast : m < 13 := by omega
    have hend := day_le_daysBeforeMonth h hlast
    have hyears : (y : Int) ≤ y' - 1 := by omega
    have hmono := daysBeforeMarch_mono hyears
    rw [daysBeforeMonth_thirteen] at hend
    rw [daysBeforeMarch_eq] at hmono
    have hbefore := daysBeforeYear_eq y'
    unfold epochDay
    omega
  · have hend := day_le_daysBeforeMonth h hmonth
    unfold epochDay
    omega

/-- Different dates have different counts. -/
theorem epochDay_inj (heq : epochDay y m d = epochDay y' m' d') : y = y' ∧ m = m' ∧ d = d' := by
  rcases Nat.lt_trichotomy y y' with hyear | rfl | hyear
  · exact absurd heq (Int.ne_of_lt (epochDay_lt h h' (.inl hyear)))
  · rcases Nat.lt_trichotomy m m' with hmonth | rfl | hmonth
    · exact absurd heq (Int.ne_of_lt (epochDay_lt h h' (.inr ⟨rfl, hmonth⟩)))
    · refine ⟨rfl, rfl, ?_⟩
      unfold epochDay at heq
      omega
    · exact absurd heq.symm (Int.ne_of_lt (epochDay_lt h' h (.inr ⟨rfl, hmonth⟩)))
  · exact absurd heq.symm (Int.ne_of_lt (epochDay_lt h' h (.inl hyear)))

end

/-- No day from the start of year 0 on has a year in front of it. -/
theorem year_dateOfDay_nonneg {n : Int} (h : -719528 ≤ n) : 0 ≤ (dateOfDay n).year := by
  obtain ⟨e, he⟩ : ∃ e, (n + 719468) / 146097 = e := ⟨_, rfl⟩
  obtain ⟨d, hd⟩ : ∃ d, ((n + 719468) % 146097).toNat = d := ⟨_, rfl⟩
  rcases Int.lt_or_le e 0 with hneg | hpos
  · -- January and February of year 0 belong to the last year of the era in front of it
    have hlast : e = -1 := by omega
    have hyear : yearOfEra d = 399 := by
      unfold yearOfEra
      omega
    have hwinter : ¬ monthFromMarch (d - (365 * 399 + 399 / 4 - 399 / 100)) < 10 := by
      unfold monthFromMarch
      omega
    have hdays : d - (365 * 399 + 399 / 4 - 399 / 100) < 366 := by omega
    have hmonth := (monthFromMarch_spec hdays).1
    simp only [dateOfDay, he, hd, hlast, hyear]
    rw [if_neg hwinter, if_pos (by omega)]
    decide
  · simp only [dateOfDay, he, hd]
    split <;> omega

/-- A date is that of its count of days. -/
theorem dateOfDay_epochDay {y m d : Nat} (h : isDate y m d = true) :
    dateOfDay (epochDay y m d) = ⟨y, m, d⟩ := by
  obtain ⟨found, hfound⟩ := Int.eq_ofNat_of_zero_le (year_dateOfDay_nonneg (epochDay_bounds h).1)
  obtain ⟨heq, hdate⟩ := epochDay_dateOfDay hfound
  obtain ⟨rfl, hmonth, hday⟩ := epochDay_inj hdate h heq
  calc dateOfDay (epochDay found m d)
      = ⟨(dateOfDay (epochDay found m d)).year, (dateOfDay (epochDay found m d)).month,
          (dateOfDay (epochDay found m d)).day⟩ := rfl
    _ = ⟨found, m, d⟩ := by rw [hfound, hmonth, hday]

end OpeningHours.Calendar
