import FleetExporter.Object.Timestamp
import Mathlib.Tactic.Ring

/-! The calendar of timestamps. Years are counted from the first of March, so that a leap day is the
last day of its year; the days of a date and the date of days are then two readings of one
number. -/
namespace FleetExporter.Timestamp

/-! ## Years -/

/-- Days from the first of March of the year 0 to that of another year. -/
def yearStart (y : Int) : Int := 365 * y + y / 4 - y / 100 + y / 400

theorem yearStart_mono {y z : Int} (h : y ≤ z) : yearStart y ≤ yearStart z := by
  unfold yearStart
  omega

theorem yearStart_lt {y z : Int} (h : y < z) : yearStart y + 365 ≤ yearStart z := by
  unfold yearStart
  omega

/-- The calendar repeats itself after 400 years. -/
theorem yearStart_era (era y : Int) : yearStart (era * 400 + y) = era * 146097 + yearStart y := by
  unfold yearStart
  omega

/-- A year has 366 days only if its last day, which is in the next year, is a leap day. -/
theorem yearStart_succ_le (y : Int) :
    yearStart (y + 1) ≤ yearStart y + if isLeap (y + 1) then 366 else 365 := by
  unfold yearStart isLeap
  simp only [Bool.and_eq_true, Bool.or_eq_true, decide_eq_true_eq, bne_iff_ne]
  split <;> omega

theorem exists_year {d : Int} (h : 0 ≤ d) (n : Nat) (hn : d < yearStart n) :
    ∃ y : Nat, y < n ∧ yearStart y ≤ d ∧ d < yearStart (y + 1) := by
  induction n with
  | zero =>
    have hzero : yearStart (0 : Nat) = 0 := by decide
    omega
  | succ n ih =>
    by_cases hd : d < yearStart n
    · obtain ⟨y, hy, hspec⟩ := ih hd
      exact ⟨y, by omega, hspec⟩
    · exact ⟨n, by omega, by omega, by simpa using hn⟩

/-- The days of 400 years without the leap days before them, but for at most one year. -/
def scaled (d : Nat) : Nat := d - d / 1460 + d / 36524 - d / 146096

theorem scaled_mono {d e : Nat} (h : d ≤ e) (he : e < 146097) : scaled d ≤ scaled e := by
  induction e, h using Nat.le_induction with
  | base => exact Nat.le_refl _
  | succ e _ ih =>
    refine Nat.le_trans (ih (by omega)) ?_
    unfold scaled
    omega

/-- The first and the last day of a year tell the year. -/
theorem scaled_yearStart : ∀ y : Nat, y < 400 → scaled (yearStart y).toNat / 365 = y ∧
    scaled ((yearStart (y + 1)).toNat - 1) / 365 = y := by
  decide +kernel

/-- So does any day between them. -/
theorem yearOf_eq {y d : Nat} (hy : y < 400) (hstart : yearStart y ≤ d)
    (hend : d < yearStart (y + 1)) : scaled d / 365 = y := by
  obtain ⟨hfirst, hlast⟩ := scaled_yearStart y hy
  have hlimit : yearStart (y + 1) ≤ 146097 := yearStart_mono (z := 400) (by omega)
  have hlower : scaled (yearStart y).toNat / 365 ≤ scaled d / 365 :=
    Nat.div_le_div_right (scaled_mono (by omega) (by omega))
  have hupper : scaled d / 365 ≤ scaled ((yearStart (y + 1)).toNat - 1) / 365 :=
    Nat.div_le_div_right (scaled_mono (by omega) (by omega))
  omega

/-! ## Months -/

/-- The month of a day of the year, and its day in the month. -/
def monthOf (n : Nat) : Nat :=
  if (5 * n + 2) / 153 < 10 then (5 * n + 2) / 153 + 3 else (5 * n + 2) / 153 - 9

def dayOf (n : Nat) : Nat := n - (153 * ((5 * n + 2) / 153) + 2) / 5 + 1

/-- The day of the year of a date. -/
def dayOfYear (month day : Nat) : Nat := (153 * ((month + 9) % 12) + 2) / 5 + day - 1

/-- A date of the calendar. -/
structure IsDate (year : Int) (month day : Nat) : Prop where
  month_pos : 1 ≤ month
  month_le : month ≤ 12
  day_pos : 1 ≤ day
  day_le : day ≤ daysInMonth year month

theorem daysInMonth_le (year : Int) (month : Nat) : daysInMonth year month ≤ 31 := by
  unfold daysInMonth
  split_ifs <;> omega

theorem dayOfYear_monthOf : ∀ n < 366, dayOfYear (monthOf n) (dayOf n) = n ∧
    (monthOf n ≤ 2 ↔ 306 ≤ n) := by
  decide +kernel

/-- Every day of a year is a date of it; the 366th is a leap day. -/
theorem isDate_monthOf {n : Nat} (h : n < 366) {year : Int}
    (hleap : n = 365 → isLeap year = true) : IsDate year (monthOf n) (dayOf n) := by
  have hcommon : ∀ n < 366, 1 ≤ monthOf n ∧ monthOf n ≤ 12 ∧ 1 ≤ dayOf n ∧
      dayOf n ≤ if monthOf n = 2 then (if n = 365 then 29 else 28)
        else if monthOf n = 4 ∨ monthOf n = 6 ∨ monthOf n = 9 ∨ monthOf n = 11 then 30
        else 31 := by
    decide +kernel
  obtain ⟨hpos, hle, hday, hdays⟩ := hcommon n h
  refine ⟨hpos, hle, hday, hdays.trans ?_⟩
  unfold daysInMonth
  by_cases hlast : n = 365
  · simp [hlast, hleap hlast]
  · split_ifs <;> omega

/-! ## Dates -/

theorem daysOf_eq (year : Int) (month day : Nat) :
    daysOf year month day =
      yearStart (if month ≤ 2 then year - 1 else year) + dayOfYear month day - 719468 := by
  unfold daysOf yearStart dayOfYear
  simp only [Int.fdiv_eq_ediv_of_nonneg _ (show (0 : Int) ≤ 400 by decide),
    Int.fdiv_eq_ediv_of_nonneg _ (show (0 : Int) ≤ 4 by decide),
    Int.fdiv_eq_ediv_of_nonneg _ (show (0 : Int) ≤ 100 by decide)]
  generalize (if month ≤ 2 then year - 1 else year) = y
  omega

theorem isLeap_era (era y : Int) : isLeap (era * 400 + y) = isLeap y := by
  have hfour : (era * 400 + y) % 4 = y % 4 := by omega
  have hcentury : (era * 400 + y) % 100 = y % 100 := by omega
  have hera : (era * 400 + y) % 400 = y % 400 := by omega
  rw [isLeap, isLeap, hfour, hcentury, hera]

/-- Days are those of whole years and some of the next, and so is their date. -/
theorem dateOf_eq (days : Int) : ∃ (y : Int) (n : Nat), n < 366 ∧
    (n = 365 → isLeap (y + 1) = true) ∧ days = yearStart y + n - 719468 ∧
    dateOf days = (y + (if monthOf n ≤ 2 then 1 else 0), monthOf n, dayOf n) := by
  obtain ⟨era, hera⟩ : ∃ era, Int.fdiv (days + 719468) 146097 = era := ⟨_, rfl⟩
  obtain ⟨d, hd⟩ : ∃ d, (days + 719468 - era * 146097).toNat = d := ⟨_, rfl⟩
  have hbounds : d < 146097 ∧ days + 719468 = era * 146097 + d := by
    rw [Int.fdiv_eq_ediv_of_nonneg _ (by decide)] at hera
    omega
  obtain ⟨y, hy, hstart, hend⟩ : ∃ y : Nat, y < 400 ∧ yearStart y ≤ d ∧ d < yearStart (y + 1) :=
    exists_year (by omega) 400 (lt_of_lt_of_eq (Int.ofNat_lt.mpr hbounds.1) (by decide))
  obtain ⟨n, hn⟩ : ∃ n, d - (365 * y + y / 4 - y / 100) = n := ⟨_, rfl⟩
  have hday : (n : Int) = d - yearStart y := by
    unfold yearStart at hstart ⊢
    omega
  have hlength := yearStart_succ_le y
  have hyear : (d - d / 1460 + d / 36524 - d / 146096) / 365 = y := yearOf_eq hy hstart hend
  refine ⟨era * 400 + y, n, ?_, fun hlast => ?_, ?_, ?_⟩
  · split at hlength <;> omega
  · rw [add_assoc, isLeap_era]
    by_contra hcommon
    rw [if_neg hcommon] at hlength
    omega
  · rw [yearStart_era]
    omega
  · simp only [dateOf, hera, hd, hyear, hn]
    rw [add_comm (y : Int)]
    rfl

/-- The days of the date of some days are these days. -/
theorem daysOf_dateOf {days year : Int} {month day : Nat} (h : dateOf days = (year, month, day)) :
    daysOf year month day = days := by
  obtain ⟨y, n, hn, -, hdays, hdate⟩ := dateOf_eq days
  obtain ⟨hday, hmonth⟩ := dayOfYear_monthOf n hn
  rw [h, Prod.mk.injEq, Prod.mk.injEq] at hdate
  obtain ⟨rfl, rfl, rfl⟩ := hdate
  rw [daysOf_eq, hday, hdays]
  split_ifs <;> simp

theorem isDate_dateOf {days year : Int} {month day : Nat} (h : dateOf days = (year, month, day)) :
    IsDate year month day := by
  obtain ⟨y, n, hn, hleap, -, hdate⟩ := dateOf_eq days
  obtain ⟨-, hmonth⟩ := dayOfYear_monthOf n hn
  rw [h, Prod.mk.injEq, Prod.mk.injEq] at hdate
  obtain ⟨rfl, rfl, rfl⟩ := hdate
  refine isDate_monthOf hn fun hlast => ?_
  rw [if_pos (hmonth.mpr (by omega))]
  exact hleap hlast

/-- Days in a range of years have a date in one of these years. -/
theorem year_of_range {days year first last : Int} {month day : Nat}
    (h : dateOf days = (year, month, day)) (hfirst : daysOf first 1 1 ≤ days)
    (hlast : days < daysOf (last + 1) 1 1) : first ≤ year ∧ year ≤ last := by
  obtain ⟨y, n, hn, -, hdays, hdate⟩ := dateOf_eq days
  obtain ⟨-, hmonth⟩ := dayOfYear_monthOf n hn
  rw [h, Prod.mk.injEq, Prod.mk.injEq] at hdate
  obtain ⟨rfl, rfl, rfl⟩ := hdate
  have hjanuary : ∀ year, daysOf year 1 1 = yearStart (year - 1) + 306 - 719468 := by
    intro year
    rw [daysOf_eq]
    rfl
  rw [hjanuary] at hfirst hlast
  rw [add_sub_cancel_right] at hlast
  by_cases hm : monthOf n ≤ 2
  · have hlate : 306 ≤ n := hmonth.mp hm
    rw [if_pos hm]
    constructor
    · by_contra hlt
      have hstart : yearStart y + 365 ≤ yearStart (first - 1) := yearStart_lt (by omega)
      omega
    · by_contra hgt
      have hstart : yearStart last ≤ yearStart y := yearStart_mono (by omega)
      omega
  · have hearly : n < 306 := by omega
    rw [if_neg hm, add_zero]
    constructor
    · by_contra hlt
      have hstart : yearStart y ≤ yearStart (first - 1) := yearStart_mono (by omega)
      omega
    · by_contra hgt
      have hstart : yearStart last + 365 ≤ yearStart y := yearStart_lt (by omega)
      omega

end FleetExporter.Timestamp
