import Mathlib.Data.Int.Basic

namespace Calendar

def isLeap (year : Int) : Bool := year % 4 = 0 ∧ (year % 100 ≠ 0 ∨ year % 400 = 0)

def daysInMonth (year : Int) : Nat → Nat
  | 2 => if isLeap year then 29 else 28
  | 4 | 6 | 9 | 11 => 30
  | _ => 31

/-- The days of a year before a month, which are counted from one. -/
def daysBefore (year : Int) : Nat → Nat
  | 0 | 1 => 0
  | month + 2 => daysBefore year (month + 1) + daysInMonth year (month + 1)

/-- The days from the first of 1970 to the first of a year. -/
def dayFromYear (year : Int) : Int :=
  365 * (year - 1970) + (year - 1969) / 4 - (year - 1901) / 100 + (year - 1601) / 400

/-- The days from the first of 1970 to a date. -/
def makeDay (year : Int) (month day : Nat) : Int :=
  dayFromYear year + daysBefore year month + (day - 1)

def IsDate (year : Int) (month day : Nat) : Prop :=
  1 ≤ month ∧ month ≤ 12 ∧ 1 ≤ day ∧ day ≤ daysInMonth year month

instance (year : Int) (month day : Nat) : Decidable (IsDate year month day) :=
  inferInstanceAs (Decidable (_ ∧ _ ∧ _ ∧ _))

theorem isLeap_iff {year : Int} :
    isLeap year = true ↔ year % 4 = 0 ∧ (year % 100 ≠ 0 ∨ year % 400 = 0) := by
  rw [isLeap, decide_eq_true_eq]

/-- The first of a year, from the first of the one before. -/
theorem dayFromYear_succ (year : Int) :
    dayFromYear (year + 1) = dayFromYear year + if isLeap year then 366 else 365 := by
  unfold dayFromYear
  by_cases h : isLeap year = true
  · rw [if_pos h]
    have hleap := isLeap_iff.mp h
    omega
  · rw [if_neg h]
    have hcommon : ¬ (year % 4 = 0 ∧ (year % 100 ≠ 0 ∨ year % 400 = 0)) :=
      fun hl => h (isLeap_iff.mpr hl)
    omega

theorem daysInMonth_le (year : Int) (month : Nat) : daysInMonth year month ≤ 31 := by
  unfold daysInMonth
  split
  next => split <;> omega
  all_goals omega

theorem daysBefore_le (year : Int) (month : Nat) : daysBefore year month ≤ 31 * (month - 1) := by
  induction month with
  | zero => exact Nat.le_refl 0
  | succ month ih =>
    have hmonth := daysInMonth_le year month
    cases month with
    | zero => exact Nat.le_refl 0
    | succ month =>
      rw [daysBefore]
      omega

/-- A year is as far from 1970 as its dates are. -/
theorem IsDate.year_bound {year : Int} {month day : Nat} (h : IsDate year month day) :
    (makeDay year month day - 365 * (year - 1970)).natAbs ≤ (year - 1970).natAbs + 1000 := by
  obtain ⟨_, hmonth, hday, hlast⟩ := h
  have hdays := daysInMonth_le year month
  have hbefore := daysBefore_le year month
  unfold makeDay dayFromYear
  omega

/-! ### Years that begin in March, in eras of 400 -/

section March

variable {day year : Nat}

/-- The century of a day of an era; the last day of the era would be in a fifth one. -/
theorem century_of_day (hday : day < 146097) {c : Nat} (hc : day / 36524 = c)
    (hyear : (day - day / 1460 + day / 36524 - day / 146096) / 365 = year) :
    (c ≤ 3 → year / 100 = c ∧ day / 146096 = 0) ∧ (c = 4 → year = 399 ∧ day = 146096) := by
  rw [hc] at hyear
  have hcases : c = 0 ∨ c = 1 ∨ c = 2 ∨ c = 3 ∨ c = 4 := by omega
  rcases hcases with rfl | rfl | rfl | rfl | rfl
  · omega
  · omega
  · omega
  · omega
  · omega

theorem centuries {c : Nat} (h : c ≤ 3) : c = 0 ∨ c = 1 ∨ c = 2 ∨ c = 3 := by omega

/-- The day is one of the year that is computed for it, which has a last day more if a leap day
ends it. -/
theorem year_of_day (hday : day < 146097)
    (hyear : (day - day / 1460 + day / 36524 - day / 146096) / 365 = year) :
    year < 400 ∧ 365 * year + year / 4 - year / 100 ≤ day ∧
      day ≤ 365 * year + year / 4 - year / 100 + 365 := by
  have hcentury := century_of_day hday rfl hyear
  by_cases hc : day / 36524 ≤ 3
  · obtain ⟨hyc, hlast⟩ := hcentury.1 hc
    rcases centuries hc with h | h | h | h
    all_goals
      rw [h, hlast] at hyear
      omega
  · omega

theorem leap_of_last_day (hday : day < 146097)
    (hyear : (day - day / 1460 + day / 36524 - day / 146096) / 365 = year)
    (hlast : day = 365 * year + year / 4 - year / 100 + 365) :
    (year + 1) % 4 = 0 ∧ ((year + 1) % 100 ≠ 0 ∨ (year + 1) % 400 = 0) := by
  have hcentury := century_of_day hday rfl hyear
  by_cases hc : day / 36524 ≤ 3
  · obtain ⟨hyc, hend⟩ := hcentury.1 hc
    -- only the last of four years has the day, which is not in the century if it ends there
    have hfour : year % 4 = 3 := by
      rcases centuries hc with h | h | h | h
      all_goals
        rw [h, hend] at hyear
        rw [h] at hyc
        rw [hyc] at hlast
        omega
    rcases centuries hc with h | h | h | h
    all_goals
      rw [h, hend] at hyear
      rw [h] at hyc
      rw [hyc] at hlast
      omega
  · omega

end March

section Dates

variable (era : Int) {year dayOfYear : Nat}

/-- The first of March, from the first of January after it. -/
theorem dayFromYear_march (hyear : year < 400) :
    dayFromYear (era * 400 + year + 1) =
      era * 146097 + (365 * year + year / 4 - year / 100 : Nat) - 719468 + 306 := by
  unfold dayFromYear
  omega

theorem daysBefore_march (y : Int) {m : Nat} (h : m < 10) :
    (daysBefore y (m + 3) : Int) = (153 * m + 2) / 5 + if isLeap y then 60 else 59 := by
  have hcases : m = 0 ∨ m = 1 ∨ m = 2 ∨ m = 3 ∨ m = 4 ∨ m = 5 ∨ m = 6 ∨ m = 7 ∨ m = 8 ∨ m = 9 := by
    omega
  cases hleap : isLeap y
  all_goals
    rcases hcases with rfl | rfl | rfl | rfl | rfl | rfl | rfl | rfl | rfl | rfl
    all_goals simp [daysBefore, daysInMonth, hleap]

theorem daysInMonth_march (y : Int) {m : Nat} (h : m < 10) :
    daysInMonth y (m + 3) = (153 * m + 155) / 5 - (153 * m + 2) / 5 := by
  have hcases : m = 0 ∨ m = 1 ∨ m = 2 ∨ m = 3 ∨ m = 4 ∨ m = 5 ∨ m = 6 ∨ m = 7 ∨ m = 8 ∨ m = 9 := by
    omega
  rcases hcases with rfl | rfl | rfl | rfl | rfl | rfl | rfl | rfl | rfl | rfl
  all_goals rfl

/-- From March to December the date is one of the year itself. -/
theorem makeDay_march (hyear : year < 400) {m d : Nat} (hm : (5 * dayOfYear + 2) / 153 = m)
    (hd : dayOfYear - (153 * m + 2) / 5 + 1 = d) (h : m < 10) :
    IsDate (era * 400 + year) (m + 3) d ∧
      makeDay (era * 400 + year) (m + 3) d = era * 146097 +
        (365 * year + year / 4 - year / 100 : Nat) + dayOfYear - 719468 := by
  have hmonth := daysInMonth_march (era * 400 + year) h
  refine ⟨⟨by omega, by omega, by omega, by rw [hmonth]; omega⟩, ?_⟩
  have hfirst := dayFromYear_march era hyear
  have hbefore := daysBefore_march (era * 400 + year) h
  have hsucc := dayFromYear_succ (era * 400 + year)
  unfold makeDay
  by_cases hleap : isLeap (era * 400 + year) = true
  · rw [if_pos hleap] at hbefore hsucc
    omega
  · rw [if_neg hleap] at hbefore hsucc
    omega

/-- In January and February it is one of the next year, which a leap day may end. -/
theorem makeDay_january (hyear : year < 400) (hday : dayOfYear ≤ 365)
    (hlast : dayOfYear = 365 → isLeap (era * 400 + year + 1) = true) {m d : Nat}
    (hm : (5 * dayOfYear + 2) / 153 = m) (hd : dayOfYear - (153 * m + 2) / 5 + 1 = d)
    (h : ¬ m < 10) :
    IsDate (era * 400 + year + 1) (m - 9) d ∧
      makeDay (era * 400 + year + 1) (m - 9) d = era * 146097 +
        (365 * year + year / 4 - year / 100 : Nat) + dayOfYear - 719468 := by
  have hfirst := dayFromYear_march era hyear
  have hcases : m = 10 ∨ m = 11 := by omega
  rcases hcases with rfl | rfl
  · have hmonth : daysInMonth (era * 400 + year + 1) 1 = 31 := rfl
    have hbefore : daysBefore (era * 400 + year + 1) 1 = 0 := rfl
    refine ⟨⟨by omega, by omega, by omega, by rw [hmonth]; omega⟩, ?_⟩
    unfold makeDay
    rw [hbefore]
    omega
  · have hbefore : daysBefore (era * 400 + year + 1) 2 = 31 := rfl
    refine ⟨⟨by omega, by omega, by omega, ?_⟩, ?_⟩
    · show d ≤ if isLeap (era * 400 + year + 1) then 29 else 28
      by_cases hleap : isLeap (era * 400 + year + 1) = true
      · rw [if_pos hleap]
        omega
      · have hother : dayOfYear ≠ 365 := fun he => hleap (hlast he)
        rw [if_neg hleap]
        omega
    · unfold makeDay
      rw [hbefore]
      omega

end Dates

end Calendar
