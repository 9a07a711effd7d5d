import Accounts.Time.Calendar
import Mathlib.Tactic.IntervalCases
/-! Days of the calendar and their numbers. Main statement: every number is that of the date which is told for it, and
this is a date of the calendar. -/
namespace Accounts.Time.Date

/-! ### Years of an era

An era has 400 years that start in March, so that a leap day is the last day of its year. -/

/-- The days of an era before one of its years. -/
def daysBefore (year : Int) : Int := 365 * year + year / 4 - year / 100

/-- The year of an era that has a day. -/
def yearWith (day : Int) : Int := (day - day / 1460 + day / 36524 - day / 146096) / 365

section
variable {day : Int} (first : 0 ≤ day) (last : day < 146097)
include first last

theorem century_of_yearWith : yearWith day / 100 = day / 36524 - day / 146096 := by
  have within : 0 ≤ day / 36524 ∧ day / 36524 ≤ 4 := by omega
  unfold yearWith
  -- For each century the quotients are bounded by linear facts.
  generalize same : day / 36524 = century at within ⊢
  obtain ⟨low, high⟩ := within
  interval_cases century <;> omega

/-- The first days of four years that 1460 days make may belong to the year before. -/
theorem olympiad_of_yearWith : yearWith day = 4 * (day / 1460) - 1 ∨ yearWith day / 4 = day / 1460 := by
  unfold yearWith
  omega

theorem yearWith_bounds : 0 ≤ yearWith day ∧ yearWith day < 400 := by
  have century := century_of_yearWith first last
  omega

theorem dayOfYear_bounds : daysBefore (yearWith day) ≤ day ∧ day ≤ daysBefore (yearWith day) + 365 := by
  have century := century_of_yearWith first last
  have quotient : yearWith day = (day - day / 1460 + day / 36524 - day / 146096) / 365 := rfl
  unfold daysBefore
  rw [century]
  rcases olympiad_of_yearWith first last with same | same <;> omega

/-- A year that has 366 days has its last one in a leap year. -/
theorem isLeap_of_last (longest : day = daysBefore (yearWith day) + 365) (era : Int) :
    isLeap (yearWith day + era * 400 + 1) = true := by
  have century := century_of_yearWith first last
  have quotient : yearWith day = (day - day / 1460 + day / 36524 - day / 146096) / 365 := rfl
  unfold daysBefore at longest
  rw [century] at longest
  have leap : (yearWith day + 1) % 4 = 0 ∧ ((yearWith day + 1) % 100 ≠ 0 ∨ (yearWith day + 1) % 400 = 0) := by
    rcases olympiad_of_yearWith first last with same | same
    · refine ⟨by omega, ?_⟩
      by_contra! both
      have turn : day = 36524 * ((yearWith day + 1) / 100) := by omega
      omega
    · omega
  simp only [isLeap, Bool.and_eq_true, Bool.or_eq_true, decide_eq_true_eq]
  omega

end

/-! ### Dates -/

section
variable (n : Int)

/-- The era of a day, its year in the era and the day of this year. -/
theorem exists_era : ∃ era year dayOfYear : Int, 0 ≤ year ∧ year < 400 ∧ 0 ≤ dayOfYear ∧ dayOfYear ≤ 365 ∧
    (dayOfYear = 365 → isLeap (year + era * 400 + 1) = true) ∧
    n + 719468 = era * 146097 + (daysBefore year + dayOfYear) ∧
    ofDays n =
      let month := (5 * dayOfYear + 2) / 153
      let day := (dayOfYear - (153 * month + 2) / 5 + 1).toNat
      if month < 10 then ⟨year + era * 400, (month + 3).toNat, day⟩
      else ⟨year + era * 400 + 1, (month - 9).toNat, day⟩ := by
  have first : 0 ≤ (n + 719468) % 146097 := by omega
  have last : (n + 719468) % 146097 < 146097 := by omega
  have year := yearWith_bounds first last
  have within := dayOfYear_bounds first last
  refine ⟨(n + 719468) / 146097, yearWith ((n + 719468) % 146097),
    (n + 719468) % 146097 - daysBefore (yearWith ((n + 719468) % 146097)), year.1, year.2, by omega, by omega,
    fun longest => isLeap_of_last first last (by omega) _, by omega, rfl⟩

theorem toDays_ofDays : (ofDays n).toDays = n := by
  obtain ⟨era, year, dayOfYear, low, high, first, last, -, whole, told⟩ := exists_era n
  rw [told]
  unfold daysBefore at whole
  dsimp only
  split
  · simp only [toDays]
    split <;> omega
  · simp only [toDays]
    split <;> omega

theorem isValid_ofDays : (ofDays n).isValid = true := by
  obtain ⟨era, year, dayOfYear, low, high, first, last, leap, -, told⟩ := exists_era n
  rw [told]
  dsimp only
  have months : 0 ≤ (5 * dayOfYear + 2) / 153 ∧ (5 * dayOfYear + 2) / 153 ≤ 11 := by omega
  generalize same : (5 * dayOfYear + 2) / 153 = month at months ⊢
  obtain ⟨first', last'⟩ := months
  -- Eleven months have as many days as come before the next one; the last day of February is that of a leap year.
  interval_cases month <;> simp only [isValid, daysInMonth] <;> grind

end

end Accounts.Time.Date
