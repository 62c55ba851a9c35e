import OrderDesk.Time.Calendar
import Mathlib.Tactic.IntervalCases

/-!
# Days and dates

Years are taken to start in March and are grouped in eras of 400, which have 146097 days each.

* `yearOfEra`, `dayOfYear`      the year that a day of an era belongs to, and its place there;
* `dateOf_valid`                the date of a day is one of the calendar;
* `daysOf_dateOf`               its day is the one it was made from.
-/

namespace OrderDesk.Calendar

/-! ## the days of an era -/

/-- the year of an era that a day of it belongs to -/
def yearOfEra (doe : Int) : Int := (doe - doe / 1460 + doe / 36524 - doe / 146096) / 365

/-- the place of a day of an era in its year -/
def dayOfYear (doe : Int) : Int :=
  doe - (365 * yearOfEra doe + yearOfEra doe / 4 - yearOfEra doe / 100)

section
variable {doe : Int} (h₀ : 0 ≤ doe) (h₁ : doe < 146097)
include h₀ h₁

/-- the centuries of an era; the last day of the era is on its own -/
theorem centuries : (doe / 36524 = 0 ∨ doe / 36524 = 1 ∨ doe / 36524 = 2 ∨ doe / 36524 = 3 ∨
    doe / 36524 = 4) ∧ (doe / 146096 = 0 ∨ doe / 146096 = 1) := by
  omega

theorem yearOfEra_range : 0 ≤ yearOfEra doe ∧ yearOfEra doe < 400 := by
  unfold yearOfEra
  omega

theorem yearOfEra_century : yearOfEra doe / 100 = 0 ∨ yearOfEra doe / 100 = 1 ∨
    yearOfEra doe / 100 = 2 ∨ yearOfEra doe / 100 = 3 := by
  obtain ⟨h, h'⟩ := yearOfEra_range h₀ h₁
  omega

theorem dayOfYear_range : 0 ≤ dayOfYear doe ∧ dayOfYear doe < 366 := by
  obtain ⟨hday, hlast⟩ := centuries h₀ h₁
  have hcentury := yearOfEra_century h₀ h₁
  have hyear : yearOfEra doe = (doe - doe / 1460 + doe / 36524 - doe / 146096) / 365 := rfl
  unfold dayOfYear
  rcases hlast with hlast | hlast
  · rcases hday with h | h | h | h | h <;> rcases hcentury with h' | h' | h' | h' <;> omega
  · omega

/-- a year with one day more ends in a leap February -/
theorem leap_of_lastDay (h : dayOfYear doe = 365) : (yearOfEra doe + 1) % 4 = 0 ∧
    ((yearOfEra doe + 1) % 100 ≠ 0 ∨ (yearOfEra doe + 1) % 400 = 0) := by
  obtain ⟨hday, hlast⟩ := centuries h₀ h₁
  have hcentury := yearOfEra_century h₀ h₁
  have hyear : yearOfEra doe = (doe - doe / 1460 + doe / 36524 - doe / 146096) / 365 := rfl
  unfold dayOfYear at h
  -- in the first three years of four, 1460 days fit in as often as four years do
  have hfour : (yearOfEra doe + 1) % 4 = 0 := by
    have hr : yearOfEra doe % 4 = 0 ∨ yearOfEra doe % 4 = 1 ∨ yearOfEra doe % 4 = 2 ∨
        yearOfEra doe % 4 = 3 := by omega
    rcases hr with hr | hr | hr | hr
    · have hquarter : doe / 1460 = yearOfEra doe / 4 := by omega
      omega
    · have hquarter : doe / 1460 = yearOfEra doe / 4 := by omega
      omega
    · have hquarter : doe / 1460 = yearOfEra doe / 4 := by omega
      omega
    · omega
  refine ⟨hfour, ?_⟩
  rcases hlast with hlast | hlast
  · rcases hday with h | h | h | h | h <;> rcases hcentury with h' | h' | h' | h' <;> omega
  · omega

end

/-! ## dates -/

/-- The date of a day, from its era and its place there. -/
def dateIn (era doe : Int) : Date :=
  let mp := (5 * dayOfYear doe + 2) / 153
  let month := if mp < 10 then mp + 3 else mp - 9
  ⟨yearOfEra doe + era * 400 + (if month ≤ 2 then 1 else 0), month.toNat,
    (dayOfYear doe - (153 * mp + 2) / 5 + 1).toNat⟩

theorem dateOf_eq (n : Int) : ∃ era doe, 0 ≤ doe ∧ doe < 146097 ∧ n + 719468 = era * 146097 + doe ∧
    dateOf n = dateIn era doe := by
  refine ⟨(n + 719468).fdiv 146097, n + 719468 - (n + 719468).fdiv 146097 * 146097, ?_, ?_, ?_, rfl⟩
  all_goals
    rw [Int.fdiv_eq_ediv_of_nonneg _ (by decide)]
    omega

section
variable {era doe : Int} (h₀ : 0 ≤ doe) (h₁ : doe < 146097)
include h₀ h₁

theorem month_cases : (5 * dayOfYear doe + 2) / 153 = 11 ∨ ∃ mp : Nat, mp < 11 ∧
    (5 * dayOfYear doe + 2) / 153 = mp := by
  obtain ⟨h, h'⟩ := dayOfYear_range h₀ h₁
  by_cases hlast : (5 * dayOfYear doe + 2) / 153 = 11
  · exact .inl hlast
  · exact .inr ⟨((5 * dayOfYear doe + 2) / 153).toNat, by omega, by omega⟩

/-- **A date of an era is one of the calendar.** -/
theorem dateIn_valid : 1 ≤ (dateIn era doe).month ∧ (dateIn era doe).month ≤ 12 ∧
    1 ≤ (dateIn era doe).day ∧
    (dateIn era doe).day ≤ daysIn (dateIn era doe).year (dateIn era doe).month := by
  obtain ⟨h, h'⟩ := dayOfYear_range h₀ h₁
  unfold dateIn
  rcases month_cases h₀ h₁ with hm | ⟨mp, hlt, hm⟩
  · -- February has its last day in leap years only
    have hleap : dayOfYear doe = 365 → isLeap (yearOfEra doe + era * 400 + 1) = true := by
      intro hlast
      obtain ⟨hfour, hcentury⟩ := leap_of_lastDay h₀ h₁ hlast
      simp only [isLeap, Bool.and_eq_true, Bool.or_eq_true, beq_iff_eq, bne_iff_ne]
      omega
    rw [hm]
    simp only [daysIn]
    by_cases hlast : dayOfYear doe = 365
    · simp [hleap hlast, hlast]
    · simp
      split <;> omega
  · rw [hm]
    interval_cases mp <;> simp [daysIn] <;> omega

theorem daysOf_dateIn : daysOf (dateIn era doe) = era * 146097 + doe - 719468 := by
  obtain ⟨h, h'⟩ := dayOfYear_range h₀ h₁
  obtain ⟨hy, hy'⟩ := yearOfEra_range h₀ h₁
  have hdoe : doe = dayOfYear doe + (365 * yearOfEra doe + yearOfEra doe / 4 -
      yearOfEra doe / 100) := by
    unfold dayOfYear
    omega
  have hera : (yearOfEra doe + era * 400).fdiv 400 = era := by
    rw [Int.fdiv_eq_ediv_of_nonneg _ (by decide)]
    omega
  unfold daysOf dateIn
  rcases month_cases h₀ h₁ with hm | ⟨mp, hlt, hm⟩
  · rw [hm]
    simp [hera]
    omega
  · rw [hm]
    interval_cases mp <;> simp [hera] <;> omega

end

theorem dateOf_valid (n : Int) : 1 ≤ (dateOf n).month ∧ (dateOf n).month ≤ 12 ∧
    1 ≤ (dateOf n).day ∧ (dateOf n).day ≤ daysIn (dateOf n).year (dateOf n).month := by
  obtain ⟨era, doe, h₀, h₁, -, hdate⟩ := dateOf_eq n
  rw [hdate]
  exact dateIn_valid h₀ h₁

/-- **The day of the date of a day is that day.** -/
theorem daysOf_dateOf (n : Int) : daysOf (dateOf n) = n := by
  obtain ⟨era, doe, h₀, h₁, hn, hdate⟩ := dateOf_eq n
  rw [hdate, daysOf_dateIn h₀ h₁]
  omega

end OrderDesk.Calendar
