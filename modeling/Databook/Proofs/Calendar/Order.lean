import Databook.Proofs.Calendar.Shift
import Mathlib.Tactic.ByContra

/-!
# The order of dates

Dates are compared by their years, then by their months, then by their days. That is the order of
their numbers (`Date.le_iff`), so dates are ordered totally and a later date is some days away.

Counting days or months between two dates respects this order, and turning the dates around turns the
sign around (`Date.monthsFrom_mono`, `Date.monthsFrom_swap`): a month that is not over is left out in
both directions.
-/

namespace Databook.Calendar

namespace Date

/-- Dates stand in the order of their years, then of their months, then of their days. -/
instance : LE Date where
  le a b := a.year < b.year ∨
    a.year = b.year ∧ (a.month < b.month ∨ a.month = b.month ∧ a.day ≤ b.day)

variable {a a' b : Date}

theorem le_def : a ≤ b ↔ a.year < b.year ∨
    a.year = b.year ∧ (a.month < b.month ∨ a.month = b.month ∧ a.day ≤ b.day) := Iff.rfl

/-- Not to be late is the opposite of being earlier. -/
theorem not_le_iff : ¬ a ≤ b ↔ b.year < a.year ∨
    b.year = a.year ∧ (b.month < a.month ∨ b.month = a.month ∧ b.day < a.day) := by
  rw [le_def]
  omega

instance : DecidableRel (α := Date) (· ≤ ·) := fun _ _ => decidable_of_iff _ le_def.symm

/-! ### Numbers of days -/

/-- A year from March is over before the next one starts. -/
theorem daysToMarch_succ (year : Int) : daysToMarch year + 365 ≤ daysToMarch (year + 1) ∧
    ((year + 1) % 4 = 0 ∧ ((year + 1) % 100 ≠ 0 ∨ (year + 1) % 400 = 0) →
      daysToMarch year + 366 ≤ daysToMarch (year + 1)) := by
  unfold daysToMarch
  omega

theorem daysToMarch_mono {year year' : Int} (h : year ≤ year') :
    daysToMarch year ≤ daysToMarch year' := by
  unfold daysToMarch
  omega

/-- An earlier date has a smaller number. The years are compared from March, and so are the months
within them: the order is the same, for January and February end their year there. -/
theorem dayNumber_lt_of_not_le (h : ¬ a ≤ b) : b.dayNumber < a.dayNumber := by
  rw [not_le_iff] at h
  obtain ⟨y, m, n, hy, hm, hn, hmonth, hrange, hlast, hcount⟩ := exists_march b.exists_day
  obtain ⟨y', m', n', hy', hm', hn', hmonth', hrange', -, hcount'⟩ := exists_march a.exists_day
  obtain ⟨-, -, hlow, hhigh, -, -⟩ := b.exists_day
  obtain ⟨-, -, hlow', hhigh', -, -⟩ := a.exists_day
  unfold dayNumber
  rw [hcount, hcount']
  by_cases hyears : y < y'
  · obtain ⟨hnext, hnextLeap⟩ := daysToMarch_succ y
    have hlater := daysToMarch_mono (show y + 1 ≤ y' by omega)
    by_cases h365 : n = 365
    · have hleap := hnextLeap (hlast h365)
      omega
    · omega
  · -- the dates are in one year from March, and the months tell which is earlier
    have hsame : y = y' ∧ (m < m' ∨ m = m' ∧ b.day < a.day) := by
      split at hy <;> split at hm <;> split at hy' <;> split at hm' <;> omega
    obtain ⟨rfl, hmonths | ⟨rfl, hdays⟩⟩ := hsame
    · omega
    · omega

theorem le_iff : a ≤ b ↔ a.dayNumber ≤ b.dayNumber := by
  constructor
  · intro h
    by_cases hback : b ≤ a
    · -- both are the same day
      have hfields : a.year = b.year ∧ a.month = b.month ∧ a.day = b.day := by
        rw [le_def] at h hback
        omega
      have hsame : a.dayNumber = b.dayNumber := by
        unfold dayNumber
        rw [hfields.1, hfields.2.1, hfields.2.2]
      exact Int.le_of_eq hsame
    · exact Int.le_of_lt (dayNumber_lt_of_not_le hback)
  · intro h
    by_contra hnot
    exact absurd h (Int.not_le_of_gt (dayNumber_lt_of_not_le hnot))

/-! ### Days and months between dates -/

theorem daysFrom_swap (a b : Date) : a.daysFrom b = -b.daysFrom a := by
  unfold daysFrom
  omega

theorem daysFrom_mono (h : a ≤ a') (b : Date) : a.daysFrom b ≤ a'.daysFrom b := by
  rw [le_iff] at h
  unfold daysFrom
  omega

theorem monthsFrom_swap (a b : Date) : a.monthsFrom b = -b.monthsFrom a := by
  unfold monthsFrom
  simp only
  split <;> split <;> try split
  all_goals omega

/-- The later of two dates is no fewer months away: if both are in one month, the day tells whether
that month counts. -/
theorem monthsFrom_mono (h : a ≤ a') (b : Date) : a.monthsFrom b ≤ a'.monthsFrom b := by
  have hmonths : a.monthNumber < a'.monthNumber ∨ a.monthNumber = a'.monthNumber ∧ a.day ≤ a'.day := by
    obtain ⟨-, -, hlow, hhigh, -, -⟩ := a.exists_day
    obtain ⟨-, -, hlow', hhigh', -, -⟩ := a'.exists_day
    rw [le_def] at h
    unfold monthNumber
    omega
  unfold monthsFrom
  simp only
  split <;> split <;> try split <;> try split
  all_goals omega

end Date

end Databook.Calendar
