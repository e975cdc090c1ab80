import Databook.Calendar.Date

/-!
# Days and their numbers

The day with the number of a date is the date (`Date.ofDayNumber?_dayNumber`). The year, month and
day come out of the number one after the other: the year of the era (`yearOfEra_eq`), then the month
(`month_eq`), both counted from March.
-/

namespace Databook.Calendar

namespace Date

/-- Is the day at most the last one of the month? Months are counted from March, from 0. -/
def InMonth (month day : Int) : Prop :=
  day ≤ 31 ∧ (month = 11 → day ≤ 29) ∧ (month = 1 ∨ month = 3 ∨ month = 6 ∨ month = 8 → day ≤ 30)

/-- The month that the `n`-th day of a year is in. -/
theorem month_eq {month day n : Int} (hmonth : 0 ≤ month ∧ month ≤ 11) (hday : 1 ≤ day)
    (hlength : InMonth month day) (hn : n = (153 * month + 2) / 5 + day - 1) :
    (5 * n + 2) / 153 = month := by
  unfold InMonth at hlength
  obtain rfl | rfl | rfl | rfl | rfl | rfl | rfl | rfl | rfl | rfl | rfl | rfl :
    month = 0 ∨ month = 1 ∨ month = 2 ∨ month = 3 ∨ month = 4 ∨ month = 5 ∨ month = 6 ∨
      month = 7 ∨ month = 8 ∨ month = 9 ∨ month = 10 ∨ month = 11 := by omega
  all_goals omega

/-- The year of an era that a day of the era is in. Only a leap year has a day 365, which is the last
one of the era if the year is. -/
theorem yearOfEra_eq {year n day : Int} (hyear : 0 ≤ year ∧ year < 400) (hn : 0 ≤ n ∧ n ≤ 365)
    (hleap : n = 365 → (year + 1) % 4 = 0 ∧ ((year + 1) % 100 ≠ 0 ∨ year = 399))
    (hday : day = year * 365 + year / 4 - year / 100 + n) :
    (day - day / 1460 + day / 36524 - day / 146096) / 365 = year := by
  have hcentury : 0 ≤ year / 100 ∧ year / 100 ≤ 3 := by omega
  have hfour : 0 ≤ year / 4 ∧ year / 4 ≤ 99 := by omega
  have hleaps : day / 1460 = year / 4 ∨ (day / 1460 = year / 4 + 1 ∧ 1 ≤ n) := by omega
  have hleapDay : n = 365 → day / 1460 = year / 4 + 1 := by omega
  have hcenturies : day / 36524 = year / 100 ∨ (year = 399 ∧ n = 365) := by
    by_cases hlast : n = 365
    · obtain ⟨-, hcommon | h399⟩ := hleap hlast
      · have hlow : year % 100 ≤ 98 := by omega
        omega
      · exact .inr ⟨h399, hlast⟩
    · have hle : n ≤ 364 := by omega
      have hsplit : year = 100 * (year / 100) + year % 100 := by omega
      clear hleap
      omega
  have heras : day / 146096 = 0 ∨ (year = 399 ∧ n = 365) := by omega
  omega

theorem isLeapYear_iff {year : Int} :
    isLeapYear year = true ↔ year % 4 = 0 ∧ (year % 100 ≠ 0 ∨ year % 400 = 0) := by
  simp [isLeapYear]

/-- The lengths of the months in the year from March. Only a leap year has a 29 February. -/
theorem inMonth_of_le {year : Int} {month day : Nat} (hmonth : 1 ≤ month ∧ month ≤ 12)
    (hday : day ≤ daysInMonth year month) {m : Int}
    (hm : m = if month ≤ 2 then (month : Int) + 9 else month - 3) :
    InMonth m day ∧ (m = 11 → day = 29 → isLeapYear year = true) := by
  unfold InMonth
  obtain ⟨hlow, hhigh⟩ := hmonth
  obtain rfl | rfl | rfl | rfl | rfl | rfl | rfl | rfl | rfl | rfl | rfl | rfl :
    month = 1 ∨ month = 2 ∨ month = 3 ∨ month = 4 ∨ month = 5 ∨ month = 6 ∨ month = 7 ∨
      month = 8 ∨ month = 9 ∨ month = 10 ∨ month = 11 ∨ month = 12 := by omega
  case inr.inl =>
    have hfebruary : daysInMonth year 2 = if isLeapYear year then 29 else 28 := rfl
    rw [hfebruary] at hday
    split at hday
    · next hleap => exact ⟨by omega, fun _ _ => hleap⟩
    · exact ⟨by omega, by omega⟩
  all_goals
    simp only [daysInMonth] at hday
    omega

/-- The days from 1 March of the year 0 to 1 March of a year. -/
def daysToMarch (year : Int) : Int := 365 * year + year / 4 - year / 100 + year / 400

/-- A day as the `n`-th one, from 0, of a year that starts on 1 March. Only a year with a leap day,
which is its last day, has a day 365. -/
theorem exists_march {year : Int} {month day : Nat} (h : DayExists year month day) :
    ∃ y m n : Int, y = (if month ≤ 2 then year - 1 else year) ∧
      m = (if month ≤ 2 then (month : Int) + 9 else month - 3) ∧ n = (153 * m + 2) / 5 + day - 1 ∧
      (5 * n + 2) / 153 = m ∧ (0 ≤ n ∧ n ≤ 365) ∧
      (n = 365 → (y + 1) % 4 = 0 ∧ ((y + 1) % 100 ≠ 0 ∨ (y + 1) % 400 = 0)) ∧
      countDays year month day = daysToMarch y + n - 719468 := by
  obtain ⟨-, -, hmonth, hmonth', hday, hday'⟩ := h
  obtain ⟨y, hy⟩ : ∃ y, y = if month ≤ 2 then year - 1 else year := ⟨_, rfl⟩
  obtain ⟨m, hm⟩ : ∃ m : Int, m = if month ≤ 2 then (month : Int) + 9 else month - 3 := ⟨_, rfl⟩
  obtain ⟨n, hn⟩ : ∃ n : Int, n = (153 * m + 2) / 5 + day - 1 := ⟨_, rfl⟩
  have hrange : 0 ≤ m ∧ m ≤ 11 := by split at hm <;> omega
  obtain ⟨hlength, hlast⟩ := inMonth_of_le ⟨hmonth, hmonth'⟩ hday' hm
  have hmarch := month_eq hrange (by omega) hlength hn
  unfold InMonth at hlength
  refine ⟨y, m, n, hy, hm, hn, hmarch, by omega, ?_, ?_⟩
  · intro h365
    have h11 : m = 11 ∧ day = 29 := by omega
    have hyear := isLeapYear_iff.1 (hlast h11.1 h11.2)
    split at hm
    · omega
    · omega
  · unfold countDays daysToMarch
    simp only
    rw [← hy, ← hm]
    omega

/-- Counting days and going back ends at the same day. -/
theorem civil_countDays {year : Int} {month day : Nat} (h : DayExists year month day) :
    civil (countDays year month day) = (year, month, day) := by
  obtain ⟨y, m, n, hy, hm, hn, hmarch, hrange, hlast, hcount⟩ := exists_march h
  obtain ⟨-, -, hmonth, hmonth', hday, -⟩ := h
  obtain ⟨doe, hdoe⟩ : ∃ doe, doe = y % 400 * 365 + y % 400 / 4 - y % 400 / 100 + n := ⟨_, rfl⟩
  have hcount' : countDays year month day + 719468 = y / 400 * 146097 + doe := by
    unfold daysToMarch at hcount
    omega
  have hleap : n = 365 → (y % 400 + 1) % 4 = 0 ∧ ((y % 400 + 1) % 100 ≠ 0 ∨ y % 400 = 399) := by
    intro h365
    have hyear := hlast h365
    omega
  have hyear := yearOfEra_eq (by omega) hrange hleap hdoe
  have hera : (y / 400 * 146097 + doe) / 146097 = y / 400 := by omega
  have hday : (y / 400 * 146097 + doe) % 146097 = doe := by omega
  have hdayOfYear : doe - (365 * (y % 400) + y % 400 / 4 - y % 400 / 100) = n := by omega
  unfold civil
  simp only [hcount', hera, hday, hyear, hdayOfYear, hmarch]
  have hback : (if m < 10 then m + 3 else m - 9) = month := by split <;> split at hm <;> omega
  have hyears : y % 400 + y / 400 * 400 + (if (month : Int) ≤ 2 then 1 else 0) = year := by
    split <;> split at hy <;> omega
  rw [hback, hyears, Int.toNat_natCast]
  exact congrArg (fun k => (year, month, k)) (by omega)

/-- The day with the number of a date is the date. -/
theorem ofDayNumber?_dayNumber (d : Date) : ofDayNumber? d.dayNumber = some d := by
  unfold ofDayNumber? dayNumber
  rw [civil_countDays d.exists_day]
  exact dif_pos d.exists_day

end Date

end Databook.Calendar
