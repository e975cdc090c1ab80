import Databook.Proofs.Calendar.Date

/-!
# Moving and measuring dates

Every number of a day in the range of dates belongs to one date, and going there and counting days
are inverse to each other (`Date.ofDayNumber?_eq_some_iff`). So a date that has been moved by some days
is that many days away, and comes back when it is moved by as many days the other way
(`Date.addDays?_neg`).

A date that has been moved by months is as many months away, but for a day that the month does not
have and that has become its last one: then the last of the months is not over
(`Date.monthsFrom_of_addMonths?`).
-/

namespace Databook.Calendar

namespace Date

/-! ### Day numbers -/

/-- Every day of an era is a day of one of its years. -/
theorem exists_yearOfEra {day : Int} (hday : 0 ≤ day ∧ day < 146097) :
    ∃ year n : Int, (0 ≤ year ∧ year < 400) ∧ (0 ≤ n ∧ n ≤ 365) ∧
      (n = 365 → (year + 1) % 4 = 0 ∧ ((year + 1) % 100 ≠ 0 ∨ year = 399)) ∧
      day = year * 365 + year / 4 - year / 100 + n := by
  -- either the day is in one of the first years, or they are over
  have hyears : ∀ k : Nat, k ≤ 399 → (k : Int) * 365 + k / 4 - k / 100 ≤ day ∨
      ∃ year n : Int, (0 ≤ year ∧ year < 400) ∧ (0 ≤ n ∧ n ≤ 365) ∧
        (n = 365 → (year + 1) % 4 = 0 ∧ ((year + 1) % 100 ≠ 0 ∨ year = 399)) ∧
        day = year * 365 + year / 4 - year / 100 + n := by
    intro k hk
    induction k with
    | zero => exact .inl hday.1
    | succ k ih =>
      rw [Int.natCast_succ]
      rcases ih (by omega) with hover | hin
      · by_cases hnext : ((k : Int) + 1) * 365 + (k + 1) / 4 - (k + 1) / 100 ≤ day
        · exact .inl hnext
        · have hfour : ((k : Int) + 1) / 4 = k / 4 ∨
              (((k : Int) + 1) / 4 = k / 4 + 1 ∧ ((k : Int) + 1) % 4 = 0) := by omega
          have hcentury : ((k : Int) + 1) / 100 = k / 100 ∨
              (((k : Int) + 1) / 100 = k / 100 + 1 ∧ ((k : Int) + 1) % 100 = 0) := by omega
          refine .inr ⟨k, day - (k * 365 + k / 4 - k / 100), ?_, ?_, ?_, ?_⟩ <;> omega
      · exact .inr hin
  rcases hyears 399 (Nat.le_refl _) with hover | hin
  · exact ⟨399, day - (399 * 365 + 399 / 4 - 399 / 100), by omega, by omega, by omega, by omega⟩
  · exact hin

/-- Going to the day with a number and counting days ends at the same number. -/
theorem countDays_civil (n : Int) :
    countDays (civil n).1 (civil n).2.1 (civil n).2.2 = n := by
  obtain ⟨era, hera⟩ : ∃ era, era = (n + 719468) / 146097 := ⟨_, rfl⟩
  obtain ⟨day, hday⟩ : ∃ day, day = (n + 719468) % 146097 := ⟨_, rfl⟩
  have hera' : 0 ≤ day ∧ day < 146097 := by omega
  obtain ⟨year, k, hyear, hk, hleap, hsplit⟩ := exists_yearOfEra hera'
  have hyearOfEra := yearOfEra_eq hyear hk hleap hsplit
  have hdayOfYear : day - (365 * year + year / 4 - year / 100) = k := by omega
  -- the month and the day of the month, counted from March
  obtain ⟨m, hm⟩ : ∃ m, m = (5 * k + 2) / 153 := ⟨_, rfl⟩
  have hmonth : 0 ≤ m ∧ m ≤ 11 := by omega
  have hmonthDay : 1 ≤ k - (153 * m + 2) / 5 + 1 := by omega
  unfold civil
  simp only [← hera, ← hday, hyearOfEra, hdayOfYear, ← hm]
  obtain ⟨marchYear, hmarchYear⟩ : ∃ y, y = year + era * 400 := ⟨_, rfl⟩
  have hera' : marchYear / 400 = era := by omega
  have hyear' : marchYear % 400 = year := by omega
  have hdayNat : ((k - (153 * m + 2) / 5 + 1).toNat : Int) = k - (153 * m + 2) / 5 + 1 := by omega
  rw [← hmarchYear]
  unfold countDays
  by_cases hlate : m < 10
  · have hmonthNat : ((m + 3).toNat : Int) = m + 3 := by omega
    have hnot : ¬ (m + 3).toNat ≤ 2 := by omega
    have hnot' : ¬ m + 3 ≤ 2 := by omega
    simp only [if_pos hlate, if_neg hnot, if_neg hnot', hmonthNat, hdayNat, Int.add_zero, hera',
      hyear', Int.add_sub_cancel]
    omega
  · have hmonthNat : ((m - 9).toNat : Int) = m - 9 := by omega
    have hle : (m - 9).toNat ≤ 2 := by omega
    have hle' : m - 9 ≤ 2 := by omega
    simp only [if_neg hlate, if_pos hle, if_pos hle', hmonthNat, hdayNat, hera', hyear',
      Int.add_sub_cancel, Int.sub_add_cancel]
    omega

theorem fields_of_of? {year : Int} {month day : Nat} {d : Date} (h : of? year month day = some d) :
    d.year = year ∧ d.month = month ∧ d.day = day := by
  unfold of? at h
  split at h
  · cases h
    exact ⟨rfl, rfl, rfl⟩
  · cases h

theorem ofDayNumber?_eq_some_iff {n : Int} {d : Date} :
    ofDayNumber? n = some d ↔ d.dayNumber = n := by
  constructor
  · intro h
    have hcivil : of? (civil n).1 (civil n).2.1 (civil n).2.2 = some d := h
    obtain ⟨hyear, hmonth, hday⟩ := fields_of_of? hcivil
    rw [dayNumber, hyear, hmonth, hday, countDays_civil]
  · rintro rfl
    exact ofDayNumber?_dayNumber d

/-- The range of dates has fewer days than this in either direction. -/
theorem dayNumber_bounds (d : Date) : -100000000 < d.dayNumber ∧ d.dayNumber < 100000000 := by
  obtain ⟨year, month, day, hmin, hmax, hmonth, hmonth', hday, hday'⟩ := d
  have hlength : daysInMonth year month ≤ 31 := by
    unfold daysInMonth
    split
    · split <;> decide
    all_goals decide
  unfold minYear at hmin
  unfold maxYear at hmax
  unfold dayNumber countDays
  simp only
  split <;> omega

/-! ### Days -/

variable {d d' : Date} {n : Int}

theorem addDays?_eq_some_iff : d.addDays? n = some d' ↔ d'.daysFrom d = n := by
  rw [addDays?, ofDayNumber?_eq_some_iff, daysFrom]
  omega

theorem addDays?_neg (h : d.addDays? n = some d') : d'.addDays? (-n) = some d := by
  rw [addDays?_eq_some_iff, daysFrom] at h ⊢
  omega

/-! ### Months -/

theorem monthNumber_bounds (d : Date) : -4000000 < d.monthNumber ∧ d.monthNumber < 4000000 := by
  obtain ⟨year, month, day, hmin, hmax, hmonth, hmonth', -, -⟩ := d
  unfold minYear at hmin
  unfold maxYear at hmax
  unfold monthNumber
  simp only
  omega

/-- Where a date is moved to by months. -/
theorem fields_of_addMonths? (h : d.addMonths? n = some d') :
    d'.monthNumber = d.monthNumber + n ∧ d'.day = min d.day (daysInMonth d'.year d'.month) := by
  obtain ⟨hyear, hmonth, hday⟩ := fields_of_of? h
  rw [hyear, hmonth]
  refine ⟨?_, hday⟩
  unfold monthNumber at hyear hmonth ⊢
  omega

/-- The day that a date is on exists in the month of another one if the month is long enough. -/
theorem dayExists_iff (d d' : Date) :
    DayExists d'.year d'.month d.day ↔ d.day ≤ daysInMonth d'.year d'.month := by
  obtain ⟨-, -, -, -, hday, -⟩ := d.exists_day
  obtain ⟨hmin, hmax, hmonth, hmonth', -, -⟩ := d'.exists_day
  exact ⟨fun h => h.2.2.2.2.2, fun h => ⟨hmin, hmax, hmonth, hmonth', hday, h⟩⟩

/-- The months to a date that has been moved by months. If its day had to become the last one of the
month, the last month is not over. -/
theorem monthsFrom_of_addMonths? (h : d.addMonths? n = some d') : d'.monthsFrom d
    = if n ≤ 0 ∨ DayExists d'.year d'.month d.day then n else n - 1 := by
  obtain ⟨hmonths, hday⟩ := fields_of_addMonths? h
  have hmoved : d'.monthNumber - d.monthNumber = n := by omega
  unfold monthsFrom
  simp only [dayExists_iff, hmoved]
  split
  · split <;> omega
  · split <;> split <;> omega

end Date

end Databook.Calendar
