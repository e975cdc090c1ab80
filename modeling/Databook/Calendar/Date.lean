/-!
# Calendar dates

Dates of the proleptic Gregorian calendar, from 1 January of the year -262143 to 31 December of the
year 262142. A `Date` holds a day that exists, so the only way to fail is to leave that range.

`Date.dayNumber` counts the days from 1 January 1970 and `Date.ofDayNumber?` goes back. Both count
in eras of 400 years, which are all equally long, and in years that start on 1 March, so that a leap
day is the last one of its year.

`addDays?` and `addMonths?` move a date, `daysFrom` and `monthsFrom` measure the way between two.
-/

namespace Databook.Calendar

/-- A year is a leap year if it can be divided by 4, but not by 100 unless also by 400. -/
def isLeapYear (year : Int) : Bool :=
  year % 4 == 0 && (year % 100 != 0 || year % 400 == 0)

/-- The number of days in a month, counted from 1. -/
def daysInMonth (year : Int) (month : Nat) : Nat :=
  match month with
  | 2 => if isLeapYear year then 29 else 28
  | 4 | 6 | 9 | 11 => 30
  | _ => 31

/-- The years that dates may have. -/
def minYear : Int := -262143
def maxYear : Int := 262142

/-- Is there such a day? -/
def DayExists (year : Int) (month day : Nat) : Prop :=
  minYear ≤ year ∧ year ≤ maxYear ∧ 1 ≤ month ∧ month ≤ 12 ∧ 1 ≤ day ∧ day ≤ daysInMonth year month

instance (year : Int) (month day : Nat) : Decidable (DayExists year month day) :=
  inferInstanceAs (Decidable (_ ∧ _))

/-- A day of the calendar. -/
structure Date where
  year : Int
  month : Nat
  day : Nat
  exists_day : DayExists year month day
deriving DecidableEq

namespace Date

/-- The date of a year, month and day, if there is one. -/
def of? (year : Int) (month day : Nat) : Option Date :=
  if h : DayExists year month day then some ⟨year, month, day, h⟩ else none

/-- 1 January 1970. -/
def epoch : Date := ⟨1970, 1, 1, by decide⟩

instance : Inhabited Date := ⟨epoch⟩

/-! ### Day numbers -/

/-- Days from 1 January 1970 to the given day of a year and month. -/
def countDays (year : Int) (month day : Nat) : Int :=
  let marchYear := if month ≤ 2 then year - 1 else year
  let marchMonth : Int := if month ≤ 2 then month + 9 else month - 3
  let era := marchYear / 400
  let yearOfEra := marchYear % 400
  let dayOfYear := (153 * marchMonth + 2) / 5 + day - 1
  era * 146097 + yearOfEra * 365 + yearOfEra / 4 - yearOfEra / 100 + dayOfYear - 719468

/-- Days from 1 January 1970. -/
def dayNumber (d : Date) : Int := countDays d.year d.month d.day

/-- The year, month and day that are `n` days after 1 January 1970. -/
def civil (n : Int) : Int × Nat × Nat :=
  let shifted := n + 719468
  let era := shifted / 146097
  let dayOfEra := shifted % 146097
  let yearOfEra := (dayOfEra - dayOfEra / 1460 + dayOfEra / 36524 - dayOfEra / 146096) / 365
  let dayOfYear := dayOfEra - (365 * yearOfEra + yearOfEra / 4 - yearOfEra / 100)
  let marchMonth := (5 * dayOfYear + 2) / 153
  let day := dayOfYear - (153 * marchMonth + 2) / 5 + 1
  let month := if marchMonth < 10 then marchMonth + 3 else marchMonth - 9
  let year := yearOfEra + era * 400 + (if month ≤ 2 then 1 else 0)
  (year, month.toNat, day.toNat)

/-- The date with a day number, if it is in the range of dates. -/
def ofDayNumber? (n : Int) : Option Date :=
  let (year, month, day) := civil n
  of? year month day

/-! ### Moving and measuring -/

/-- The date `n` days later. -/
def addDays? (d : Date) (n : Int) : Option Date := ofDayNumber? (d.dayNumber + n)

/-- The months from the start of the year 0. -/
def monthNumber (d : Date) : Int := d.year * 12 + d.month - 1

/-- The date `n` months later. A day that the month does not have becomes its last one. -/
def addMonths? (d : Date) (n : Int) : Option Date :=
  let months := d.monthNumber + n
  let year := months / 12
  let month := (months % 12).toNat + 1
  of? year month (min d.day (daysInMonth year month))

/-- The days from `b` to `a`. -/
def daysFrom (a b : Date) : Int := a.dayNumber - b.dayNumber

/-- The whole months from `b` to `a`. A month that is not over does not count, in either
direction. -/
def monthsFrom (a b : Date) : Int :=
  let months := a.monthNumber - b.monthNumber
  if months > 0 ∧ a.day < b.day then months - 1
  else if months < 0 ∧ a.day > b.day then months + 1
  else months

end Date

end Databook.Calendar
