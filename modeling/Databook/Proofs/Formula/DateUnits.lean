import Databook.Formula.Function
import Databook.Proofs.Calendar.Order

/-!
# Moving and measuring dates in units

Measuring the way to a date that has been moved by some units gives the number of the units, and for
days and weeks moving it back by as many gives the date again. With months and years there is one
exception: a day that had to become the last one of a shorter month leaves the last month, and with it
the last year, unfinished (`measureDates_of_shiftDate?`).

Measuring also respects the order of dates: a later date is no fewer units away, and turning two dates
around turns the sign around (`measureDates_ordered`).

Amounts may be of any size here. Amounts of 64 bits, cut down where they do not fit, move no date to
any other place (`shiftSaturating?_eq`), since what does not fit leads out of the range of dates.
-/

namespace Databook.Formula

open Calendar

/-! ### Amounts of 64 bits -/

/-- The integer of 64 bits that is next to an integer. -/
def saturate (n : Int) : Int := max (-2 ^ 63) (min n (2 ^ 63 - 1))

/-- The date that is some units later, with amounts of 64 bits. -/
def shiftSaturating? (d : Date) (n : Int) : DateUnit → Option Date
  | .day => d.addDays? (saturate n)
  | .week => d.addDays? (saturate (7 * saturate n))
  | .month => d.addMonths? (saturate n)
  | .year => d.addMonths? (saturate (12 * saturate n))

variable {d d' : Date} {n : Int}

theorem saturate_eq_self (hlow : -2 ^ 63 ≤ n) (hhigh : n < 2 ^ 63) : saturate n = n := by
  unfold saturate
  omega

/-- Cutting down an amount leaves it far off if it is far off. -/
theorem saturate_bounds {m : Int} (h : -400000000 < saturate m ∧ saturate m < 400000000) :
    saturate m = m := by
  unfold saturate at h ⊢
  omega

theorem addDays?_bounds (h : d.addDays? n = some d') : -400000000 < n ∧ n < 400000000 := by
  rw [Date.addDays?_eq_some_iff, Date.daysFrom] at h
  have hd := d.dayNumber_bounds
  have hd' := d'.dayNumber_bounds
  omega

theorem addMonths?_bounds (h : d.addMonths? n = some d') : -400000000 < n ∧ n < 400000000 := by
  obtain ⟨hmonths, -⟩ := Date.fields_of_addMonths? h
  have hd := d.monthNumber_bounds
  have hd' := d'.monthNumber_bounds
  omega

/-- A move that only succeeds for small amounts succeeds alike for amounts that are cut down. -/
theorem move_saturate {f : Int → Option Date}
    (hbounds : ∀ {n d'}, f n = some d' → -400000000 < n ∧ n < 400000000) (n : Int) :
    f (saturate n) = f n := by
  ext d'
  constructor
  · intro h
    rwa [saturate_bounds (hbounds h)] at h
  · intro h
    have hn := hbounds h
    rwa [saturate_eq_self (by omega) (by omega)]

theorem shiftSaturating?_eq (d : Date) (n : Int) (unit : DateUnit) :
    shiftSaturating? d n unit = shiftDate? d n unit := by
  cases unit with
  | day => exact move_saturate addDays?_bounds n
  | week =>
    refine (move_saturate addDays?_bounds _).trans ?_
    refine move_saturate (f := fun n => d.addDays? (7 * n)) (fun h => ?_) n
    have hn := addDays?_bounds h
    omega
  | month => exact move_saturate addMonths?_bounds n
  | year =>
    refine (move_saturate addMonths?_bounds _).trans ?_
    refine move_saturate (f := fun n => d.addMonths? (12 * n)) (fun h => ?_) n
    have hn := addMonths?_bounds h
    omega

/-! ### Measuring the way that a date has been moved -/

/-- Only months that are over count, in years as well. -/
theorem tdiv_monthsFrom (h : d.addMonths? (12 * n) = some d') : (d'.monthsFrom d).tdiv 12
    = if n ≤ 0 ∨ DayExists d'.year d'.month d.day then n else n - 1 := by
  have hsign : 12 * n ≤ 0 ↔ n ≤ 0 := by omega
  rw [Date.monthsFrom_of_addMonths? h]
  simp only [hsign]
  split
  · exact Int.mul_tdiv_cancel_left n (by decide)
  · next hclamped =>
    rw [not_or] at hclamped
    rw [Int.tdiv_eq_ediv_of_nonneg (by omega)]
    omega

/-- A date that has been moved by some units is that many units away. If these are months or years,
its day is the same but for one that the month does not have, which becomes the last one; after a move
forward one unit less is over then. -/
theorem measureDates_of_shiftDate? {d d' : Date} {n : Int} {unit : DateUnit}
    (h : shiftDate? d n unit = some d') :
    shiftSaturating? d n unit = some d' ∧
    match unit with
    | .day | .week => measureDates d' d unit = n ∧ shiftDate? d' (-n) unit = some d
    | .month =>
      d'.monthNumber = d.monthNumber + n ∧ d'.day = min d.day (daysInMonth d'.year d'.month) ∧
        measureDates d' d .month
          = if n ≤ 0 ∨ DayExists d'.year d'.month d.day then n else n - 1
    | .year =>
      d'.monthNumber = d.monthNumber + 12 * n ∧
        d'.day = min d.day (daysInMonth d'.year d'.month) ∧
        measureDates d' d .year
          = if n ≤ 0 ∨ DayExists d'.year d'.month d.day then n else n - 1 := by
  refine ⟨(shiftSaturating?_eq d n unit).trans h, ?_⟩
  cases unit with
  | day => exact ⟨Date.addDays?_eq_some_iff.1 h, Date.addDays?_neg h⟩
  | week =>
    have hback := Date.addDays?_neg h
    rw [← Int.mul_neg] at hback
    refine ⟨?_, hback⟩
    rw [measureDates, Date.addDays?_eq_some_iff.1 h, Int.mul_tdiv_cancel_left n (by decide)]
  | month =>
    obtain ⟨hmonths, hday⟩ := Date.fields_of_addMonths? h
    exact ⟨hmonths, hday, Date.monthsFrom_of_addMonths? h⟩
  | year =>
    obtain ⟨hmonths, hday⟩ := Date.fields_of_addMonths? h
    exact ⟨hmonths, hday, tdiv_monthsFrom h⟩

/-- A year after a leap day, and back from its month to the one before, and three weeks. -/
theorem measureDates_of_shiftDate?_leapDay :
    ∃ leapDay yearLater weeksEarlier : Date,
      Date.of? 2024 2 29 = some leapDay ∧
      shiftDate? leapDay 1 .year = some yearLater ∧ yearLater.toText = "2025-02-28" ∧
      measureDates yearLater leapDay .year = 0 ∧
      shiftDate? leapDay (-3) .week = some weeksEarlier ∧ weeksEarlier.toText = "2024-02-08" ∧
      measureDates weeksEarlier leapDay .week = -3 ∧
      shiftDate? weeksEarlier 3 .week = some leapDay := by
  have hyear : shiftDate? ⟨2024, 2, 29, by decide⟩ 1 .year = some ⟨2025, 2, 28, by decide⟩ := by
    decide
  have hweeks : shiftDate? ⟨2024, 2, 29, by decide⟩ (-3) .week = some ⟨2024, 2, 8, by decide⟩ := by
    decide
  obtain ⟨-, -, -, hmeasured⟩ := measureDates_of_shiftDate? hyear
  obtain ⟨-, hmeasured', hback⟩ := measureDates_of_shiftDate? hweeks
  exact ⟨_, _, _, by decide, hyear, by decide, hmeasured, hweeks, by decide, hmeasured', hback⟩

/-! ### Measuring and the order of dates -/

theorem measureDates_swap (a b : Date) (unit : DateUnit) :
    measureDates a b unit = -measureDates b a unit := by
  cases unit with
  | day => exact a.daysFrom_swap b
  | week =>
    show (a.daysFrom b).tdiv 7 = -(b.daysFrom a).tdiv 7
    rw [a.daysFrom_swap b, Int.neg_tdiv]
  | month => exact a.monthsFrom_swap b
  | year =>
    show (a.monthsFrom b).tdiv 12 = -(b.monthsFrom a).tdiv 12
    rw [a.monthsFrom_swap b, Int.neg_tdiv]

theorem measureDates_mono {a a' : Date} (h : a ≤ a') (b : Date) (unit : DateUnit) :
    measureDates a b unit ≤ measureDates a' b unit := by
  cases unit with
  | day => exact Date.daysFrom_mono h b
  | week => exact Int.tdiv_le_tdiv (by decide) (Date.daysFrom_mono h b)
  | month => exact Date.monthsFrom_mono h b
  | year => exact Int.tdiv_le_tdiv (by decide) (Date.monthsFrom_mono h b)

/-- **Measuring respects the order of dates.** In each unit the way from `b` to `a` is the way from `a`
to `b` with the other sign, so that a date is no units away from itself, and a date that is not
earlier is no fewer units away. -/
theorem measureDates_ordered (a a' b : Date) (unit : DateUnit) :
    measureDates a b unit = -measureDates b a unit ∧ measureDates a a unit = 0 ∧
      (a ≤ a' → measureDates a b unit ≤ measureDates a' b unit) := by
  have hself := measureDates_swap a a unit
  exact ⟨measureDates_swap a b unit, by omega, fun h => measureDates_mono h b unit⟩

/-- A month back from 28 March ends on 28 February, and the leap day is within it. -/
theorem measureDates_ordered_leapDay :
    ∃ before leapDay later : Date, Date.of? 2024 2 28 = some before ∧
      Date.of? 2024 2 29 = some leapDay ∧ Date.of? 2024 3 28 = some later ∧ before ≤ leapDay ∧
      measureDates before later .month = -1 ∧ measureDates later before .month = 1 ∧
      measureDates leapDay later .month = 0 ∧
      measureDates before later .month ≤ measureDates leapDay later .month := by
  obtain ⟨hswap, -, hmono⟩ := measureDates_ordered ⟨2024, 2, 28, by decide⟩ ⟨2024, 2, 29, by decide⟩
    ⟨2024, 3, 28, by decide⟩ .month
  refine ⟨_, _, _, by decide, by decide, by decide, by decide, by decide, ?_, by decide,
    hmono (by decide)⟩
  rw [← Int.neg_inj, ← hswap]
  decide

end Databook.Formula
