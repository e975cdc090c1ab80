import Databook.Formula.Function
import Databook.Proofs.Calendar.DateHead

/-!
# Dates that formulas write and read

The texts that `now` and `dateAdd` return are texts of dates (`Function.Writes`), and formulas read
dates from the first ten bytes of a text. The two fit together for the years 0 to 9999. Beyond them
a text is longer, and what is read of it is no date or, for negative years with four digits, an
earlier day of the month (`readDate_of_apply`).
-/

namespace Databook.Formula

open Calendar Decimal

/-- Does a function return the text of a date for some arguments? -/
inductive Function.Writes (today : Date) : Function → List Cell → Date → Prop where
  /-- The date of the day. -/
  | now : Writes today .now [] today
  /-- The date that is some units later than the one that is read from the first argument. -/
  | dateAdd {start d : Date} {n : Int} {unit : DateUnit} {a b u : Cell}
      (hstart : readDate a.display = .ok start) (hamount : truncate? b.toNumber = some n)
      (hunit : DateUnit.named? u.display = some unit) (hshift : shiftDate? start n unit = some d) :
      Writes today .dateAdd [a, b, u] d

theorem dateAdd_eq_ok {start d : Date} {amount : Float} {name : String}
    (h : dateAdd start amount name = .ok d) :
    ∃ n unit, truncate? amount = some n ∧ DateUnit.named? name = some unit ∧
      shiftDate? start n unit = some d := by
  unfold dateAdd at h
  cases hamount : truncate? amount with
  | none =>
    rw [hamount] at h
    cases h
  | some n =>
    cases hunit : DateUnit.named? name with
    | none =>
      simp only [hamount, DateUnit.read, hunit] at h
      cases h
    | some unit =>
      cases hshift : shiftDate? start n unit with
      | none =>
        simp only [hamount, DateUnit.read, hunit, bind, Except.bind, hshift] at h
        cases h
      | some later =>
        simp only [hamount, DateUnit.read, hunit, bind, Except.bind, hshift] at h
        cases h
        exact ⟨n, unit, rfl, rfl, hshift⟩

/-- The functions of dates return texts of dates. -/
theorem Function.writes_of_apply {today : Date} {name : String} {f : Function} {args : List Cell}
    {c : Cell} (hf : f = .now ∨ f = .dateAdd) (h : f.apply today name args = .ok c) :
    ∃ d : Date, f.Writes today args d ∧ c = .text d.toText := by
  rcases hf with rfl | rfl
  · match args with
    | [] =>
      cases h
      exact ⟨today, .now, rfl⟩
    | _ :: _ => cases h
  · match args with
    | [a, b, u] =>
      have happly : Function.dateAdd.apply today name [a, b, u] = (do
        let date ← readDate a.display
        return .text (← Formula.dateAdd date b.toNumber u.display).toText) := rfl
      rw [happly] at h
      cases hstart : readDate a.display with
      | error e =>
        rw [hstart] at h
        cases h
      | ok start =>
        cases hshift : Formula.dateAdd start b.toNumber u.display with
        | error e =>
          simp only [hstart, bind, Except.bind, hshift] at h
          cases h
        | ok d =>
          simp only [hstart, bind, Except.bind, hshift] at h
          cases h
          obtain ⟨n, unit, hamount, hunit, hshift⟩ := dateAdd_eq_ok hshift
          exact ⟨d, .dateAdd hstart hamount hunit hshift, rfl⟩
    | [] | [_] | [_, _] | _ :: _ :: _ :: _ :: _ => cases h

/-- Formulas read the text of a date as far as its first ten characters go. -/
theorem readDate_toText (d : Date) :
    readDate d.toText = d.reread?.elim (.error (.invalidDate d.toText)) .ok := by
  have htrim : Text.trim d.toText = d.toText := trim_of_forall fun c hc => by
    rw [Date.toText, String.toList_ofList] at hc
    exact not_isBlank_of_isDatePart (isDatePart_of_mem_toChars hc)
  unfold readDate
  rw [htrim, Date.readHead?_toText]
  cases d.reread? <;> rfl

/-- **Formulas read the dates of four digits that they write.** What `now` and `dateAdd` return is the
text of a date. If its year is from 0 to 9999, it is read as the same date. A year beyond 9999 in either
direction leaves no room for the day, and the text is refused as invalid. Of a negative year with four
digits the last digit of the day is left out: the text is refused if the first one is zero, and else
read as the day of that one digit. -/
theorem readDate_of_apply {today : Date} {name : String} {f : Function} {args : List Cell} {c : Cell}
    (hf : f = .now ∨ f = .dateAdd) (h : f.apply today name args = .ok c) :
    ∃ d : Date, f.Writes today args d ∧ c = .text d.toText ∧
      (0 ≤ d.year ∧ d.year ≤ 9999 → readDate c.display = .ok d) ∧
      (9999 < d.year ∨ d.year < -9999 ∨ d.year < 0 ∧ d.day < 10 →
        readDate c.display = .error (.invalidDate c.display)) ∧
      (-9999 ≤ d.year ∧ d.year < 0 ∧ 10 ≤ d.day → ∃ other : Date,
        readDate c.display = .ok other ∧ other.year = d.year ∧ other.month = d.month ∧
          other.day = d.day / 10) := by
  obtain ⟨d, hwrites, rfl⟩ := Function.writes_of_apply hf h
  have hread : readDate (Cell.text d.toText).display = _ := readDate_toText d
  refine ⟨d, hwrites, rfl, fun hyear => ?_, fun hyear => ?_, fun hyear => ?_⟩
  · rw [hread, Date.reread?_of_short hyear, Option.elim_some]
  · rw [hread, Date.reread?_eq_none hyear]
    rfl
  · obtain ⟨other, hother, hfields⟩ := Date.reread?_of_negative hyear
    refine ⟨other, ?_, hfields⟩
    rw [hread, hother, Option.elim_some]

/-- A day before the year 0 is 31 December of the year -1, and formulas read its text as 3 December. -/
theorem readDate_of_apply_lastDay :
    Function.dateAdd.apply default "dateAdd" [.text "0000-01-01", .number (-1), .text "day"]
      = .ok (.text "-0001-12-31") ∧
    ∃ other : Date, readDate "-0001-12-31" = .ok other ∧ other.year = -1 ∧ other.month = 12 ∧
      other.day = 3 := by
  have hread : readDate "0000-01-01" = .ok ⟨0, 1, 1, by decide⟩ := by
    have hstart := readDate_toText ⟨0, 1, 1, by decide⟩
    rwa [Date.reread?_of_short (by decide)] at hstart
  have hshift : dateAdd ⟨0, 1, 1, by decide⟩ (-1) "day" = .ok ⟨-1, 12, 31, by decide⟩ := rfl
  have happly : Function.dateAdd.apply default "dateAdd"
      [.text "0000-01-01", .number (-1), .text "day"] = .ok (.text "-0001-12-31") := by
    show (do return Cell.text (← dateAdd (← readDate "0000-01-01") (-1) "day").toText) = _
    rw [hread]
    show (do return Cell.text (← dateAdd ⟨0, 1, 1, by decide⟩ (-1) "day").toText) = _
    rw [hshift]
    rfl
  refine ⟨happly, ?_⟩
  obtain ⟨d, hwrites, -, -, -, hother⟩ := readDate_of_apply (.inr rfl) happly
  cases hwrites with
  | dateAdd hstart hamount hunit hmoved =>
    cases hread.symm.trans hstart
    cases hamount
    cases hunit
    have hlast : shiftDate? ⟨0, 1, 1, by decide⟩ (-1) .day = some ⟨-1, 12, 31, by decide⟩ := by decide
    cases hlast.symm.trans hmoved
    exact hother (by decide)

end Databook.Formula
