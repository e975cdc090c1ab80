import Databook.Decimal.Power
import Databook.Calendar.DateText

/-!
# Date texts are read back

Reading the text of a date gives the date, whatever follows that is not a digit
(`readYearMonthDay?_toChars`).
-/

namespace Databook.Calendar

open Text

/-! ### Numbers -/

/-- Does the text not go on with a digit? -/
def EndsNumber (cs : List Char) : Prop := ∀ c ∈ cs.head?, c.isDigit = false

theorem isDigit_of_mem_padded {width n : Nat} {c : Char} (h : c ∈ padded width n) :
    c.isDigit = true := by
  rcases List.mem_append.1 h with h | h
  · rw [List.eq_of_mem_replicate h]
    rfl
  · exact Nat.isDigit_of_mem_toDigits (by decide) (by decide) h

theorem padded_ne_nil (width n : Nat) : padded width n ≠ [] := by
  intro h
  have hlength : 0 < (Nat.toDigits 10 n).length := Nat.length_toDigits_pos
  rw [(List.append_eq_nil_iff.1 h).2] at hlength
  cases hlength

theorem ofDigitChars_padded (width n : Nat) : Nat.ofDigitChars 10 (padded width n) 0 = n := by
  unfold padded
  simp only
  rw [Nat.ofDigitChars_append, Nat.ofDigitChars_replicate_zero, Nat.mul_zero,
    Nat.ofDigitChars_ten_toDigits]

theorem length_padded {width n : Nat} (hwidth : 0 < width) (h : n < 10 ^ width) :
    (padded width n).length = width := by
  have hlength := (Nat.length_toDigits_le_iff (by decide) hwidth).2 h
  unfold padded
  simp only
  rw [List.length_append, List.length_replicate]
  omega

/-- Digits are read up to a width, or up to what is not a digit. -/
theorem readDigits?_append {width : Nat} {digits rest : List Char}
    (hdigits : ∀ c ∈ digits, c.isDigit = true) (hne : digits ≠ []) (hle : digits.length ≤ width)
    (hend : digits.length = width ∨ EndsNumber rest) :
    readDigits? width (digits ++ rest) = some (Nat.ofDigitChars 10 digits 0, rest) := by
  have htake : ((digits ++ rest).take width).takeWhile Char.isDigit = digits := by
    rw [List.take_append, List.take_of_length_le hle, List.takeWhile_append_of_pos hdigits]
    rcases hend with hend | hend
    · rw [hend, Nat.sub_self, List.take_zero, List.takeWhile_nil, List.append_nil]
    · cases hrest : rest.take (width - digits.length) with
      | nil => rw [List.takeWhile_nil, List.append_nil]
      | cons c cs =>
        have hc : c ∈ rest.head? := by
          cases rest with
          | nil => simp at hrest
          | cons c' rest =>
            cases hwidth : width - digits.length with
            | zero => simp [hwidth] at hrest
            | succ k =>
              rw [hwidth, List.take_succ_cons] at hrest
              cases hrest
              rfl
        rw [List.takeWhile_cons_of_neg (by rw [hend c hc]; exact Bool.false_ne_true), List.append_nil]
  unfold readDigits?
  simp only
  rw [htake, List.isEmpty_eq_false_iff.2 hne, List.drop_left]
  exact congrArg (fun n => some (n, rest)) Nat.ofDigitChars_eq_foldl.symm

theorem readDigits?_padded {width n : Nat} {rest : List Char} (hwidth : 0 < width)
    (h : n < 10 ^ width) : readDigits? width (padded width n ++ rest) = some (n, rest) := by
  have hlength := length_padded hwidth h
  rw [readDigits?_append (fun _ => isDigit_of_mem_padded) (padded_ne_nil width n)
    (Nat.le_of_eq hlength) (.inl hlength), ofDigitChars_padded]

theorem toNat_of_isDigit {c : Char} (h : c.isDigit = true) : 48 ≤ c.toNat ∧ c.toNat ≤ 57 := by
  simp only [Char.isDigit, Bool.and_eq_true, decide_eq_true_eq, UInt32.le_iff_toNat_le] at h
  exact h

/-- A number is below the power of ten that its digits leave room for. -/
theorem ofDigitChars_lt {digits : List Char} (h : ∀ c ∈ digits, c.isDigit = true) (n : Nat) :
    Nat.ofDigitChars 10 digits n < 10 ^ digits.length * (n + 1) := by
  induction digits generalizing n with
  | nil => simp
  | cons c cs ih =>
    obtain ⟨hc, hcs⟩ := List.forall_mem_cons.1 h
    have hdigit := toNat_of_isDigit hc
    have hzero : '0'.toNat = 48 := rfl
    rw [Nat.ofDigitChars_cons]
    calc
      _ < 10 ^ cs.length * (10 * n + (c.toNat - '0'.toNat) + 1) := ih hcs _
      _ ≤ 10 ^ cs.length * (10 * (n + 1)) := Nat.mul_le_mul_left _ (by omega)
      _ = 10 ^ (c :: cs).length * (n + 1) := by rw [List.length_cons, Nat.pow_succ, Nat.mul_assoc]

theorem not_isBlank_of_isDigit {c : Char} (h : c.isDigit = true) : isBlank c = false := by
  have hrange := toNat_of_isDigit h
  have hspace : (c == ' ') = false := by
    rw [beq_eq_false_iff_ne]
    rintro rfl
    exact absurd hrange.1 (by decide)
  unfold isBlank
  rw [if_pos (by omega), hspace]
  simp
  omega

/-- There are no blanks in front of digits. -/
theorem trimStart_of_isDigit {c : Char} {cs : List Char} (h : c.isDigit = true) :
    trimStart (c :: cs) = c :: cs :=
  List.dropWhile_cons_of_neg (by rw [not_isBlank_of_isDigit h]; exact Bool.false_ne_true)

theorem trimStart_padded (width n : Nat) (rest : List Char) :
    trimStart (padded width n ++ rest) = padded width n ++ rest := by
  cases hpadded : padded width n with
  | nil => exact absurd hpadded (padded_ne_nil width n)
  | cons c cs =>
    have hc : c ∈ padded width n := hpadded ▸ List.mem_cons_self
    exact trimStart_of_isDigit (isDigit_of_mem_padded hc)

theorem readNumber?_padded {width n : Nat} {rest : List Char} (hwidth : 0 < width)
    (h : n < 10 ^ width) : readNumber? width (padded width n ++ rest) = some (n, rest) := by
  rw [readNumber?, trimStart_padded, readDigits?_padded hwidth h]

/-! ### Dates -/

/-- A year with a sign is read up to what is not a digit. -/
theorem readDigits?_signed (n : Nat) {rest : List Char} (hrest : EndsNumber rest) :
    readDigits? (padded 4 n ++ rest).length (padded 4 n ++ rest) = some (n, rest) := by
  rw [readDigits?_append (fun _ => isDigit_of_mem_padded) (padded_ne_nil 4 n) (by simp) (.inr hrest),
    ofDigitChars_padded]

theorem readYear?_yearText (year : Int) {rest : List Char} (hrest : EndsNumber rest) :
    readYear? (yearText year ++ rest) = some (year, rest) := by
  unfold yearText
  split
  · have htrim : trimStart ('-' :: padded 4 year.natAbs ++ rest)
        = '-' :: (padded 4 year.natAbs ++ rest) := rfl
    unfold readYear?
    rw [htrim]
    simp only [readDigits?_signed _ hrest, Option.map_some]
    have hyear : -(year.natAbs : Int) = year := by omega
    rw [hyear]
  · split
    · have hdigits : readDigits? 4 (padded 4 year.natAbs ++ rest) = some (year.natAbs, rest) :=
        readDigits?_padded (by decide) (by omega)
      have hyear : (year.natAbs : Int) = year := by omega
      have hhead : ∀ c ∈ (padded 4 year.natAbs ++ rest).head?, c.isDigit = true := by
        intro c hc
        cases hpadded : padded 4 year.natAbs with
        | nil => exact absurd hpadded (padded_ne_nil 4 year.natAbs)
        | cons c' cs =>
          rw [hpadded] at hc
          cases hc
          exact isDigit_of_mem_padded (hpadded ▸ List.mem_cons_self)
      unfold readYear?
      rw [trimStart_padded]
      split
      · next heq => exact absurd (hhead '-' (by rw [heq]; rfl)) (by decide)
      · next heq => exact absurd (hhead '+' (by rw [heq]; rfl)) (by decide)
      · simp only [hdigits, Option.map_some, hyear]
    · have htrim : trimStart ('+' :: padded 4 year.natAbs ++ rest)
          = '+' :: (padded 4 year.natAbs ++ rest) := rfl
      unfold readYear?
      rw [htrim]
      simp only [readDigits?_signed _ hrest, Option.map_some]
      have hyear : (year.natAbs : Int) = year := by omega
      rw [hyear]

theorem daysInMonth_le (year : Int) (month : Nat) : daysInMonth year month ≤ 31 := by
  unfold daysInMonth
  split
  · split <;> decide
  all_goals decide

theorem readChar?_dash {gap : Char → Bool} (hgap : gap '-' = false) (cs : List Char) :
    readChar? '-' (('-' :: cs).dropWhile gap) = some cs := by
  rw [List.dropWhile_cons_of_neg (by rw [hgap]; exact Bool.false_ne_true)]
  rfl

/-- Behind a year and a month there is another dash and the day. -/
theorem readYearMonthDay?_yearMonth {gap : Char → Bool} (hgap : gap '-' = false) (year : Int)
    {month : Nat} (hmonth : month < 100) (rest : List Char) :
    readYearMonthDay? gap (yearText year ++ '-' :: (padded 2 month ++ rest)) = (do
      let cs ← readChar? '-' (rest.dropWhile gap)
      let (day, cs) ← readNumber? 2 cs
      let date ← Date.of? year month day
      return (date, cs)) := by
  have hends : ∀ cs : List Char, EndsNumber ('-' :: cs) := by
    intro cs c hc
    cases hc
    rfl
  unfold readYearMonthDay?
  rw [readYear?_yearText year (hends _)]
  simp only [Option.bind_eq_bind, Option.bind_some, readChar?_dash hgap]
  rw [readNumber?_padded (by decide) hmonth]
  simp only [Option.bind_some]

/-- The text of a date is read as the date. -/
theorem readYearMonthDay?_toChars {gap : Char → Bool} (hgap : gap '-' = false) (d : Date)
    (rest : List Char) : readYearMonthDay? gap (d.toChars ++ rest) = some (d, rest) := by
  obtain ⟨year, month, day, hexists⟩ := d
  obtain ⟨-, -, -, hmonth, -, hday⟩ := id hexists
  have hlength := daysInMonth_le year month
  have hchars : Date.toChars ⟨year, month, day, hexists⟩ ++ rest
      = yearText year ++ '-' :: (padded 2 month ++ ('-' :: (padded 2 day ++ rest))) := by
    simp [Date.toChars]
  have hdate : Date.of? year month day = some ⟨year, month, day, hexists⟩ := dif_pos hexists
  rw [hchars, readYearMonthDay?_yearMonth hgap year (by omega)]
  simp only [Option.bind_eq_bind, Option.bind_some, readChar?_dash hgap]
  rw [readNumber?_padded (by decide) (by omega)]
  simp only [Option.bind_some, hdate]
  rfl

end Databook.Calendar
