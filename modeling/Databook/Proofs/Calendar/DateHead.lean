import Databook.Proofs.Calendar.DateText

/-!
# The first ten bytes of a date text

Dates are read from the first ten bytes of a text. That is the whole text of a date whose year is
written with four digits and no sign, and then whatever follows it is left out
(`Date.readHead?_of_toChars`). The text of any other year is longer, and its end is cut off: of a
negative year with four digits the last digit of the day, of longer years the whole day
(`Date.readHead?_toText`).
-/

namespace Databook.Calendar

open Text

/-! ### Characters of date texts -/

theorem takeBytes?_of_ascii {n : Nat} {cs : List Char} (hascii : ∀ c ∈ cs.take n, c.utf8Size = 1)
    (hlength : n ≤ cs.length) : takeBytes? n cs = some (cs.take n) := by
  induction n generalizing cs with
  | zero => rw [takeBytes?, List.take_zero]
  | succ n ih =>
    cases cs with
    | nil => cases hlength
    | cons c cs =>
      rw [List.take_succ_cons] at hascii ⊢
      have hc : c.utf8Size = 1 := hascii c List.mem_cons_self
      rw [takeBytes?, hc, if_pos (by omega), Nat.add_sub_cancel,
        ih (fun c hc => hascii c (List.mem_cons_of_mem _ hc)) (Nat.le_of_succ_le_succ hlength)]
      rfl

theorem trim_of_forall {s : String} (h : ∀ c ∈ s.toList, isBlank c = false) : trim s = s := by
  have hstart : ∀ cs : List Char, (∀ c ∈ cs, isBlank c = false) → trimStart cs = cs := by
    intro cs hcs
    cases cs with
    | nil => rfl
    | cons c cs =>
      exact List.dropWhile_cons_of_neg (by rw [hcs c List.mem_cons_self]; exact Bool.false_ne_true)
  unfold trim
  rw [hstart _ h, hstart _ fun c hc => h c (List.mem_reverse.1 hc), List.reverse_reverse,
    String.ofList_toList]

/-- Is the character a digit or a sign? -/
def isDatePart (c : Char) : Bool := c.isDigit || c == '-' || c == '+'

theorem isDatePart_of_mem_padded {width n : Nat} {c : Char} (h : c ∈ padded width n) :
    isDatePart c = true := by
  unfold isDatePart
  rw [isDigit_of_mem_padded h]
  rfl

theorem isDatePart_of_mem_yearText {year : Int} {c : Char} (h : c ∈ yearText year) :
    isDatePart c = true := by
  unfold yearText at h
  split at h
  · rcases List.mem_cons.1 h with rfl | h
    · rfl
    · exact isDatePart_of_mem_padded h
  · split at h
    · exact isDatePart_of_mem_padded h
    · rcases List.mem_cons.1 h with rfl | h
      · rfl
      · exact isDatePart_of_mem_padded h

theorem isDatePart_of_mem_toChars {d : Date} {c : Char} (h : c ∈ d.toChars) :
    isDatePart c = true := by
  unfold Date.toChars at h
  simp only [List.mem_append, List.mem_cons] at h
  rcases h with (h | rfl | h) | rfl | h
  · exact isDatePart_of_mem_yearText h
  · rfl
  · exact isDatePart_of_mem_padded h
  · rfl
  · exact isDatePart_of_mem_padded h

theorem utf8Size_of_isDatePart {c : Char} (h : isDatePart c = true) : c.utf8Size = 1 := by
  simp only [isDatePart, Bool.or_eq_true, beq_iff_eq] at h
  rcases h with (h | rfl) | rfl
  · have hrange := toNat_of_isDigit h
    rw [Char.utf8Size_eq_one_iff, UInt32.le_iff_toNat_le]
    exact Nat.le_trans hrange.2 (by decide)
  · rfl
  · rfl

theorem not_isBlank_of_isDatePart {c : Char} (h : isDatePart c = true) : isBlank c = false := by
  simp only [isDatePart, Bool.or_eq_true, beq_iff_eq] at h
  rcases h with (h | rfl) | rfl
  · exact not_isBlank_of_isDigit h
  · decide
  · decide

/-! ### Lengths -/

theorem length_padded_of_le {width n : Nat} (h : width ≤ (Nat.toDigits 10 n).length) :
    (padded width n).length = (Nat.toDigits 10 n).length := by
  unfold padded
  simp only
  rw [List.length_append, List.length_replicate]
  omega

/-- A year of up to four digits is written with four digits, behind a sign if it is negative. -/
theorem length_yearText {year : Int} (h : year.natAbs < 10 ^ 4) :
    (yearText year).length = if year < 0 then 5 else 4 := by
  have hfour : (padded 4 year.natAbs).length = 4 := length_padded (by decide) h
  unfold yearText
  split
  · rw [List.length_cons, hfour]
  · rw [if_pos (by omega), hfour]

/-- A year with more digits has a sign. -/
theorem length_yearText_of_long {year : Int} (hlow : 10 ^ 4 ≤ year.natAbs)
    (hhigh : year.natAbs < 10 ^ 6) : (yearText year).length = 6 ∨ (yearText year).length = 7 := by
  have hmore : ¬ (Nat.toDigits 10 year.natAbs).length ≤ 4 := by
    rw [Nat.length_toDigits_le_iff (by decide) (by decide)]
    omega
  have hsix : (Nat.toDigits 10 year.natAbs).length ≤ 6 :=
    (Nat.length_toDigits_le_iff (by decide) (by decide)).2 hhigh
  have hdigits := length_padded_of_le (n := year.natAbs) (by omega : 4 ≤ _)
  unfold yearText
  split
  · rw [List.length_cons]
    omega
  · rw [if_neg (by omega), List.length_cons]
    omega

/-! ### Reading -/

theorem padded_two : ∀ n < 100, padded 2 n = [Nat.digitChar (n / 10), Nat.digitChar (n % 10)] := by
  decide

theorem readNumber?_firstDigit :
    ∀ n < 32, readNumber? 2 [Nat.digitChar (n / 10)] = some (n / 10, []) := by
  decide

namespace Date

variable {d : Date}

/-- The text of a date is its year and month, a dash and its day. -/
theorem toChars_eq (d : Date) (rest : List Char) : d.toChars ++ rest
    = yearText d.year ++ '-' :: (padded 2 d.month ++ ('-' :: (padded 2 d.day ++ rest))) := by
  simp [toChars]

theorem month_lt (d : Date) : d.month < 100 := by
  obtain ⟨-, -, -, hmonth, -, -⟩ := d.exists_day
  omega

theorem day_lt (d : Date) : d.day < 32 := by
  obtain ⟨-, -, -, -, -, hday⟩ := d.exists_day
  have hlength := daysInMonth_le d.year d.month
  omega

theorem length_toChars (d : Date) : d.toChars.length = (yearText d.year).length + 6 := by
  have hmonth := length_padded (by decide : 0 < 2) d.month_lt
  have hday := length_padded (by decide : 0 < 2) (Nat.lt_trans d.day_lt (by decide : 32 < 100))
  unfold toChars
  simp only [List.length_append, List.length_cons, hmonth, hday]

/-- What is read of a text that starts with ten characters of ASCII. -/
theorem readHead?_of_ascii {s : String} (hascii : ∀ c ∈ s.toList.take 10, c.utf8Size = 1)
    (hlength : 10 ≤ s.toList.length) : readHead? s = read? (String.ofList (s.toList.take 10)) := by
  unfold readHead? takeBytes
  rw [takeBytes?_of_ascii hascii hlength]

/-- Whatever follows a date with a year of four digits, the date is read. -/
theorem readHead?_of_toChars (hyear : 0 ≤ d.year ∧ d.year ≤ 9999) {s : String} {rest : List Char}
    (h : s.toList = d.toChars ++ rest) : readHead? s = some d := by
  have hlength : d.toChars.length = 10 := by
    rw [length_toChars, length_yearText (by omega), if_neg (by omega)]
  have htake : s.toList.take 10 = d.toChars := by rw [h, ← hlength, List.take_left]
  have hread : readYearMonthDay? (fun _ => false) (d.toChars ++ []) = some (d, []) :=
    readYearMonthDay?_toChars rfl d []
  rw [List.append_nil] at hread
  rw [readHead?_of_ascii, htake, read?, String.toList_ofList, hread]
  · intro c hc
    rw [htake] at hc
    exact utf8Size_of_isDatePart (isDatePart_of_mem_toChars hc)
  · rw [h, List.length_append]
    omega

/-- The date that the first ten characters of the text of a date are read as, if they are read. Of a
negative year with four digits the last digit of the day is missing, of a longer year the day. -/
def reread? (d : Date) : Option Date :=
  if d.year < -9999 ∨ 9999 < d.year then none
  else if d.year < 0 then of? d.year d.month (d.day / 10)
  else some d

theorem reread?_of_short (h : 0 ≤ d.year ∧ d.year ≤ 9999) : d.reread? = some d := by
  unfold reread?
  rw [if_neg (by omega), if_neg (by omega)]

/-- Nothing is read if no digit of the day is left, or only a zero. -/
theorem reread?_eq_none (h : 9999 < d.year ∨ d.year < -9999 ∨ d.year < 0 ∧ d.day < 10) :
    d.reread? = none := by
  unfold reread?
  split
  · rfl
  · have hzero : ¬ DayExists d.year d.month (d.day / 10) := by
      rintro ⟨-, -, -, -, hday, -⟩
      omega
    rw [if_pos (by omega), of?, dif_neg hzero]

/-- A first digit of a day that is not zero is a day of the month. -/
theorem reread?_of_negative (h : -9999 ≤ d.year ∧ d.year < 0 ∧ 10 ≤ d.day) :
    ∃ other, d.reread? = some other ∧ other.year = d.year ∧ other.month = d.month ∧
      other.day = d.day / 10 := by
  obtain ⟨hmin, hmax, hmonth, hmonth', -, hday⟩ := d.exists_day
  have hexists : DayExists d.year d.month (d.day / 10) :=
    ⟨hmin, hmax, hmonth, hmonth', by omega, by omega⟩
  refine ⟨⟨d.year, d.month, d.day / 10, hexists⟩, ?_, rfl, rfl, rfl⟩
  unfold reread?
  rw [if_neg (by omega), if_pos (by omega), of?, dif_pos hexists]

/-- Cutting off the text of a date behind the month. -/
theorem take_toChars (d : Date) (k : Nat) : d.toChars.take ((yearText d.year).length + 3 + k)
    = yearText d.year ++ '-' :: (padded 2 d.month ++ ('-' :: padded 2 d.day).take k) := by
  have hmonth := length_padded (by decide : 0 < 2) d.month_lt
  have hsplit : d.toChars = (yearText d.year ++ '-' :: padded 2 d.month) ++ '-' :: padded 2 d.day := rfl
  have hlength : (yearText d.year ++ '-' :: padded 2 d.month).length
      = (yearText d.year).length + 3 := by
    rw [List.length_append, List.length_cons, hmonth]
  rw [hsplit, ← hlength, List.take_length_add_append, List.append_assoc, List.cons_append]

/-- Without a day no date is read. -/
theorem read?_of_month (d : Date) {rest : List Char} (h : rest = [] ∨ rest = ['-']) :
    read? (String.ofList (yearText d.year ++ '-' :: (padded 2 d.month ++ rest))) = none := by
  rw [read?, String.toList_ofList, readYearMonthDay?_yearMonth rfl d.year d.month_lt]
  rcases h with rfl | rfl <;> rfl

/-- The first digit of the day is read as the day. -/
theorem read?_of_firstDigit (d : Date) : read? (String.ofList (yearText d.year ++
      '-' :: (padded 2 d.month ++ ['-', Nat.digitChar (d.day / 10)])))
    = of? d.year d.month (d.day / 10) := by
  rw [read?, String.toList_ofList, readYearMonthDay?_yearMonth rfl d.year d.month_lt]
  have hdash : readChar? '-' (['-', Nat.digitChar (d.day / 10)].dropWhile fun _ => false)
      = some [Nat.digitChar (d.day / 10)] := rfl
  simp only [hdash, Option.bind_eq_bind, Option.bind_some, readNumber?_firstDigit d.day d.day_lt]
  cases of? d.year d.month (d.day / 10) <;> rfl

/-- The first ten characters of the text of a date end within the day, or in front of it. -/
theorem readHead?_toText (d : Date) : readHead? d.toText = d.reread? := by
  obtain ⟨hmin, hmax, -⟩ := d.exists_day
  unfold minYear at hmin
  unfold maxYear at hmax
  have htext : d.toText.toList = d.toChars := String.toList_ofList
  have hlength := d.length_toChars
  have hascii : ∀ c ∈ d.toText.toList.take 10, c.utf8Size = 1 := fun c hc =>
    utf8Size_of_isDatePart (isDatePart_of_mem_toChars (htext ▸ List.mem_of_mem_take hc))
  unfold reread?
  split
  · next hlong =>
    have hyear : (yearText d.year).length = 6 ∨ (yearText d.year).length = 7 :=
      length_yearText_of_long (by omega) (by omega)
    rw [readHead?_of_ascii hascii (by rw [htext]; omega), htext]
    rcases hyear with hyear | hyear
    · have htake := d.take_toChars 1
      rw [hyear] at htake
      rw [htake]
      exact d.read?_of_month (.inr rfl)
    · have htake := d.take_toChars 0
      rw [hyear] at htake
      rw [htake]
      exact d.read?_of_month (.inl rfl)
  · next hshort =>
    have hyear : (yearText d.year).length = if d.year < 0 then 5 else 4 :=
      length_yearText (by omega)
    split
    · next hnegative =>
      rw [if_pos hnegative] at hyear
      have htake := d.take_toChars 2
      rw [hyear, padded_two d.day (by have := d.day_lt; omega)] at htake
      rw [readHead?_of_ascii hascii (by rw [htext]; omega), htext, htake]
      exact d.read?_of_firstDigit
    · exact readHead?_of_toChars (by omega) (htext.trans (List.append_nil _).symm)

end Date

end Databook.Calendar
