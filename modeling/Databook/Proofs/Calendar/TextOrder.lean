import Databook.Proofs.Calendar.DateHead
import Databook.Proofs.Calendar.Order

/-!
# The order of date texts

Texts are compared character by character. For the texts of dates with years of four digits this is
the order of the dates, whatever follows them (`Date.toChars_append_lt`): the numbers in them take up as
many characters as each other, so that they are compared digit by digit from the highest one, and the
year stands in front of the month and the month in front of the day.
-/

namespace Databook.Calendar

/-- The first difference of two texts decides, before either of them ends. -/
theorem append_lt_append {u v : List Char} (h : u < v) (hlength : u.length = v.length)
    (x y : List Char) : u ++ x < v ++ y := by
  induction u generalizing v with
  | nil =>
    obtain rfl := List.length_eq_zero_iff.1 hlength.symm
    cases h
  | cons c u ih =>
    cases v with
    | nil => cases hlength
    | cons c' v =>
      rw [List.cons_append, List.cons_append, List.cons_lt_cons_iff]
      rcases List.cons_lt_cons_iff.1 h with hc | ⟨rfl, hrest⟩
      · exact .inl hc
      · exact .inr ⟨rfl, ih hrest (Nat.succ_inj.1 hlength)⟩

/-- Numbers of as many digits are compared by their texts. -/
theorem lt_of_ofDigitChars_lt {ds ds' : List Char} (hds : ∀ c ∈ ds, c.isDigit = true)
    (hds' : ∀ c ∈ ds', c.isDigit = true) (hlength : ds.length = ds'.length) {n : Nat}
    (h : Nat.ofDigitChars 10 ds n < Nat.ofDigitChars 10 ds' n) : ds < ds' := by
  induction ds generalizing ds' n with
  | nil =>
    obtain rfl := List.length_eq_zero_iff.1 hlength.symm
    exact absurd h (Nat.lt_irrefl _)
  | cons c ds ih =>
    cases ds' with
    | nil => cases hlength
    | cons c' ds' =>
      obtain ⟨-, htail⟩ := List.forall_mem_cons.1 hds
      obtain ⟨hc', htail'⟩ := List.forall_mem_cons.1 hds'
      have hrest : ds.length = ds'.length := Nat.succ_inj.1 hlength
      rw [Nat.ofDigitChars_cons, Nat.ofDigitChars_cons] at h
      rw [List.cons_lt_cons_iff]
      rcases Nat.lt_trichotomy c.toNat c'.toNat with hlt | heq | hgt
      · left
        rw [Char.lt_def, UInt32.lt_iff_toNat_lt]
        exact hlt
      · right
        obtain rfl := Char.toNat_inj.1 heq
        exact ⟨rfl, ih htail htail' hrest h⟩
      · -- the first digit counts for more than all that follow the smaller one
        exfalso
        have hdigit := toNat_of_isDigit hc'
        have hzero : '0'.toNat = 48 := rfl
        have hbelow := ofDigitChars_lt htail' (10 * n + (c'.toNat - '0'.toNat))
        have hstep : 10 ^ ds.length * (10 * n + (c'.toNat - '0'.toNat) + 1)
            ≤ 10 ^ ds.length * (10 * n + (c.toNat - '0'.toNat)) := Nat.mul_le_mul_left _ (by omega)
        rw [Nat.ofDigitChars_eq_ofDigitChars_zero (l := ds)] at h
        rw [← hrest] at hbelow
        omega

theorem padded_lt {width m n : Nat} (hwidth : 0 < width) (hn : n < 10 ^ width) (h : m < n) :
    padded width m < padded width n := by
  have hlength := length_padded hwidth (Nat.lt_trans h hn)
  refine lt_of_ofDigitChars_lt (fun _ => isDigit_of_mem_padded) (fun _ => isDigit_of_mem_padded)
    (hlength.trans (length_padded hwidth hn).symm) (n := 0) ?_
  rwa [ofDigitChars_padded, ofDigitChars_padded]

namespace Date

variable {a b : Date}

theorem yearText_of_short (h : 0 ≤ a.year ∧ a.year ≤ 9999) :
    yearText a.year = padded 4 a.year.natAbs := by
  unfold yearText
  rw [if_neg (by omega), if_pos h.2]

/-- Of two dates with years of four digits the text of the earlier one comes first, whatever follows
them. -/
theorem toChars_append_lt (ha : 0 ≤ a.year ∧ a.year ≤ 9999) (hb : 0 ≤ b.year ∧ b.year ≤ 9999)
    (h : ¬ a ≤ b) (x y : List Char) : b.toChars ++ x < a.toChars ++ y := by
  have hyears : (padded 4 b.year.natAbs).length = (padded 4 a.year.natAbs).length := by
    rw [length_padded (by decide) (by omega), length_padded (by decide) (by omega)]
  have hmonths : (padded 2 b.month).length = (padded 2 a.month).length := by
    rw [length_padded (by decide) b.month_lt, length_padded (by decide) a.month_lt]
  have haday : a.day < 10 ^ 2 := Nat.lt_trans a.day_lt (by decide)
  have hdays : (padded 2 b.day).length = (padded 2 a.day).length := by
    rw [length_padded (by decide) (Nat.lt_trans b.day_lt (by decide)),
      length_padded (by decide) haday]
  have hdash {u v : List Char} (huv : u < v) : '-' :: u < '-' :: v :=
    List.cons_lt_cons_iff.2 (.inr ⟨rfl, huv⟩)
  rw [toChars_eq, toChars_eq, yearText_of_short ha, yearText_of_short hb]
  rcases not_le_iff.1 h with hyear | ⟨hyear, hmonth | ⟨hmonth, hday⟩⟩
  · exact append_lt_append (padded_lt (by decide) (by omega) (by omega)) hyears _ _
  · rw [hyear]
    apply List.append_left_lt
    apply hdash
    exact append_lt_append (padded_lt (by decide) a.month_lt hmonth) hmonths _ _
  · rw [hyear, hmonth]
    apply List.append_left_lt
    apply hdash
    apply List.append_left_lt
    apply hdash
    exact append_lt_append (padded_lt (by decide) haday hday) hdays _ _

/-! ### Texts that start with a date -/

/-- Does the text start with the date, written with a year of four digits? Anything may follow. -/
def Opens (d : Date) (t : String) : Prop :=
  (0 ≤ d.year ∧ d.year ≤ 9999) ∧ ∃ rest, t.toList = d.toChars ++ rest

theorem Opens.readHead? {d : Date} {t : String} (h : d.Opens t) : readHead? t = some d := by
  obtain ⟨hyear, rest, ht⟩ := h
  exact readHead?_of_toChars hyear ht

/-- The date of a text that is not greater is not later. -/
theorem Opens.le {t u : String} (ha : a.Opens t) (hb : b.Opens u) (h : t ≤ u) : a ≤ b := by
  obtain ⟨hayear, x, hx⟩ := ha
  obtain ⟨hbyear, y, hy⟩ := hb
  by_contra hlate
  have hlt : u < t := by
    rw [String.lt_iff, hx, hy]
    exact toChars_append_lt hayear hbyear hlate y x
  exact h hlt

end Date

end Databook.Calendar
