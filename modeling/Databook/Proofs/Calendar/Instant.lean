import Databook.Calendar.Instant
import Databook.Proofs.Calendar.Date
import Databook.Proofs.Calendar.DateText
import Mathlib.Data.Option.Basic

/-!
# Points in time are read back

An `Instant` whose parts are in their ranges is read from its text as itself
(`Instant.read?_toText`), and every instant that is read is such a one
(`Instant.isValid_of_read?`).
-/

namespace Databook.Calendar

open Text

namespace Instant

/-- Are the parts in their ranges? Only the last second of a minute can be a leap second. -/
structure IsValid (t : Instant) : Prop where
  second : t.second < 86400
  nano : t.nano < 2000000000
  leap : 1000000000 ≤ t.nano → t.second % 60 = 59

theorem isValid_epoch : epoch.IsValid := ⟨by decide, by decide, by decide⟩

/-! ### Times of day -/

theorem endsNumber_of_head {c : Char} {cs : List Char} (h : c.isDigit = false) :
    EndsNumber (c :: cs) := by
  intro c' hc'
  cases hc'
  exact h

theorem readBelow?_padded {bound n : Nat} {rest : List Char} (h : n < bound) (hbound : bound ≤ 100) :
    readBelow? bound (padded 2 n ++ rest) = some (n, rest) := by
  unfold readBelow?
  rw [readNumber?_padded (by decide) (by omega)]
  simp [guard, h]

/-- Decimals are read with the weight of the place where they end. -/
theorem readFraction?_padded {width n : Nat} (hwidth : 0 < width) (hle : width ≤ 9)
    (h : n < 10 ^ width) {rest : List Char} (hrest : EndsNumber rest) :
    readFraction? ('.' :: padded width n ++ rest) = some (n * 10 ^ (9 - width), rest) := by
  have hlength := length_padded hwidth h
  have hread : readDigits? 9 (padded width n ++ rest) = some (n, rest) := by
    rw [readDigits?_append (fun _ => isDigit_of_mem_padded) (padded_ne_nil width n)
      (by omega) (.inr hrest), ofDigitChars_padded]
  have hdrop : rest.dropWhile Char.isDigit = rest := by
    cases rest with
    | nil => rfl
    | cons c cs => exact List.dropWhile_cons_of_neg (by rw [hrest c rfl]; exact Bool.false_ne_true)
  have hused : (padded width n ++ rest).length - rest.length = width := by
    rw [List.length_append, hlength, Nat.add_sub_cancel]
  rw [List.cons_append, readFraction?, hread]
  simp only [Option.bind_eq_bind, Option.bind_some]
  rw [hused, hdrop]
  rfl

theorem readFraction?_fractionText {nano : Nat} (h : nano < 1000000000) {rest : List Char}
    (hrest : EndsNumber rest) (hdot : '.' ∉ rest.head?) :
    readFraction? (fractionText nano ++ rest) = some (nano, rest) := by
  unfold fractionText
  split
  · next hzero =>
    subst hzero
    rw [List.nil_append]
    unfold readFraction?
    split
    · exact absurd rfl hdot
    · rfl
  · split
    · rw [readFraction?_padded (by decide) (by decide) (by omega) hrest]
      exact congrArg (fun n => some (n, rest)) (by omega)
    · split
      · rw [readFraction?_padded (by decide) (by decide) (by omega) hrest]
        exact congrArg (fun n => some (n, rest)) (by omega)
      · rw [readFraction?_padded (by decide) (by decide) (by omega) hrest]
        exact congrArg (fun n => some (n, rest)) (by omega)

/-- The text of a time of day is read as the time. -/
theorem readTime?_timeText {t : Instant} (ht : t.IsValid) {rest : List Char}
    (hrest : EndsNumber rest) (hdot : '.' ∉ rest.head?) :
    readTime? (t.timeText ++ (fractionText (t.nano % 1000000000) ++ rest))
      = some ((t.second, t.nano), rest) := by
  obtain ⟨hsecond, hnano, hleap⟩ := ht
  obtain ⟨leap, hleap'⟩ : ∃ leap, leap = if t.nano < 1000000000 then 0 else 1 := ⟨_, rfl⟩
  have hchars : t.timeText ++ (fractionText (t.nano % 1000000000) ++ rest)
      = padded 2 (t.second / 3600) ++ (':' :: (padded 2 (t.second / 60 % 60) ++ (':' ::
        (padded 2 (t.second % 60 + leap) ++ (fractionText (t.nano % 1000000000) ++ rest))))) := by
    simp [timeText, hleap']
  have hcolon : ∀ cs : List Char, readChar? ':' (trimStart (':' :: cs)) = some cs := fun _ => rfl
  have hfraction := readFraction?_fractionText (Nat.mod_lt t.nano (by decide)) hrest hdot
  have hbelow : t.second % 60 + leap < 61 := by split at hleap' <;> omega
  unfold readTime?
  rw [hchars, readBelow?_padded (by omega) (by decide)]
  simp only [Option.bind_eq_bind, Option.bind_some, hcolon]
  rw [readBelow?_padded (by omega) (by decide)]
  simp only [Option.bind_some, hcolon]
  rw [readBelow?_padded hbelow (by decide)]
  simp only [Option.bind_some, hfraction]
  have hparts : t.second / 3600 * 3600 + t.second / 60 % 60 * 60 + (t.second % 60 + leap)
      - (if t.second % 60 + leap = 60 then 1 else 0) = t.second := by
    split <;> split at hleap' <;> omega
  have hnanos : t.nano % 1000000000 + (if t.second % 60 + leap = 60 then 1 else 0) * 1000000000
      = t.nano := by
    split <;> split at hleap' <;> omega
  rw [hparts, hnanos]
  rfl

/-! ### Points in time -/

/-- An instant is read from its text as itself. -/
theorem read?_toText {t : Instant} (ht : t.IsValid) : read? t.toText = some t := by
  have hchars : t.toText.toList = t.date.toChars ++ ('T' :: (t.timeText ++
      (fractionText (t.nano % 1000000000) ++ ['Z']))) := by
    simp [toText]
  have htime : readTime? (t.timeText ++ (fractionText (t.nano % 1000000000) ++ ['Z']))
      = some ((t.second, t.nano), ['Z']) :=
    readTime?_timeText ht (endsNumber_of_head rfl) (by decide)
  have hoffset : readOffset? (trimStart ['Z']) = some (0, []) := by rfl
  have hday : t.date.addDays? (((t.second : Int) - 0) / 86400) = some t.date := by
    have hzero : ((t.second : Int) - 0) / 86400 = 0 := by
      have := ht.second
      omega
    rw [hzero, Date.addDays?, Int.add_zero, Date.ofDayNumber?_dayNumber]
  have hsecond : (((t.second : Int) - 0) % 86400).toNat = t.second := by
    have := ht.second
    omega
  unfold read?
  rw [hchars, readYearMonthDay?_toChars rfl]
  simp only [Option.bind_eq_bind, Option.bind_some]
  simp only [htime, hoffset, Option.bind_some, hday, hsecond]
  rfl

/-! ### What is read -/

/-- Decimals that are read are below one second. -/
theorem lt_of_readFraction? {cs rest : List Char} {n : Nat} (h : readFraction? cs = some (n, rest)) :
    n < 1000000000 := by
  unfold readFraction? at h
  split at h
  · next cs =>
    obtain ⟨⟨m, rest'⟩, hread, h⟩ := Option.bind_eq_some_iff.1 h
    cases h
    unfold readDigits? at hread
    simp only at hread
    split at hread
    · cases hread
    · cases hread
      obtain ⟨digits, hdigits⟩ : ∃ digits, digits = (cs.take 9).takeWhile Char.isDigit := ⟨_, rfl⟩
      have hall : ∀ c ∈ digits, c.isDigit = true := fun c hc =>
        List.all_eq_true.1 List.all_takeWhile c (hdigits ▸ hc)
      have hnine : digits.length ≤ 9 := by
        rw [hdigits]
        exact Nat.le_trans (List.takeWhile_prefix _).length_le (List.length_take_le _ _)
      have hcs : digits.length ≤ cs.length := by
        rw [hdigits]
        exact Nat.le_trans (List.takeWhile_prefix _).length_le (List.length_take_le' _ _)
      rw [← hdigits, List.length_drop]
      have hwidth : cs.length - (cs.length - digits.length) = digits.length := by omega
      rw [hwidth]
      have hlt := ofDigitChars_lt hall 0
      rw [Nat.ofDigitChars_eq_foldl] at hlt
      calc
        _ < 10 ^ digits.length * (0 + 1) * 10 ^ (9 - digits.length) :=
          Nat.mul_lt_mul_of_pos_right hlt (Nat.pow_pos (by decide))
        _ = 10 ^ 9 := by
          rw [Nat.zero_add, Nat.mul_one, ← Nat.pow_add, Nat.add_sub_cancel' hnine]
  · cases h
    decide

theorem lt_of_readBelow? {bound n : Nat} {cs rest : List Char}
    (h : readBelow? bound cs = some (n, rest)) : n < bound := by
  obtain ⟨⟨m, cs'⟩, -, h⟩ := Option.bind_eq_some_iff.1 h
  obtain ⟨_, hguard, h⟩ := Option.bind_eq_some_iff.1 h
  cases h
  refine Decidable.byContradiction fun hge => ?_
  rw [guard, if_neg hge] at hguard
  cases hguard

theorem isValid_of_readTime? {cs rest : List Char} {second nano : Nat}
    (h : readTime? cs = some ((second, nano), rest)) :
    second < 86400 ∧ nano < 2000000000 ∧ (1000000000 ≤ nano → second % 60 = 59) := by
  obtain ⟨⟨hour, _⟩, hhour, h⟩ := Option.bind_eq_some_iff.1 h
  obtain ⟨_, -, h⟩ := Option.bind_eq_some_iff.1 h
  obtain ⟨⟨minute, _⟩, hminute, h⟩ := Option.bind_eq_some_iff.1 h
  obtain ⟨_, -, h⟩ := Option.bind_eq_some_iff.1 h
  obtain ⟨⟨second', _⟩, hsecond, h⟩ := Option.bind_eq_some_iff.1 h
  obtain ⟨⟨fraction, _⟩, hfraction, h⟩ := Option.bind_eq_some_iff.1 h
  cases h
  have hhour := lt_of_readBelow? hhour
  have hminute := lt_of_readBelow? hminute
  have hsecond := lt_of_readBelow? hsecond
  have hfraction := lt_of_readFraction? hfraction
  split <;> omega

/-- Hours and minutes with a sign, as an offset from UTC. -/
theorem offset_of_signed {sign : Int} {cs rest : List Char} {offset : Int}
    (h : (do
      let (hours, cs) ← readPair? cs
      let (minutes, cs) ← readPair? (cs.dropWhile fun c => c == ':' || isBlank c)
      guard (minutes < 60)
      return (sign * (hours * 3600 + minutes * 60), cs)) = some (offset, rest)) :
    offset % 60 = 0 := by
  obtain ⟨⟨hours, _⟩, -, h⟩ := Option.bind_eq_some_iff.1 h
  obtain ⟨⟨minutes, _⟩, -, h⟩ := Option.bind_eq_some_iff.1 h
  obtain ⟨_, -, h⟩ := Option.bind_eq_some_iff.1 h
  cases h
  have hminutes : sign * ((hours : Int) * 3600 + minutes * 60)
      = sign * (hours * 60 + minutes) * 60 := by
    rw [Int.mul_assoc]
    exact congrArg (sign * ·) (by omega)
  rw [hminutes]
  exact Int.mul_emod_left _ _

/-- Offsets are whole minutes. -/
theorem offset_of_readOffset? {cs rest : List Char} {offset : Int}
    (h : readOffset? cs = some (offset, rest)) : offset % 60 = 0 := by
  unfold readOffset? at h
  simp only at h
  split at h
  · cases h
    rfl
  · split at h
    · cases h
      rfl
    · cases h
      rfl
    · exact offset_of_signed h
    · exact offset_of_signed h
    · exact offset_of_signed h
    · cases h

/-- Every instant that is read is valid. -/
theorem isValid_of_read? {s : String} {t : Instant} (h : read? s = some t) : t.IsValid := by
  obtain ⟨⟨day, cs⟩, -, h⟩ := Option.bind_eq_some_iff.1 h
  simp only at h
  split at h
  · split at h
    · obtain ⟨_, -, h⟩ := Option.bind_eq_some_iff.1 h
      obtain ⟨⟨⟨second, nano⟩, _⟩, htime, h⟩ := Option.bind_eq_some_iff.1 h
      obtain ⟨⟨offset, _⟩, hoffset, h⟩ := Option.bind_eq_some_iff.1 h
      obtain ⟨_, -, h⟩ := Option.bind_eq_some_iff.1 h
      obtain ⟨date, -, h⟩ := Option.bind_eq_some_iff.1 h
      cases h
      obtain ⟨hsecond, hnano, hleap⟩ := isValid_of_readTime? htime
      have hminutes := offset_of_readOffset? hoffset
      refine ⟨?_, hnano, fun h => ?_⟩
      · simp only
        omega
      · have := hleap h
        simp only
        omega
    · cases h
  · cases h

end Instant

end Databook.Calendar
