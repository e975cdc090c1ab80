import Databook.Decimal.Shortest
import Mathlib.Data.Nat.Digits.Defs

/-!
# The shortest decimal is not zero

The interval of a double other than zero does not hold zero, and the decimal with seventeen digits
that is taken if no shorter one fits starts at the leading digit of the double. So the decimal that
stands for such a double never is zero (`Shortest.coefficient_ofFinite_pos`).
-/

namespace Databook.Decimal.Shortest

variable {s : Span} {m : Nat} {e : Int}

theorem lower_span_pos (hm : 0 < m) : 0 < (span m e).lower := by
  have hscale : 0 < 2 ^ (e - 2).toNat := Nat.two_pow_pos _
  unfold span
  simp only
  refine Nat.mul_pos ?_ hscale
  split <;> omega

theorem den_span_pos : 0 < (span m e).den := Nat.two_pow_pos _

theorem two_pow_le_ten_pow (n : Nat) : 2 ^ (3 * n) ≤ 10 ^ n := by
  rw [Nat.pow_mul]
  exact Nat.pow_le_pow_left (by decide) n

/-- A double other than zero is not as small as the leading digit would have to be to be missed. -/
theorem den_le_span (hm : 0 < m) (he : -1074 ≤ e) :
    (span m e).den ≤ (span m e).value * 10 ^ 400 := by
  have hvalue : 1 ≤ (span m e).value := by
    have hscale : 0 < 2 ^ (e - 2).toNat := Nat.two_pow_pos _
    exact Nat.mul_pos (by omega) hscale
  have hscaled (n : Nat) : 10 ^ n ≤ (span m e).value * 10 ^ n := Nat.le_mul_of_pos_left _ hvalue
  calc (span m e).den
    _ ≤ 2 ^ (3 * 400) := Nat.pow_le_pow_right (by decide) (by omega)
    _ ≤ 10 ^ 400 := two_pow_le_ten_pow 400
    _ ≤ (span m e).value * 10 ^ 400 := hscaled 400

/-! ### Points of a grid -/

theorem pos_of_holds (hlower : 0 < s.lower) {c : Nat} {k : Int} (h : s.holds c k = true) :
    0 < c := by
  have hlow : 0 < s.lower * 10 ^ (-k).toNat := Nat.mul_pos hlower (Nat.pow_pos (by decide))
  refine Nat.pos_of_ne_zero ?_
  rintro rfl
  unfold Span.holds at h
  simp only [Nat.zero_mul] at h
  split at h <;> simp only [Bool.and_eq_true, decide_eq_true_eq] at h <;> omega

theorem coefficient_pos_of_pick? (hlower : 0 < s.lower) {k : Int} {d : Scaled}
    (h : s.pick? k = some d) : 0 < d.coefficient := by
  unfold Span.pick? at h
  simp only at h
  split at h
  · next hfloor _ =>
    have hpos := pos_of_holds hlower hfloor
    cases h
    simp only
    split <;> omega
  · next hfloor _ =>
    cases h
    exact pos_of_holds hlower hfloor
  · cases h
    exact Nat.succ_pos _
  · cases h

/-! ### Seventeen digits -/

theorem pow_le_of_length_toDigits {n : Nat} (hn : 0 < n) :
    10 ^ ((Nat.toDigits 10 n).length - 1) ≤ n := by
  by_contra hlt
  by_cases hone : (Nat.toDigits 10 n).length ≤ 1
  · have hzero : (Nat.toDigits 10 n).length - 1 = 0 := by omega
    rw [hzero] at hlt
    omega
  · have hlength := Nat.toDigits_length 10 n ((Nat.toDigits 10 n).length - 1) (by omega)
      (Nat.lt_of_not_le hlt)
    omega

theorem neg_le_leading : -400 ≤ s.leading := by
  have hlength : 0 < (Nat.toDigits 10 (s.value * 10 ^ 400 / s.den)).length :=
    List.length_pos_iff.2 Nat.toDigits_ne_nil
  unfold Span.leading
  omega

/-- The double is at least the power of ten of its leading digit. -/
theorem pow_leading_le (hden : 0 < s.den) (h : s.den ≤ s.value * 10 ^ 400) :
    10 ^ (s.leading + 400).toNat * s.den ≤ s.value * 10 ^ 400 := by
  have hpos : 0 < s.value * 10 ^ 400 / s.den := Nat.div_pos h hden
  have hexponent : (s.leading + 400).toNat
      = (Nat.toDigits 10 (s.value * 10 ^ 400 / s.den)).length - 1 := by
    unfold Span.leading
    omega
  rw [hexponent]
  exact (Nat.le_div_iff_mul_le hden).1 (pow_le_of_length_toDigits hpos)

/-- On the grid of seventeen digits the double is not below the first point after zero. -/
theorem floorAt_leading_pos (hden : 0 < s.den) (h : s.den ≤ s.value * 10 ^ 400) :
    0 < s.floorAt (s.leading - 16) := by
  have hlow := neg_le_leading (s := s)
  have hleading := pow_leading_le hden h
  have hten (n : Nat) : 0 < 10 ^ n := Nat.pow_pos (by decide)
  refine Nat.div_pos ?_ (Nat.mul_pos hden (hten _))
  -- both sides are compared after they have been multiplied by the power that the leading digit has
  refine Nat.le_of_mul_le_mul_right ?_ (hten 400)
  have hsplit : (s.leading - 16).toNat + 400 ≤ (s.leading + 400).toNat + (-(s.leading - 16)).toNat := by
    omega
  calc s.den * 10 ^ (s.leading - 16).toNat * 10 ^ 400
    _ = 10 ^ ((s.leading - 16).toNat + 400) * s.den := by
      rw [Nat.pow_add, Nat.mul_assoc, Nat.mul_comm]
    _ ≤ 10 ^ ((s.leading + 400).toNat + (-(s.leading - 16)).toNat) * s.den :=
      Nat.mul_le_mul_right _ (Nat.pow_le_pow_right (by decide) hsplit)
    _ = 10 ^ (s.leading + 400).toNat * s.den * 10 ^ (-(s.leading - 16)).toNat := by
      rw [Nat.pow_add, Nat.mul_right_comm]
    _ ≤ s.value * 10 ^ 400 * 10 ^ (-(s.leading - 16)).toNat := Nat.mul_le_mul_right _ hleading
    _ = s.value * 10 ^ (-(s.leading - 16)).toNat * 10 ^ 400 := Nat.mul_right_comm _ _ _

theorem coefficient_stripZeros_pos (n : Nat) {d : Scaled} (h : 0 < d.coefficient) :
    0 < (stripZeros n d).coefficient := by
  induction n generalizing d with
  | zero => exact h
  | succ n ih =>
    unfold stripZeros
    split
    · next hten => exact ih (Nat.div_pos (by omega) (by decide))
    · exact h

/-- The shortest decimal of a double other than zero is not zero. -/
theorem coefficient_ofFinite_pos (hm : 0 < m) (he : -1074 ≤ e) :
    0 < (ofFinite m e).coefficient := by
  unfold ofFinite
  refine coefficient_stripZeros_pos 18 ?_
  cases hfound : (List.range 17).findSome? fun (n : Nat) => (span m e).pick? ((span m e).leading - n) with
  | none => exact floorAt_leading_pos den_span_pos (den_le_span hm he)
  | some d =>
    obtain ⟨n, -, hpick⟩ := List.exists_of_findSome?_eq_some hfound
    exact coefficient_pos_of_pick? (lower_span_pos hm) hpick

end Databook.Decimal.Shortest
