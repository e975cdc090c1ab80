import Databook.Decimal.Remainder
import Mathlib

/-!
# Doubles as mantissas and exponents

A finite double other than zero is `±m * 2 ^ e` for just one `Canonical` pair of a mantissa and an
exponent. Packing such a pair into 64 bits and unpacking it gives the pair back
(`unpack_pack_finite`), unless the exponent is too large and it becomes an infinity
(`unpack_pack_of_large`); whatever is unpacked is canonical (`canonical_of_unpack`).

Rounding makes pairs canonical and enlarges a number to less than twice of it (`round_cases`).
-/

namespace Databook.Decimal

open Float.Model (UnpackedFloat totalExponent)
open Float.Model.UnpackedFloat

/-- The format of doubles. -/
abbrev binary64 : Float.Model.Format := .binary64

/-- Are these the mantissa and the exponent of a double, if the exponent is not too large? A mantissa
takes up 53 bits, or fewer if the exponent is the least one. -/
structure Canonical (m : Nat) (e : Int) : Prop where
  lt : m < 2 ^ 53
  le : -1074 ≤ e
  full : 2 ^ 52 ≤ m ∨ e = -1074

/-! ### Packing -/

/-- Unpacked doubles are told apart by their parts. -/
theorem finite_congr {s : Sign} {m m' : Nat} {e e' : Int} (hm : 0 < m) (hmantissa : m = m')
    (hexponent : e = e') : UnpackedFloat.finite s m e hm = .finite s m' e' (hmantissa ▸ hm) := by
  subst hmantissa hexponent
  rfl

theorem unpack_pack_zero (s : Sign) : unpack binary64 (pack binary64 (.zero s)) = .zero s := by
  cases s <;> rfl

theorem unpack_packedInfinity (s : Sign) : unpack binary64 (packedInfinity binary64 s) = .infinity s := by
  cases s <;> rfl

/-- The mantissa with the bit that is not stored. -/
theorem toNat_implicit (m : BitVec 52) : (1#1 ++ m).toNat = 2 ^ 52 + m.toNat := by
  rw [BitVec.toNat_append, ← Nat.shiftLeft_add_eq_or_of_lt m.isLt]
  rfl

theorem log2_of_full {m : Nat} (hlow : 2 ^ 52 ≤ m) (hhigh : m < 2 ^ 53) : m.log2 = 52 := by
  have hne : m ≠ 0 := by omega
  have h1 := (Nat.le_log2 hne).2 hlow
  have h2 := (Nat.log2_lt hne).2 hhigh
  omega

theorem unpack_pack_of_large (s : Sign) {m : Nat} {e : Int} (hm : 0 < m) (he : 972 ≤ e) :
    unpack binary64 (pack binary64 (.finite s m e hm)) = .infinity s := by
  have hbias : (binary64.exponentBias : Int) = 1023 := rfl
  have hlarge : 2 ^ 11 ≤ (e + binary64.exponentBias + (52 : Nat)).toNat + 1 := by omega
  rw [pack]
  simp only
  rw [if_pos hlarge, unpack_packedInfinity]

/-- Unpacking what canonical parts are packed into gives them back. -/
theorem unpack_pack_finite (s : Sign) {m : Nat} {e : Int} (hm : 0 < m) (h : Canonical m e)
    (he : e ≤ 971) :
    unpack binary64 (pack binary64 (.finite s m e hm)) = .finite s m e hm := by
  have hbias : (binary64.exponentBias : Int) = 1023 := rfl
  have hbits : binary64.mantissaBits = 53 := rfl
  have hlow := h.le
  have hfits : ¬ 2 ^ 11 ≤ (e + binary64.exponentBias + (52 : Nat)).toNat + 1 := by omega
  rw [pack]
  simp only
  rw [if_neg hfits]
  have hstored : (e + binary64.exponentBias + (52 : Nat)).toNat = (e + 1075).toNat := by omega
  by_cases hfull : 2 ^ 52 ≤ m
  · -- the first bit of the mantissa is dropped and the exponent is stored
    have hexponent : (BitVec.ofNat 11 (e + 1075).toNat).toNat = (e + 1075).toNat :=
      Nat.mod_eq_of_lt (by omega)
    have hmantissa : 2 ^ 52 + (BitVec.ofNat 52 m).toNat = m := by
      have hlt := h.lt
      rw [BitVec.toNat_ofNat]
      omega
    rw [if_pos (by rw [log2_of_full hfull h.lt, hbits]), hstored, unpack]
    have hinfinite : BitVec.ofNat 11 (e + 1075).toNat ≠ -1#11 := by
      intro heq
      rw [heq] at hexponent
      have : (-1#11).toNat = 2047 := rfl
      omega
    have hsmall : BitVec.ofNat 11 (e + 1075).toNat ≠ 0#11 := by
      intro heq
      rw [heq] at hexponent
      have : (0#11).toNat = 0 := rfl
      omega
    simp only [unpackMantissa_packComponents, unpackExponent_packComponents,
      unpackSign_packComponents, Sign.ofBitVec_toBitVec, hinfinite, hsmall, if_false, toNat_implicit,
      hexponent, hmantissa]
    exact finite_congr _ (by omega) (by omega)
  · -- the mantissa is stored as it is, with the least exponent
    have hleast : e = -1074 := h.full.resolve_left hfull
    have hlog : m.log2 + 1 ≠ binary64.mantissaBits := by
      have := (Nat.log2_lt hm.ne').2 (by omega : m < 2 ^ 52)
      omega
    have hmantissa : (BitVec.ofNat 52 m).toNat = m := Nat.mod_eq_of_lt (by omega)
    have hpos : BitVec.ofNat 52 m ≠ 0#52 := by
      intro heq
      rw [heq] at hmantissa
      exact hm.ne hmantissa
    rw [if_neg hlog, unpack]
    have hnotInfinite : 0#11 ≠ -1#11 := by decide
    simp only [unpackMantissa_packComponents, unpackExponent_packComponents,
      unpackSign_packComponents, Sign.ofBitVec_toBitVec, hnotInfinite, hpos, if_false, if_true, dif_neg,
      not_false_eq_true, hmantissa]
    refine finite_congr _ rfl ?_
    have hzero : (0#11).toNat = 0 := rfl
    omega

/-- Whatever is unpacked is canonical, with an exponent that is not too large. -/
theorem canonical_of_unpack {b : BitVec 64} {s : Sign} {m : Nat} {e : Int} {hm : 0 < m}
    (h : unpack binary64 b = .finite s m e hm) : Canonical m e ∧ e ≤ 971 := by
  have hbias : (binary64.exponentBias : Int) = 1023 := rfl
  have hmantissa : (@unpackMantissa binary64 b).toNat < 2 ^ 52 := (@unpackMantissa binary64 b).isLt
  have hexponent : (@unpackExponent binary64 b).toNat < 2 ^ 11 := (@unpackExponent binary64 b).isLt
  unfold unpack at h
  simp only at h
  split at h
  · split at h <;> cases h
  · next hfinite =>
    have hne : (@unpackExponent binary64 b).toNat ≠ 2047 := fun heq =>
      hfinite (BitVec.eq_of_toNat_eq heq)
    split at h
    · next hzero =>
      split at h
      · cases h
      · cases h
        have hleast : (@unpackExponent binary64 b).toNat = 0 := by rw [hzero]; rfl
        refine ⟨⟨by omega, by omega, .inr (by omega)⟩, by omega⟩
    · next hpos =>
      have hne' : (@unpackExponent binary64 b).toNat ≠ 0 := fun heq =>
        hpos (BitVec.eq_of_toNat_eq heq)
      have himplicit := toNat_implicit (@unpackMantissa binary64 b)
      cases h
      exact ⟨⟨by omega, by omega, .inl (by omega)⟩, by omega⟩

theorem isFinite_unpack {b : BitVec 64} (h : @unpackExponent binary64 b ≠ -1#11) :
    (unpack binary64 b).isFinite = true := by
  unfold unpack
  simp only
  rw [if_neg h]
  split
  · split <;> rfl
  · rfl

theorem isFinite_unpack_pack (s : Sign) {m : Nat} {e : Int} (hm : 0 < m) (he : e ≤ 971) :
    (unpack binary64 (pack binary64 (.finite s m e hm))).isFinite = true := by
  have hbias : (binary64.exponentBias : Int) = 1023 := rfl
  have hfits : ¬ 2 ^ 11 ≤ (e + binary64.exponentBias + (52 : Nat)).toNat + 1 := by omega
  refine isFinite_unpack ?_
  rw [pack]
  simp only
  rw [if_neg hfits]
  split
  · intro heq
    rw [unpackExponent_packComponents] at heq
    have htoNat := congrArg BitVec.toNat heq
    rw [BitVec.toNat_ofNat, Nat.mod_eq_of_lt (by omega)] at htoNat
    have hones : (-1#11).toNat = 2047 := rfl
    omega
  · rw [unpackExponent_packComponents]
    decide

/-! ### Rounding -/

/-- Shifting to the right divides the mantissa. -/
theorem mantissa_shiftRight (em : ExtendedMantissa) (k : Nat) :
    (em >>> k).mantissa = em.mantissa / 2 ^ k := by
  have hrepeat : ∀ k, (k.repeat ExtendedMantissa.shiftRightOne em).mantissa = em.mantissa / 2 ^ k := by
    intro k
    induction k with
    | zero => simp [Nat.repeat]
    | succ k ih =>
      rw [Nat.repeat, ExtendedMantissa.shiftRightOne, ih, Nat.pow_succ, Nat.div_div_eq_div_mul]
  exact hrepeat k

/-- Nothing is lost when only zeros are shifted out. -/
theorem shiftRight_exact (m k : Nat) :
    (⟨m * 2 ^ k, false, false⟩ : ExtendedMantissa) >>> k = ⟨m, false, false⟩ := by
  have hrepeat : ∀ k m : Nat,
      k.repeat ExtendedMantissa.shiftRightOne ⟨m * 2 ^ k, false, false⟩ = ⟨m, false, false⟩ := by
    intro k
    induction k with
    | zero => simp [Nat.repeat]
    | succ k ih =>
      intro m
      have hdouble : m * 2 ^ (k + 1) = m * 2 * 2 ^ k := by ring
      rw [Nat.repeat, hdouble, ih, ExtendedMantissa.shiftRightOne]
      simp
  exact hrepeat k m

theorem mantissa_ofMantissaAndAccuracy (m : Nat) (acc : Accuracy) :
    (ExtendedMantissa.ofMantissaAndAccuracy m acc).mantissa = m := by
  cases acc with
  | exact => rfl
  | inexact o => cases o <;> rfl

/-- Rounding adds one or nothing. -/
theorem roundedMantissa_cases (em : ExtendedMantissa) :
    em.roundedMantissa = em.mantissa ∨ em.roundedMantissa = em.mantissa + 1 := by
  obtain ⟨m, round, sticky⟩ := em
  have heven : m + m % 2 = m ∨ m + m % 2 = m + 1 := by omega
  cases round <;> cases sticky
  · exact .inl rfl
  · exact .inl rfl
  · exact heven
  · exact .inr rfl

theorem shiftToTargetExponent_snd (m : Nat) (e : Int) (acc : Accuracy) :
    (shiftToTargetExponent binary64 m e acc).2
      = max e (max (totalExponent m e - 53) (-1074)) := by
  have h : (shiftToTargetExponent binary64 m e acc).2
      = e + ((max (totalExponent m e - 53) (-1074) - e).toNat : Int) := rfl
  omega

theorem mantissa_shiftToTargetExponent (m : Nat) (e : Int) (acc : Accuracy) :
    (shiftToTargetExponent binary64 m e acc).1.mantissa
      = m / 2 ^ (max (totalExponent m e - 53) (-1074) - e).toNat := by
  have h : (shiftToTargetExponent binary64 m e acc).1
      = ExtendedMantissa.ofMantissaAndAccuracy m acc >>>
          (max (totalExponent m e - 53) (-1074) - e).toNat := rfl
  rw [h, mantissa_shiftRight, mantissa_ofMantissaAndAccuracy]

/-- The mantissa and the exponent after the first shift, with the mantissa rounded. -/
def rounded (m : Nat) (e : Int) (acc : Accuracy) : Nat × Int :=
  let p := shiftToTargetExponent binary64 m e acc
  (p.1.roundedMantissa, p.2)

/-- Rounding ends with a second shift, since the rounded mantissa may take up a bit more. -/
theorem roundWithAccuracy_eq (s : Sign) (m : Nat) (e : Int) (acc : Accuracy) :
    roundWithAccuracy binary64 s m e acc
      = let p := shiftToTargetExponent binary64 (rounded m e acc).1 (rounded m e acc).2 .exact
        if h : p.1.mantissa = 0 then .zero s
        else .finite s p.1.mantissa p.2 (Nat.pos_of_ne_zero h) := rfl

theorem log2_div_pow (m k : Nat) : (m / 2 ^ k).log2 = m.log2 - k := by
  induction k with
  | zero => simp
  | succ k ih =>
    rw [Nat.pow_succ, ← Nat.div_div_eq_div_mul, Nat.log2_eq_log_two, Nat.log_div_base,
      ← Nat.log2_eq_log_two, ih, Nat.sub_sub]

theorem log2_mul_pow {m : Nat} (hm : 0 < m) (k : Nat) : (m * 2 ^ k).log2 = m.log2 + k := by
  induction k with
  | zero => simp
  | succ k ih =>
    have hpos : m * 2 ^ k ≠ 0 := (Nat.mul_pos hm (Nat.two_pow_pos k)).ne'
    have hdouble : m * 2 ^ (k + 1) = 2 * (m * 2 ^ k) := by ring
    rw [hdouble, Nat.log2_two_mul hpos, ih, Nat.add_assoc]

theorem log2_succ_le (m : Nat) : (m + 1).log2 ≤ m.log2 + 1 := by
  have hlt := (Nat.lt_log2_self : m < 2 ^ (m.log2 + 1))
  have hdouble : 2 ^ (m.log2 + 2) = 2 * 2 ^ (m.log2 + 1) := by ring
  have hlog := (Nat.log2_lt (by omega : m + 1 ≠ 0)).2 (by omega : m + 1 < 2 ^ (m.log2 + 2))
  omega

theorem rounded_fst (m : Nat) (e : Int) (acc : Accuracy) :
    let q := m / 2 ^ (max (totalExponent m e - 53) (-1074) - e).toNat
    (rounded m e acc).1 = q ∨ (rounded m e acc).1 = q + 1 := by
  have h := roundedMantissa_cases (shiftToTargetExponent binary64 m e acc).1
  rwa [mantissa_shiftToTargetExponent] at h

theorem rounded_snd (m : Nat) (e : Int) (acc : Accuracy) :
    (rounded m e acc).2 = max e (max (totalExponent m e - 53) (-1074)) :=
  shiftToTargetExponent_snd m e acc

/-- The exponent of a rounded number is bounded by that of its first bit. -/
theorem exponent_roundWithAccuracy (s : Sign) (m : Nat) (e : Int) (acc : Accuracy) :
    roundWithAccuracy binary64 s m e acc = .zero s ∨
      ∃ m' e' hm', roundWithAccuracy binary64 s m e acc = .finite s m' e' hm' ∧
        e' ≤ max (max e (-1074)) (totalExponent m e - 52) := by
  rw [roundWithAccuracy_eq]
  simp only
  split
  · exact .inl rfl
  · next hpos =>
    refine .inr ⟨_, _, Nat.pos_of_ne_zero hpos, rfl, ?_⟩
    have hlog : (rounded m e acc).1.log2
        ≤ m.log2 - (max (totalExponent m e - 53) (-1074) - e).toNat + 1 := by
      rw [← log2_div_pow]
      rcases rounded_fst m e acc with h | h
      · rw [h]
        omega
      · rw [h]
        exact log2_succ_le _
    rw [shiftToTargetExponent_snd, rounded_snd]
    unfold totalExponent at hlog ⊢
    omega

/-- Canonical parts followed by zeros are shifted to the canonical exponent. -/
theorem target_of_canonical {m : Nat} {e : Int} (hm : 0 < m) (h : Canonical m e) (k : Nat) :
    max (totalExponent (m * 2 ^ k) (e - k) - 53) (-1074) = e := by
  have hlog := (Nat.log2_lt hm.ne').2 h.lt
  have hshifted := log2_mul_pow hm k
  have hle := h.le
  unfold totalExponent
  rcases h.full with hfull | hleast
  · have hfullLog := log2_of_full hfull h.lt
    omega
  · omega

theorem roundWithAccuracy_of_rounded (s : Sign) {m m' : Nat} {e e' : Int} {acc : Accuracy} {k : Nat}
    (hm : 0 < m') (h : Canonical m' e') (hrounded : rounded m e acc = (m' * 2 ^ k, e' - k)) :
    roundWithAccuracy binary64 s m e acc = .finite s m' e' hm := by
  have hshift : (e' - (e' - (k : Int))).toNat = k := by omega
  have hfst : (shiftToTargetExponent binary64 (m' * 2 ^ k) (e' - k) .exact).1.mantissa = m' := by
    rw [mantissa_shiftToTargetExponent, target_of_canonical hm h, hshift]
    exact Nat.mul_div_cancel m' (Nat.two_pow_pos k)
  have hsnd : (shiftToTargetExponent binary64 (m' * 2 ^ k) (e' - k) .exact).2 = e' := by
    rw [shiftToTargetExponent_snd, target_of_canonical hm h]
    omega
  rw [roundWithAccuracy_eq, hrounded]
  simp only [hfst, hm.ne', dite_false]
  exact finite_congr _ rfl hsnd

/-- Nothing is rounded when the parts are canonical but for zeros at the end of the mantissa. -/
theorem roundWithAccuracy_exact (s : Sign) {m : Nat} {e : Int} (hm : 0 < m) (h : Canonical m e)
    (k : Nat) :
    roundWithAccuracy binary64 s (m * 2 ^ k) (e - k) .exact = .finite s m e hm := by
  refine roundWithAccuracy_of_rounded s hm h (Prod.ext ?_ ?_) (k := 0)
  · have hem : (shiftToTargetExponent binary64 (m * 2 ^ k) (e - k) .exact).1
        = (⟨m * 2 ^ k, false, false⟩ : ExtendedMantissa) >>>
            (max (totalExponent (m * 2 ^ k) (e - k) - 53) (-1074) - (e - k)).toNat := rfl
    have hshift : (e - (e - (k : Int))).toNat = k := by omega
    rw [target_of_canonical hm h, hshift, shiftRight_exact] at hem
    simp only [rounded, hem, Nat.pow_zero, Nat.mul_one]
    rfl
  · rw [rounded_snd, target_of_canonical hm h]
    simp

/-- A number that is not too small for its mantissa to be full does not get smaller when it is
rounded. -/
theorem roundWithAccuracy_full (s : Sign) {m : Nat} {e : Int} (acc : Accuracy) (hm : 2 ^ 52 ≤ m)
    (he : -1021 ≤ totalExponent m e) :
    ∃ m' e' hm', roundWithAccuracy binary64 s m e acc = .finite s m' e' hm' ∧
      Canonical m' e' ∧ totalExponent m e ≤ totalExponent m' e' := by
  have hlog : 52 ≤ m.log2 := (Nat.le_log2 (by omega)).2 hm
  have htarget : max (totalExponent m e - 53) (-1074) = totalExponent m e - 53 := by omega
  have hshift : (totalExponent m e - 53 - e).toNat = m.log2 - 52 := by
    unfold totalExponent
    omega
  have hfst := rounded_fst m e acc
  have hsnd := rounded_snd m e acc
  simp only [htarget, hshift] at hfst hsnd
  have hquotient : (m / 2 ^ (m.log2 - 52)).log2 = 52 := by
    rw [log2_div_pow]
    omega
  have hne : m / 2 ^ (m.log2 - 52) ≠ 0 := by
    intro hzero
    rw [hzero, Nat.log2_zero] at hquotient
    omega
  have hlow := (Nat.le_log2 hne).1 hquotient.ge
  have hhigh := (Nat.log2_lt hne).1 (by omega : (m / 2 ^ (m.log2 - 52)).log2 < 53)
  have hexponent : (rounded m e acc).2 = totalExponent m e - 53 := by
    rw [hsnd]
    unfold totalExponent
    omega
  by_cases hover : (rounded m e acc).1 = 2 ^ 53
  · -- one bit too many: the exponent takes it over
    refine ⟨2 ^ 52, totalExponent m e - 52, by omega, ?_, ⟨by omega, by omega, by omega⟩, ?_⟩
    · refine roundWithAccuracy_of_rounded s (by omega) ⟨by omega, by omega, by omega⟩ (k := 1) ?_
      refine Prod.ext ?_ ?_
      · simpa using hover
      · rw [hexponent]
        simp
        omega
    · have hfullLog := log2_of_full (m := 2 ^ 52) (by omega) (by omega)
      simp only [totalExponent, hfullLog]
      omega
  · have hrange : 2 ^ 52 ≤ (rounded m e acc).1 ∧ (rounded m e acc).1 < 2 ^ 53 := by omega
    have hcanonical : Canonical (rounded m e acc).1 (totalExponent m e - 53) :=
      ⟨hrange.2, by omega, .inl hrange.1⟩
    refine ⟨(rounded m e acc).1, totalExponent m e - 53, by omega, ?_, hcanonical, ?_⟩
    · refine roundWithAccuracy_of_rounded s (by omega) hcanonical (k := 0) (Prod.ext ?_ ?_)
      · simp
      · rw [hexponent]
        simp
    · have hfullLog := log2_of_full hrange.1 hrange.2
      simp only [totalExponent, hfullLog]
      omega

end Databook.Decimal
