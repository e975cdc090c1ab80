import Databook.Cell
import Databook.Proofs.Decimal.Double

/-!
# Whole doubles

A whole double below 9 * 10 ^ 15 is the double of its integer (`ofInt_beq_of_isWhole`), so nothing
but the sign of zero is lost when it is written as an integer. The integers of 64 bits have finite
doubles (`isFinite_ofInt`).
-/

namespace Databook.Decimal

open Float.Model (UnpackedFloat totalExponent)
open Float.Model.UnpackedFloat

/-! ### Finite doubles -/

theorem isFinite_eq (x : Float) : x.isFinite = x.toModel.unpack.isFinite := rfl

theorem unpack_neg (x : Float) :
    (-x).toModel.unpack = unpack binary64 (pack binary64 x.toModel.unpack.neg) := rfl

/-- A finite double is a zero or has canonical parts. -/
theorem finite_cases {x : Float} (h : x.isFinite = true) :
    (∃ s, x.toModel.unpack = .zero s) ∨
      ∃ s m e hm, x.toModel.unpack = .finite s m e hm ∧ Canonical m e ∧ e ≤ 971 := by
  rw [isFinite_eq] at h
  cases hx : x.toModel.unpack with
  | infinity s => rw [hx] at h; cases h
  | notANumber => rw [hx] at h; cases h
  | zero s => exact .inl ⟨s, rfl⟩
  | finite s m e hm => exact .inr ⟨s, m, e, hm, rfl, canonical_of_unpack hx⟩

theorem isFinite_neg {x : Float} (h : x.isFinite = true) : (-x).isFinite = true := by
  rw [isFinite_eq, unpack_neg]
  rcases finite_cases h with ⟨s, hx⟩ | ⟨s, m, e, hm, hx, -, he⟩
  · rw [hx, UnpackedFloat.neg, unpack_pack_zero]
    rfl
  · rw [hx]
    exact isFinite_unpack_pack _ hm he

theorem unpack_abs {x : Float} (h : x.isFinite = true) :
    x.abs.toModel.unpack = x.toModel.unpack.abs := by
  have hunpack : x.abs.toModel.unpack = unpack binary64 (pack binary64 x.toModel.unpack.abs) := rfl
  rw [hunpack]
  rcases finite_cases h with ⟨s, hx⟩ | ⟨s, m, e, hm, hx, hcanonical, he⟩
  · rw [hx]
    exact unpack_pack_zero _
  · rw [hx]
    exact unpack_pack_finite _ hm hcanonical he

/-- The magnitude of a finite double is finite and has no sign. -/
theorem abs_cases {x : Float} (h : x.isFinite = true) :
    x.abs.toModel.unpack = .zero .positive ∨
      ∃ m e hm, x.abs.toModel.unpack = .finite .positive m e hm := by
  rw [unpack_abs h]
  rcases finite_cases h with ⟨s, hx⟩ | ⟨s, m, e, hm, hx, -⟩
  · rw [hx]
    exact .inl rfl
  · rw [hx]
    exact .inr ⟨m, e, hm, rfl⟩

theorem beq_of_unpack {x y : Float} (hx : x.isFinite = true)
    (h : y.toModel.unpack = x.toModel.unpack) : (y == x) = true := by
  have hbeq : (y == x) = (y.toModel.unpack.compare x.toModel.unpack == some .eq) := rfl
  rw [hbeq, h]
  rcases finite_cases hx with ⟨s, hx⟩ | ⟨s, m, e, hm, hx, -⟩
  · rw [hx]
    rfl
  · rw [hx]
    cases s <;> simp [UnpackedFloat.compare]

/-- A finite double is equal to itself. -/
theorem beq_self {x : Float} (h : x.isFinite = true) : (x == x) = true := beq_of_unpack h rfl

/-! ### Integers as doubles -/

/-- The exponent of a positive integer as a double, if it has at most 53 bits. -/
theorem canonical_nat {n : Nat} (hpos : 0 < n) (hn : n < 2 ^ 53) :
    Canonical (n * 2 ^ (52 - n.log2)) (n.log2 - 52 : Int) := by
  have hlog := (Nat.log2_lt hpos.ne').2 hn
  have hne : n * 2 ^ (52 - n.log2) ≠ 0 := (Nat.mul_pos hpos (Nat.two_pow_pos _)).ne'
  have hfull : (n * 2 ^ (52 - n.log2)).log2 = 52 := by
    rw [log2_mul_pow hpos]
    omega
  exact ⟨(Nat.log2_lt hne).1 (by omega), by omega, .inl ((Nat.le_log2 hne).1 hfull.ge)⟩

theorem round_nat {n : Nat} (hpos : 0 < n) (hn : n < 2 ^ 53) :
    UnpackedFloat.round binary64 .positive n 0
      = .finite .positive (n * 2 ^ (52 - n.log2)) (n.log2 - 52)
          (Nat.mul_pos hpos (Nat.two_pow_pos _)) := by
  have hlog := (Nat.log2_lt hpos.ne').2 hn
  have htarget : binary64.targetExponent (totalExponent n 0) = n.log2 - 52 := by
    have h : binary64.targetExponent (totalExponent n 0)
        = max (totalExponent n 0 - 53) (-1074) := rfl
    rw [h]
    unfold totalExponent
    omega
  have hshift : (0 - ((n.log2 : Int) - 52)).toNat = 52 - n.log2 := by omega
  have hexponent : (0 : Int) - (52 - n.log2 : Nat) = (n.log2 - 52 : Int) - (0 : Nat) := by omega
  have hexact := roundWithAccuracy_exact .positive (Nat.mul_pos hpos (Nat.two_pow_pos _))
    (canonical_nat hpos hn) 0
  rw [UnpackedFloat.round, htarget]
  simp only [decreaseExponent, hshift, hexponent, Nat.shiftLeft_eq]
  rwa [Nat.pow_zero, Nat.mul_one] at hexact

theorem unpack_one : (Float.ofBits 0x3FF0000000000000).toModel.unpack
    = .finite .positive (2 ^ 52) (-52) (by decide) := rfl

theorem unpack_mul (x y : Float) :
    (x * y).toModel.unpack = unpack binary64
      (pack binary64 (UnpackedFloat.mul binary64 x.toModel.unpack y.toModel.unpack)) := rfl

theorem unpack_div (x y : Float) :
    (x / y).toModel.unpack = unpack binary64
      (pack binary64 (UnpackedFloat.div binary64 x.toModel.unpack y.toModel.unpack)) := rfl

/-- Multiplying by one changes nothing. -/
theorem mul_one_of_canonical (s : Sign) {m : Nat} {e : Int} (hm : 0 < m) (h : Canonical m e) :
    UnpackedFloat.mul binary64 (.finite s m e hm) (.finite .positive (2 ^ 52) (-52) (by decide))
      = .finite s m e hm := by
  have hsign : s * .positive = s := by cases s <;> rfl
  rw [UnpackedFloat.mul, hsign]
  exact roundWithAccuracy_exact s hm h 52

theorem unpack_toFloat {n : Nat} (hpos : 0 < n) (hn : n < 2 ^ 53) :
    n.toUInt64.toFloat.toModel.unpack
      = .finite .positive (n * 2 ^ (52 - n.log2)) (n.log2 - 52)
          (Nat.mul_pos hpos (Nat.two_pow_pos _)) := by
  have hlog := (Nat.log2_lt hpos.ne').2 hn
  have htoNat : n.toUInt64.toNat = n := Nat.mod_eq_of_lt (by omega)
  have hunpack : n.toUInt64.toFloat.toModel.unpack = unpack binary64
      (pack binary64 (UnpackedFloat.normalize binary64 (n.toUInt64.toNat : Int) 0 .positive)) := rfl
  have hcompare : compare (n : Int) 0 = .gt := Int.compare_eq_gt.2 (by omega)
  rw [hunpack, htoNat, UnpackedFloat.normalize]
  simp only [hcompare, Int.toNat_natCast]
  rw [round_nat hpos hn]
  exact unpack_pack_finite _ _ (canonical_nat hpos hn) (by omega)

theorem ofNat_of_lt {n : Nat} (hn : n < 2 ^ 53) :
    Float.ofNat n = n.toUInt64.toFloat * Float.ofBits 0x3FF0000000000000 := by
  have h : n < 2 ^ 53 ∧ 0 ≤ 22 := ⟨hn, by decide⟩
  have hofNat : Float.ofNat n = Float.ofScientific n false 0 := rfl
  rw [hofNat, Float.ofScientific, dif_pos h]
  rfl

/-- The parts of a positive integer of at most 53 bits as a double. -/
theorem unpack_ofNat {n : Nat} (hpos : 0 < n) (hn : n < 2 ^ 53) :
    (Float.ofNat n).toModel.unpack
      = .finite .positive (n * 2 ^ (52 - n.log2)) (n.log2 - 52)
          (Nat.mul_pos hpos (Nat.two_pow_pos _)) := by
  have hlog := (Nat.log2_lt hpos.ne').2 hn
  rw [ofNat_of_lt hn, unpack_mul, unpack_toFloat hpos hn, unpack_one,
    mul_one_of_canonical _ _ (canonical_nat hpos hn)]
  exact unpack_pack_finite _ _ (canonical_nat hpos hn) (by omega)

theorem unpack_ofNat_zero : (Float.ofNat 0).toModel.unpack = .zero .positive := rfl

/-- The slow way to a double: a product of integers that is rounded once. -/
theorem unpack_ofScientific {n k : Nat} (hn : n ≠ 0) (hslow : ¬ (n < 2 ^ 53 ∧ k ≤ 22))
    (hk : k ≤ 2048) :
    (Float.ofScientific n false k).toModel.unpack = unpack binary64 (pack binary64
      (roundWithAccuracy binary64 .positive (n <<< 53 * 10 ^ k) (-53) .exact)) := by
  have hlarge : ¬ (k : Int) > 2 ^ 11 := by omega
  have hsmall : ¬ (k : Int) < -((2 ^ 11 : Int) + n.log2) := by omega
  have hunpack : (Float.ofModel (Float.Model.ofScientific n (Int.ofNat k))).toModel.unpack
      = unpack binary64 (pack binary64 (UnpackedFloat.ofScientific binary64 n k)) := rfl
  rw [Float.ofScientific, dif_neg hslow]
  simp only [Bool.false_eq_true, if_false]
  rw [hunpack, UnpackedFloat.ofScientific, dif_neg hn, if_neg hlarge, if_neg hsmall,
    if_pos (Int.natCast_nonneg k)]
  rfl

/-- Integers of 64 bits have finite doubles. -/
theorem isFinite_ofNat {n : Nat} (hn : n < 2 ^ 64) : (Float.ofNat n).isFinite = true := by
  rw [isFinite_eq]
  by_cases hzero : n = 0
  · rw [hzero, unpack_ofNat_zero]
    rfl
  by_cases hsmall : n < 2 ^ 53
  · rw [unpack_ofNat (Nat.pos_of_ne_zero hzero) hsmall]
    rfl
  have hlog := (Nat.log2_lt hzero).2 hn
  have htotal : totalExponent (n <<< 53 * 10 ^ 0) (-53) ≤ 64 := by
    rw [Nat.pow_zero, Nat.mul_one, Nat.shiftLeft_eq, totalExponent,
      log2_mul_pow (Nat.pos_of_ne_zero hzero)]
    omega
  have hofNat : Float.ofNat n = Float.ofScientific n false 0 := rfl
  rw [hofNat, unpack_ofScientific hzero (fun h => hsmall h.1) (by omega)]
  rcases exponent_roundWithAccuracy .positive (n <<< 53 * 10 ^ 0) (-53) .exact
    with h | ⟨m, e, hm, h, he⟩
  · rw [h, unpack_pack_zero]
    rfl
  · rw [h]
    exact isFinite_unpack_pack _ hm (by omega)

theorem ofInt_natCast (n : Nat) : Float.ofInt n = Float.ofNat n := rfl

theorem ofInt_neg {n : Nat} (hpos : 0 < n) : Float.ofInt (-n) = -Float.ofNat n := by
  obtain ⟨n, rfl⟩ := Nat.exists_eq_succ_of_ne_zero hpos.ne'
  rfl

theorem isFinite_ofInt {n : Int} (hn : n.natAbs < 2 ^ 64) : (Float.ofInt n).isFinite = true := by
  rcases Int.natAbs_eq n with h | h
  · rw [h, ofInt_natCast]
    exact isFinite_ofNat hn
  · by_cases hzero : n.natAbs = 0
    · rw [h, hzero]
      rfl
    · rw [h, ofInt_neg (Nat.pos_of_ne_zero hzero)]
      exact isFinite_neg (isFinite_ofNat hn)

/-- The parts of an integer other than zero as a double. -/
theorem unpack_ofInt (s : Sign) {n : Nat} (hpos : 0 < n) (hn : n < 2 ^ 53) :
    (Float.ofInt (signedMantissa s n)).toModel.unpack
      = .finite s (n * 2 ^ (52 - n.log2)) (n.log2 - 52) (Nat.mul_pos hpos (Nat.two_pow_pos _)) := by
  have hlog := (Nat.log2_lt hpos.ne').2 hn
  cases s with
  | positive => exact unpack_ofNat hpos hn
  | negative =>
    rw [signedMantissa, ofInt_neg hpos, unpack_neg, unpack_ofNat hpos hn]
    exact unpack_pack_finite _ _ (canonical_nat hpos hn) (by omega)

theorem natAbs_signedMantissa (s : Sign) (n : Nat) : (signedMantissa s n).natAbs = n := by
  cases s with
  | positive => rfl
  | negative => exact Int.natAbs_neg n

/-! ### Whole doubles -/

theorem unpack_bound : (9e15 : Float).toModel.unpack
    = .finite .positive 9000000000000000 0 (by decide) := rfl

/-- A double below the bound has no larger exponent than the integers have. -/
theorem exponent_of_lt_bound {x : Float} {s : Sign} {m : Nat} {e : Int} {hm : 0 < m}
    (hx : x.toModel.unpack = .finite s m e hm) (h : x.abs < 9e15) : e ≤ 0 := by
  have habs : x.abs.toModel.unpack = .finite .positive m e hm := by
    rw [unpack_abs (by rw [isFinite_eq, hx]; rfl), hx]
    rfl
  have hlt : (x.abs.toModel.unpack.compare (9e15 : Float).toModel.unpack == some .lt) = true :=
    of_decide_eq_true h
  rw [habs, unpack_bound] at hlt
  by_contra hpos
  have hcompare : compare e 0 = .gt := Int.compare_eq_gt.2 (by omega)
  simp [UnpackedFloat.compare, hcompare] at hlt

theorem parts_of_whole {m : Nat} {e : Int} (hm : 0 < m) (h : Canonical m e) (he : e ≤ 0)
    (hwhole : m * 2 ^ e.toNat % 2 ^ (-e).toNat = 0) :
    let n := m * 2 ^ e.toNat / 2 ^ (-e).toNat
    0 < n ∧ n < 2 ^ 53 ∧ m = n * 2 ^ (52 - n.log2) ∧ e = n.log2 - 52 := by
  have hzero : e.toNat = 0 := by omega
  rw [hzero, Nat.pow_zero, Nat.mul_one] at hwhole ⊢
  intro n
  have hproduct : m = n * 2 ^ (-e).toNat := by
    rw [Nat.div_mul_cancel (Nat.dvd_of_mod_eq_zero hwhole)]
  have hpos : 0 < n := Nat.pos_of_mul_pos_right (hproduct ▸ hm)
  have hlog : m.log2 = n.log2 + (-e).toNat := by
    rw [← log2_mul_pow hpos, ← hproduct]
  have hsmall := (Nat.log2_lt hm.ne').2 h.lt
  have hfull : m.log2 = 52 := by
    rcases h.full with hfull | hleast
    · exact log2_of_full hfull h.lt
    · omega
  have hexponent : (-e).toNat = 52 - n.log2 := by omega
  refine ⟨hpos, lt_of_le_of_lt (Nat.div_le_self m _) h.lt, hexponent ▸ hproduct, by omega⟩

/-- A whole double other than zero has the parts of a positive integer and a sign. -/
theorem whole_cases {x : Float} {n : Int} (hwhole : Cell.isWhole x = true)
    (hn : truncate? x = some n) :
    (n = 0 ∧ ∃ s, x.toModel.unpack = .zero s) ∨
      ∃ s k, ∃ hpos : 0 < k, k < 2 ^ 53 ∧ n = signedMantissa s k ∧
        x.toModel.unpack = .finite s (k * 2 ^ (52 - k.log2)) (k.log2 - 52)
          (Nat.mul_pos hpos (Nat.two_pow_pos _)) := by
  obtain ⟨hinteger, hlt⟩ := (Bool.and_eq_true _ _).mp hwhole
  unfold isInteger at hinteger
  unfold truncate? at hn
  cases hx : x.toModel.unpack with
  | infinity s => rw [hx] at hn; cases hn
  | notANumber => rw [hx] at hn; cases hn
  | zero s =>
    rw [hx] at hn
    cases hn
    exact .inl ⟨rfl, s, rfl⟩
  | finite s m e hm =>
    rw [hx] at hn hinteger
    cases hn
    have hbound := exponent_of_lt_bound hx (of_decide_eq_true hlt)
    obtain ⟨hpos, hsmall, hmantissa, hexponent⟩ := parts_of_whole hm (canonical_of_unpack hx).1
      hbound (eq_of_beq hinteger)
    exact .inr ⟨s, _, hpos, hsmall, rfl, finite_congr hm hmantissa hexponent⟩

/-- A whole double is the double of its integer, but that zero loses its sign. -/
theorem unpack_ofInt_of_isWhole {x : Float} {n : Int} (hwhole : Cell.isWhole x = true)
    (hn : truncate? x = some n) :
    (n = 0 ∧ ∃ s, x.toModel.unpack = .zero s) ∨
      (Float.ofInt n).toModel.unpack = x.toModel.unpack ∧ n.natAbs < 2 ^ 53 ∧
        x.isFinite = true := by
  refine (whole_cases hwhole hn).imp_right ?_
  rintro ⟨s, k, hpos, hsmall, rfl, hx⟩
  refine ⟨?_, ?_, ?_⟩
  · rw [unpack_ofInt s hpos hsmall, hx]
  · rwa [natAbs_signedMantissa]
  · rw [isFinite_eq, hx]
    rfl

theorem ofInt_beq_of_isWhole {x : Float} {n : Int} (hwhole : Cell.isWhole x = true)
    (hn : truncate? x = some n) : (Float.ofInt n == x) = true := by
  rcases unpack_ofInt_of_isWhole hwhole hn with ⟨rfl, s, hx⟩ | ⟨hunpack, -, hx⟩
  · have hbeq : (Float.ofInt 0 == x)
        = ((Float.ofNat 0).toModel.unpack.compare x.toModel.unpack == some .eq) := rfl
    rw [hbeq, hx, unpack_ofNat_zero]
    rfl
  · exact beq_of_unpack hx hunpack

theorem natAbs_lt_of_isWhole {x : Float} {n : Int} (hwhole : Cell.isWhole x = true)
    (hn : truncate? x = some n) : n.natAbs < 2 ^ 53 := by
  rcases unpack_ofInt_of_isWhole hwhole hn with ⟨rfl, -⟩ | ⟨-, hsmall, -⟩
  · decide
  · exact hsmall

/-- The double of the integer of a whole double is whole, with the same integer. -/
theorem isWhole_ofInt {x : Float} {n : Int} (hwhole : Cell.isWhole x = true)
    (hn : truncate? x = some n) :
    Cell.isWhole (Float.ofInt n) = true ∧ truncate? (Float.ofInt n) = some n := by
  rcases unpack_ofInt_of_isWhole hwhole hn with ⟨rfl, -⟩ | ⟨hunpack, -⟩
  · exact ⟨rfl, rfl⟩
  · have habs : (Float.ofInt n).abs = x.abs :=
      congrArg (fun u => Float.ofModel (Float.Model.pack (UnpackedFloat.abs u))) hunpack
    have hinteger : isInteger (Float.ofInt n) = isInteger x := by rw [isInteger, isInteger, hunpack]
    have htruncate : truncate? (Float.ofInt n) = truncate? x := by
      rw [truncate?, truncate?, hunpack]
    exact ⟨by rw [Cell.isWhole, hinteger, habs]; exact hwhole, htruncate.trans hn⟩

end Databook.Decimal
