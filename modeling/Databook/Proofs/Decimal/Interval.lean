import Databook.Proofs.Decimal.Shortest
import Databook.Proofs.Decimal.Whole

/-!
# Shortest decimals tell doubles apart

The interval of a double holds the numbers that round to it (`Span.Covers`). The intervals of two
doubles have no number in common, for an end that they share belongs to the one with the even mantissa
(`eq_of_covers`). The shortest decimal of a double lies in its interval (`covers_ofFinite`): with
seventeen digits the points of the grid are closer together than the ends of the interval, so that one
of the two next to the double is inside.

So a number stands for one double at most, but for the sign of zero (`beq_of_denotes`).
-/

namespace Databook.Decimal

/-- The number that a decimal stands for. -/
def Scaled.value (d : Scaled) : ℚ := d.coefficient * 10 ^ d.exponent

namespace Shortest

/-- Does the number round to the double of the interval? -/
def Span.Covers (s : Span) (q : ℚ) : Prop :=
  if s.closed then (s.lower : ℚ) ≤ q * s.den ∧ q * s.den ≤ s.upper
  else (s.lower : ℚ) < q * s.den ∧ q * s.den < s.upper

theorem zpow_mul_pow {b : ℚ} (hb : b ≠ 0) {k l : Int} {n : Nat} (h : k + n = l) :
    b ^ k * b ^ n = b ^ l := by
  rw [← zpow_natCast, ← zpow_add₀ hb, h]

/-- A power as a fraction of two powers that are no fractions. -/
theorem zpow_split {b : ℚ} (hb : b ≠ 0) (k : Int) : b ^ k * b ^ (-k).toNat = b ^ k.toNat := by
  rw [zpow_mul_pow hb (by omega : k + (-k).toNat = k.toNat), zpow_natCast]

theorem holds_iff {s : Span} {c : Nat} {k : Int} :
    s.holds c k = true ↔ s.Covers (c * 10 ^ k) := by
  have hten : (0 : ℚ) < 10 ^ (-k).toNat := by positivity
  have hpoint : ((c * 10 ^ k.toNat * s.den : Nat) : ℚ) = c * 10 ^ k * s.den * 10 ^ (-k).toNat := by
    push_cast
    rw [← zpow_split (by norm_num) k]
    ring
  have hend (n : Nat) : ((n * 10 ^ (-k).toNat : Nat) : ℚ) = n * 10 ^ (-k).toNat := by push_cast; ring
  unfold Span.holds Span.Covers
  split
  · simp only [Bool.and_eq_true, decide_eq_true_eq, ← Nat.cast_le (α := ℚ), hend, hpoint,
      mul_le_mul_iff_left₀ hten]
  · simp only [Bool.and_eq_true, decide_eq_true_eq, ← Nat.cast_lt (α := ℚ), hend, hpoint,
      mul_lt_mul_iff_left₀ hten]

/-! ### The ends of an interval -/

/-- The quarters of the gap above the double that the interval goes down. -/
def below (m : Nat) (e : Int) : Nat := if m == 2 ^ 52 && e > -1074 then 1 else 2

variable {m m' : Nat} {e e' : Int} {q : ℚ}

theorem scale_eq (e : Int) : (2 : ℚ) ^ (e - 2).toNat = 2 ^ (e - 2) * 2 ^ (2 - e).toNat := by
  rw [← zpow_split (by norm_num) (e - 2), neg_sub]

theorem four_mul_zpow (e : Int) : (4 : ℚ) * 2 ^ (e - 2) = 2 ^ e := by
  rw [show (4 : ℚ) = 2 ^ 2 by norm_num, mul_comm]
  exact zpow_mul_pow (by norm_num) (by omega)

theorem below_bounds (m : Nat) (e : Int) : 0 < below m e ∧ below m e ≤ 2 := by
  unfold below
  split <;> decide

theorem lower_eq (hm : 0 < m) (e : Int) :
    ((4 * m - below m e : Nat) : ℚ) * 2 ^ (e - 2) = m * 2 ^ e - below m e * 2 ^ (e - 2) := by
  have hbelow := (below_bounds m e).2
  rw [Nat.cast_sub (by omega), ← four_mul_zpow e]
  push_cast
  ring

theorem upper_eq (m : Nat) (e : Int) :
    ((4 * m + 2 : Nat) : ℚ) * 2 ^ (e - 2) = m * 2 ^ e + 2 * 2 ^ (e - 2) := by
  rw [← four_mul_zpow e]
  push_cast
  ring

theorem gap_below_pos (m : Nat) (e : Int) : (0 : ℚ) < below m e * 2 ^ (e - 2) := by
  have hbelow : (0 : ℚ) < below m e := Nat.cast_pos.2 (below_bounds m e).1
  positivity

/-- The ends in quarters of the gap above the double. -/
theorem covers_span : (span m e).Covers q ↔
    if m % 2 == 0 then
      ((4 * m - below m e : Nat) : ℚ) * 2 ^ (e - 2) ≤ q ∧ q ≤ (4 * m + 2 : Nat) * 2 ^ (e - 2)
    else ((4 * m - below m e : Nat) : ℚ) * 2 ^ (e - 2) < q ∧ q < (4 * m + 2 : Nat) * 2 ^ (e - 2) := by
  have hden : (0 : ℚ) < 2 ^ (2 - e).toNat := by positivity
  have hend (n : Nat) : ((n * 2 ^ (e - 2).toNat : Nat) : ℚ) = n * 2 ^ (e - 2) * 2 ^ (2 - e).toNat := by
    rw [Nat.cast_mul, Nat.cast_pow, Nat.cast_ofNat, scale_eq, mul_assoc]
  have hden' : (((span m e).den : Nat) : ℚ) = 2 ^ (2 - e).toNat := by
    show ((2 ^ (2 - e).toNat : Nat) : ℚ) = _
    push_cast
    rfl
  have hlower : (((span m e).lower : Nat) : ℚ) = _ := hend (4 * m - below m e)
  have hupper : (((span m e).upper : Nat) : ℚ) = _ := hend (4 * m + 2)
  unfold Span.Covers
  rw [hden', hlower, hupper]
  simp only [mul_le_mul_iff_left₀ hden, mul_lt_mul_iff_left₀ hden]
  rfl

theorem covers_of_between (hlow : ((4 * m - below m e : Nat) : ℚ) * 2 ^ (e - 2) < q)
    (hhigh : q < (4 * m + 2 : Nat) * 2 ^ (e - 2)) : (span m e).Covers q := by
  rw [covers_span]
  split
  · exact ⟨hlow.le, hhigh.le⟩
  · exact ⟨hlow, hhigh⟩

theorem ends_of_covers (h : (span m e).Covers q) :
    (((4 * m - below m e : Nat) : ℚ) * 2 ^ (e - 2) ≤ q ∧ q ≤ (4 * m + 2 : Nat) * 2 ^ (e - 2)) ∧
    (m % 2 = 1 → ((4 * m - below m e : Nat) : ℚ) * 2 ^ (e - 2) < q ∧
      q < (4 * m + 2 : Nat) * 2 ^ (e - 2)) := by
  rw [covers_span] at h
  split at h
  · next heven =>
    rw [beq_iff_eq] at heven
    exact ⟨h, fun hodd => by omega⟩
  · exact ⟨⟨h.1.le, h.2.le⟩, fun _ => h⟩

/-! ### Intervals have nothing in common -/

/-- A number in two intervals is above the lower end of the one and below the upper end of the other,
both of them in quarters of the smaller gap. -/
theorem lower_le_upper (he : e ≤ e') (h : (span m e).Covers q) (h' : (span m' e').Covers q) :
    (4 * m' - below m' e') * 2 ^ (e' - e).toNat ≤ 4 * m + 2 ∧
    (m % 2 = 1 ∨ m' % 2 = 1 → (4 * m' - below m' e') * 2 ^ (e' - e).toNat < 4 * m + 2) := by
  have hunit : (0 : ℚ) < 2 ^ (e - 2) := by positivity
  have hscale : (2 : ℚ) ^ (e' - 2) = 2 ^ (e' - e).toNat * 2 ^ (e - 2) := by
    rw [mul_comm]
    exact (zpow_mul_pow (by norm_num) (by omega)).symm
  have hlower : ((4 * m' - below m' e' : Nat) : ℚ) * 2 ^ (e' - 2)
      = ((4 * m' - below m' e') * 2 ^ (e' - e).toNat : Nat) * 2 ^ (e - 2) := by
    rw [hscale, Nat.cast_mul, Nat.cast_pow, Nat.cast_ofNat, mul_assoc]
  obtain ⟨⟨-, hle⟩, hlt⟩ := ends_of_covers h
  obtain ⟨⟨hle', -⟩, hlt'⟩ := ends_of_covers h'
  rw [hlower] at hle' hlt'
  refine ⟨?_, ?_⟩
  · rw [← Nat.cast_le (α := ℚ), ← mul_le_mul_iff_left₀ hunit]
    exact hle'.trans hle
  · intro hodd
    rw [← Nat.cast_lt (α := ℚ), ← mul_lt_mul_iff_left₀ hunit]
    rcases hodd with hodd | hodd
    · exact hle'.trans_lt (hlt hodd).2
    · exact (hlt' hodd).1.trans_le hle

/-- A number that rounds to two doubles rounds to one: the order of their exponents is given. -/
theorem eq_of_covers_of_le (he : e ≤ e') (hc : Canonical m e) (hc' : Canonical m' e')
    (h : (span m e).Covers q) (h' : (span m' e').Covers q) (hm : e = e' → m ≤ m') :
    m = m' ∧ e = e' := by
  obtain ⟨hle, hlt⟩ := lower_le_upper he h h'
  have hbelow : below m' e' = if m' = 2 ^ 52 ∧ -1074 < e' then 1 else 2 := by
    simp [below]
  have hlow := hc.le
  have hfull := hc.full
  have hfull' := hc'.full
  have hbits := hc.lt
  rcases he.eq_or_lt with heq | hexponent
  · -- neighbours share an end, and one of them is odd
    have hzero : (e' - e).toNat = 0 := by omega
    rw [hzero, Nat.pow_zero, Nat.mul_one] at hle hlt
    have hm := hm heq
    split at hbelow <;> omega
  · -- the larger exponent needs a full mantissa, and its gap is at least twice as large
    have htwice : (4 * m' - below m' e') * 2 ≤ (4 * m' - below m' e') * 2 ^ (e' - e).toNat :=
      Nat.mul_le_mul_left _ (Nat.le_self_pow (by omega) 2)
    split at hbelow <;> omega

/-- A number rounds to one double only. -/
theorem eq_of_covers (hc : Canonical m e) (hc' : Canonical m' e') (h : (span m e).Covers q)
    (h' : (span m' e').Covers q) : m = m' ∧ e = e' := by
  rcases lt_trichotomy e e' with he | he | he
  · exact eq_of_covers_of_le he.le hc hc' h h' fun heq => absurd heq he.ne
  · rcases Nat.le_total m m' with hm | hm
    · exact eq_of_covers_of_le he.le hc hc' h h' fun _ => hm
    · exact (eq_of_covers_of_le he.ge hc' hc h' h fun _ => hm).imp Eq.symm Eq.symm
  · exact (eq_of_covers_of_le he.le hc' hc h' h fun heq => absurd heq he.ne).imp Eq.symm Eq.symm

/-! ### The search finds a point of the interval -/

theorem value_span (m : Nat) (e : Int) :
    ((span m e).value : ℚ) = m * 2 ^ e * (span m e).den := by
  have hvalue : (span m e).value = 4 * m * 2 ^ (e - 2).toNat := rfl
  have hden : (span m e).den = 2 ^ (2 - e).toNat := rfl
  rw [hvalue, hden, ← four_mul_zpow]
  push_cast
  rw [scale_eq]
  ring

/-- The double lies between two points of the grid that are next to each other. -/
theorem floorAt_bounds (m : Nat) (e k : Int) :
    ((span m e).floorAt k : ℚ) * 10 ^ k ≤ m * 2 ^ e ∧
    (m : ℚ) * 2 ^ e < ((span m e).floorAt k + 1) * 10 ^ k := by
  have hden : 0 < (span m e).den := den_span_pos
  have hpositive : (0 : ℚ) < (span m e).den * 10 ^ (-k).toNat := by positivity
  have hpoint (c : ℚ) : c * ((span m e).den * 10 ^ k.toNat)
      = c * 10 ^ k * ((span m e).den * 10 ^ (-k).toNat) := by
    rw [← zpow_split (by norm_num) k]
    ring
  have hvalue : ((span m e).value * 10 ^ (-k).toNat : ℚ)
      = m * 2 ^ e * ((span m e).den * 10 ^ (-k).toNat) := by
    rw [value_span]
    ring
  have hfloor : (span m e).floorAt k * ((span m e).den * 10 ^ k.toNat)
      ≤ (span m e).value * 10 ^ (-k).toNat := Nat.div_mul_le_self _ _
  have hnext : (span m e).value * 10 ^ (-k).toNat
      < ((span m e).floorAt k + 1) * ((span m e).den * 10 ^ k.toNat) :=
    Nat.lt_mul_of_div_lt (Nat.lt_succ_self _) (Nat.mul_pos hden (Nat.pow_pos (by decide)))
  rw [← Nat.cast_le (α := ℚ)] at hfloor
  rw [← Nat.cast_lt (α := ℚ)] at hnext
  push_cast at hfloor hnext
  rw [hpoint, hvalue, mul_le_mul_iff_left₀ hpositive] at hfloor
  rw [hpoint, hvalue, mul_lt_mul_iff_left₀ hpositive] at hnext
  exact ⟨hfloor, hnext⟩

/-- The double is at least the power of ten of its leading digit. -/
theorem zpow_leading_le (hm : 0 < m) (he : -1074 ≤ e) :
    (10 : ℚ) ^ (span m e).leading ≤ m * 2 ^ e := by
  have hden : (0 : ℚ) < (span m e).den := Nat.cast_pos.2 den_span_pos
  have hten : (0 : ℚ) < 10 ^ 400 := by positivity
  have hexponent : (10 : ℚ) ^ ((span m e).leading + 400).toNat
      = 10 ^ (span m e).leading * 10 ^ 400 := by
    have hlow := neg_le_leading (s := span m e)
    rw [← zpow_natCast]
    exact (zpow_mul_pow (by norm_num) (by omega)).symm
  have hcast (a b c n : Nat) (h : 10 ^ a * b ≤ c * 10 ^ n) : (10 : ℚ) ^ a * b ≤ c * 10 ^ n := by
    exact_mod_cast h
  have hleading := hcast _ _ _ _ (pow_leading_le den_span_pos (den_le_span hm he))
  rwa [hexponent, value_span, mul_right_comm, mul_le_mul_iff_left₀ hten,
    mul_le_mul_iff_left₀ hden] at hleading

theorem covers_of_pick? {s : Span} {k : Int} {d : Scaled} (h : s.pick? k = some d) :
    s.Covers d.value := by
  unfold Span.pick? at h
  simp only at h
  split at h
  · next hfloor hnext =>
    cases h
    simp only [Scaled.value]
    split
    · exact holds_iff.1 hnext
    · exact holds_iff.1 hfloor
  · next hfloor _ =>
    cases h
    exact holds_iff.1 hfloor
  · next _ hnext =>
    cases h
    exact holds_iff.1 hnext
  · cases h

/-- On the grid of seventeen digits two points are closer together than the ends of the interval. -/
theorem zpow_leading_lt (hm : 0 < m) (hc : Canonical m e) :
    (10 : ℚ) ^ ((span m e).leading - 16) < (2 + below m e : Nat) * 2 ^ (e - 2) := by
  have hten : (0 : ℚ) < 10 ^ 16 := by positivity
  have hunit : (0 : ℚ) < 2 ^ (e - 2) := by positivity
  have hwidth : 4 * m < (2 + below m e) * 10 ^ 16 := by
    have hbits := hc.lt
    have hbelow : below m e = if m = 2 ^ 52 ∧ -1074 < e then 1 else 2 := by simp [below]
    split at hbelow <;> omega
  rw [← mul_lt_mul_iff_left₀ hten]
  calc (10 : ℚ) ^ ((span m e).leading - 16) * 10 ^ 16
    _ = 10 ^ (span m e).leading := zpow_mul_pow (by norm_num) (by omega)
    _ ≤ m * 2 ^ e := zpow_leading_le hm hc.le
    _ = (4 * m : Nat) * 2 ^ (e - 2) := by
      rw [← four_mul_zpow]
      push_cast
      ring
    _ < ((2 + below m e) * 10 ^ 16 : Nat) * 2 ^ (e - 2) := by
      rw [mul_lt_mul_iff_left₀ hunit]
      exact_mod_cast hwidth
    _ = (2 + below m e : Nat) * 2 ^ (e - 2) * 10 ^ 16 := by
      rw [Nat.cast_mul, Nat.cast_pow, Nat.cast_ofNat]
      ring

/-- Seventeen digits are enough: the point below the double or the point above it is inside. -/
theorem exists_pick? (hm : 0 < m) (hc : Canonical m e) :
    ∃ d, (span m e).pick? ((span m e).leading - 16) = some d := by
  obtain ⟨hfloor, hnext⟩ := floorAt_bounds m e ((span m e).leading - 16)
  have hstep := zpow_leading_lt hm hc
  have hlower := lower_eq hm e
  have hupper := upper_eq m e
  have hbelow := gap_below_pos m e
  have hunit : (0 : ℚ) < 2 ^ (e - 2) := by positivity
  rw [Nat.cast_add, Nat.cast_ofNat, add_mul] at hstep
  generalize hk : (span m e).leading - 16 = k at *
  generalize hcoefficient : (span m e).floorAt k = c at *
  have hsome : (span m e).holds c k = true ∨ (span m e).holds (c + 1) k = true := by
    by_cases hin : ((4 * m - below m e : Nat) : ℚ) * 2 ^ (e - 2) < c * 10 ^ k
    · refine .inl (holds_iff.2 (covers_of_between hin ?_))
      rw [hupper]
      linarith
    · refine .inr (holds_iff.2 (covers_of_between ?_ ?_))
      · rw [hlower, Nat.cast_succ]
        linarith
      · rw [hlower] at hin
        rw [hupper, Nat.cast_succ, add_mul, one_mul]
        linarith
  unfold Span.pick?
  simp only [hcoefficient]
  split
  · exact ⟨_, rfl⟩
  · exact ⟨_, rfl⟩
  · exact ⟨_, rfl⟩
  · next hfloor hnext =>
    rw [hfloor, hnext] at hsome
    rcases hsome with h | h <;> cases h

theorem value_stripZeros (n : Nat) (d : Scaled) : (stripZeros n d).value = d.value := by
  induction n generalizing d with
  | zero => rfl
  | succ n ih =>
    unfold stripZeros
    split
    · next hten =>
      have hcoefficient : (d.coefficient : ℚ) = (d.coefficient / 10 : Nat) * 10 := by
        exact_mod_cast (Nat.div_mul_cancel (Nat.dvd_of_mod_eq_zero hten.2)).symm
      rw [ih]
      simp only [Scaled.value]
      rw [zpow_add_one₀ (by norm_num), hcoefficient]
      ring
    · rfl

/-- The shortest decimal of a double rounds to it. -/
theorem covers_ofFinite (hm : 0 < m) (hc : Canonical m e) :
    (span m e).Covers (ofFinite m e).value := by
  unfold ofFinite
  simp only [value_stripZeros]
  cases hfound : (List.range 17).findSome? fun (n : Nat) => (span m e).pick? ((span m e).leading - n) with
  | none =>
    obtain ⟨d, hd⟩ := exists_pick? hm hc
    have hnone := List.findSome?_eq_none_iff.1 hfound 16 (by decide)
    rw [Nat.cast_ofNat, hd] at hnone
    cases hnone
  | some d =>
    obtain ⟨n, -, hpick⟩ := List.exists_of_findSome?_eq_some hfound
    exact covers_of_pick? hpick

/-- The double itself is in its interval. -/
theorem covers_self (hm : 0 < m) : (span m e).Covers (m * 2 ^ e) := by
  have hunit : (0 : ℚ) < 2 ^ (e - 2) := by positivity
  refine covers_of_between ?_ ?_
  · rw [lower_eq hm]
    exact sub_lt_self _ (gap_below_pos m e)
  · rw [upper_eq]
    linarith

/-- Zero is not in the interval of any other double. -/
theorem pos_of_covers (hm : 0 < m) (h : (span m e).Covers q) : 0 < q := by
  have hbelow := (below_bounds m e).2
  have hlower : (0 : ℚ) < (4 * m - below m e : Nat) := Nat.cast_pos.2 (by omega)
  have hunit : (0 : ℚ) < 2 ^ (e - 2) := by positivity
  exact (mul_pos hlower hunit).trans_le (ends_of_covers h).1.1

end Shortest

/-! ### The doubles that numbers stand for -/

open Float.Model (UnpackedFloat)

/-- A number behind a sign. -/
def signed : UnpackedFloat.Sign → ℚ → ℚ
  | .negative, q => -q
  | .positive, q => q

/-- Does the number stand for the double: zero for the zeros, and what is in its interval for any
other finite double? -/
def Denotes (q : ℚ) (x : Float) : Prop :=
  match x.toModel.unpack with
  | .zero _ => q = 0
  | .finite s m e _ => (Shortest.span m e).Covers (signed s q)
  | _ => False

theorem denotes_of_zero {x : Float} {s : UnpackedFloat.Sign} (hx : x.toModel.unpack = .zero s)
    {q : ℚ} : Denotes q x ↔ q = 0 := by
  rw [Denotes, hx]

theorem denotes_of_finite {x : Float} {s : UnpackedFloat.Sign} {m : Nat} {e : Int} {hm : 0 < m}
    (hx : x.toModel.unpack = .finite s m e hm) {q : ℚ} :
    Denotes q x ↔ (Shortest.span m e).Covers (signed s q) := by
  rw [Denotes, hx]

theorem Denotes.isFinite {x : Float} {q : ℚ} (h : Denotes q x) : x.isFinite = true := by
  rw [isFinite_eq]
  unfold Denotes at h
  split at h
  · next hx => rw [hx]; rfl
  · next hx => rw [hx]; rfl
  · cases h

theorem signed_signed (s : UnpackedFloat.Sign) (q : ℚ) : signed s (signed s q) = q := by
  cases s <;> simp [signed]

theorem signed_signedMantissa (s : UnpackedFloat.Sign) (n : Nat) :
    signed s (signedMantissa s n) = n := by
  cases s <;> simp [signed, signedMantissa]

theorem sign_eq_of_pos {s s' : UnpackedFloat.Sign} {q : ℚ} (h : 0 < signed s q)
    (h' : 0 < signed s' q) : s = s' := by
  match s, s' with
  | .positive, .positive | .negative, .negative => rfl
  | .positive, .negative | .negative, .positive =>
    simp only [signed] at h h'
    linarith

/-- Zero stands for the zeros only. -/
theorem not_denotes_zero {x : Float} {s : UnpackedFloat.Sign} {m : Nat} {e : Int} {hm : 0 < m}
    (hx : x.toModel.unpack = .finite s m e hm) : ¬ Denotes 0 x := by
  intro h
  have hzero : signed s 0 = 0 := by cases s <;> simp [signed]
  rw [denotes_of_finite hx, hzero] at h
  exact (Shortest.pos_of_covers hm h).ne rfl

/-- A number stands for one double only, but for the sign of zero. -/
theorem beq_of_denotes {q : ℚ} {x y : Float} (hx : Denotes q x) (hy : Denotes q y) :
    (x == y) = true := by
  rcases finite_cases hx.isFinite with ⟨s, hzero⟩ | ⟨s, m, e, hm, hfinite, hc, -⟩ <;>
    rcases finite_cases hy.isFinite with ⟨s', hzero'⟩ | ⟨s', m', e', hm', hfinite', hc', -⟩
  case inl.inl =>
    have hbeq : (x == y) = (x.toModel.unpack.compare y.toModel.unpack == some .eq) := rfl
    rw [hbeq, hzero, hzero']
    rfl
  case inl.inr =>
    rw [(denotes_of_zero hzero).1 hx] at hy
    exact absurd hy (not_denotes_zero hfinite')
  case inr.inl =>
    rw [(denotes_of_zero hzero').1 hy] at hx
    exact absurd hx (not_denotes_zero hfinite)
  case inr.inr =>
    have hcovers := (denotes_of_finite hfinite).1 hx
    have hcovers' := (denotes_of_finite hfinite').1 hy
    obtain rfl := sign_eq_of_pos (Shortest.pos_of_covers hm hcovers)
      (Shortest.pos_of_covers hm' hcovers')
    obtain ⟨hmantissa, hexponent⟩ := Shortest.eq_of_covers hc hc' hcovers hcovers'
    refine beq_of_unpack hy.isFinite ?_
    rw [hfinite, hfinite']
    exact finite_congr hm hmantissa hexponent

/-- The shortest decimal of a double stands for it. -/
theorem denotes_ofFinite {x : Float} {s : UnpackedFloat.Sign} {m : Nat} {e : Int} {hm : 0 < m}
    (hx : x.toModel.unpack = .finite s m e hm) :
    Denotes (signed s (Shortest.ofFinite m e).value) x := by
  rw [denotes_of_finite hx, signed_signed]
  exact Shortest.covers_ofFinite hm (canonical_of_unpack hx).1

/-- The integer of a whole double stands for it. -/
theorem denotes_of_isWhole {x : Float} {n : Int} (hwhole : Cell.isWhole x = true)
    (hn : truncate? x = some n) : Denotes n x := by
  rcases whole_cases hwhole hn with ⟨rfl, s, hx⟩ | ⟨s, k, hpos, hsmall, rfl, hx⟩
  · exact (denotes_of_zero hx).2 rfl
  · have hlog := (Nat.log2_lt hpos.ne').2 hsmall
    have hvalue : ((k * 2 ^ (52 - k.log2) : Nat) : ℚ) * 2 ^ (k.log2 - 52 : Int) = k := by
      rw [Nat.cast_mul, Nat.cast_pow, Nat.cast_ofNat, mul_assoc, mul_comm (2 ^ _),
        Shortest.zpow_mul_pow (by norm_num) (by omega : (k.log2 - 52 : Int) + (52 - k.log2 : Nat) = 0),
        zpow_zero, mul_one]
    rw [denotes_of_finite hx, signed_signedMantissa, ← hvalue]
    exact Shortest.covers_self (Nat.mul_pos hpos (Nat.two_pow_pos _))

end Databook.Decimal
