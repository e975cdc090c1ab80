import Databook.Proofs.Decimal.Whole
import Databook.Proofs.Json.Decode

/-!
# Numbers that are read are finite

The value of a numeral is worked out in doubles, by multiplying or dividing by powers of ten. Powers
that are too large are infinities; still the value is finite whenever there is one
(`isFinite_of_value?`), since a product that is infinite is refused and all that is ever divided by
is at least two.
-/

namespace Databook.Json

open Decimal
open Float.Model (UnpackedFloat totalExponent)
open Float.Model.UnpackedFloat

/-! ### Powers of ten -/

/-- Is the double at least two? -/
def isAtLeastTwo (x : Float) : Bool :=
  match x.toModel.unpack with
  | .infinity .positive => true
  | .finite .positive m e _ => 2 ≤ totalExponent m e
  | _ => false

theorem cases_of_isAtLeastTwo {x : Float} (h : isAtLeastTwo x = true) :
    x.toModel.unpack = .infinity .positive ∨
      ∃ m e hm, x.toModel.unpack = .finite .positive m e hm ∧ 2 ≤ totalExponent m e := by
  unfold isAtLeastTwo at h
  split at h
  · next hx => exact .inl hx
  · next m e hm hx => exact .inr ⟨m, e, hm, hx, of_decide_eq_true h⟩
  · cases h

/-- The powers of ten that are exact are taken from a table. -/
theorem isAtLeastTwo_exact :
    ∀ k : Fin 23, 1 ≤ k.val → isAtLeastTwo (Float.ofScientific 1 false k) = true := by
  decide +kernel

theorem isAtLeastTwo_power {k : Nat} (hk : 1 ≤ k) :
    isAtLeastTwo (Float.ofScientific 1 false k) = true := by
  by_cases htable : k ≤ 22
  · exact isAtLeastTwo_exact ⟨k, by omega⟩ hk
  by_cases hlarge : 2048 < k
  · have hunpack : (Float.ofScientific 1 false k).toModel.unpack = .infinity .positive := by
      have hslow : ¬ (1 < 2 ^ 53 ∧ k ≤ 22) := fun h => htable h.2
      have hexponent : (k : Int) > 2 ^ 11 := by omega
      have hmodel : (Float.ofModel (Float.Model.ofScientific 1 (Int.ofNat k))).toModel.unpack
          = unpack binary64 (pack binary64 (UnpackedFloat.ofScientific binary64 1 k)) := rfl
      rw [Float.ofScientific, dif_neg hslow]
      simp only [Bool.false_eq_true, if_false]
      rw [hmodel, UnpackedFloat.ofScientific, dif_neg (by decide), if_pos hexponent]
      rfl
    simp [isAtLeastTwo, hunpack]
  · have hten : 10 ≤ 10 ^ k := Nat.le_self_pow (by omega) 10
    have hlog : 1 ≤ (10 ^ k).log2 := (Nat.le_log2 (by omega)).2 (by omega)
    have hcoefficient : 1 <<< 53 * 10 ^ k = 10 ^ k * 2 ^ 53 := Nat.mul_comm _ _
    have htotal : 2 ≤ totalExponent (1 <<< 53 * 10 ^ k) (-53) := by
      rw [hcoefficient, totalExponent, log2_mul_pow (by omega)]
      omega
    have hunpack := unpack_ofScientific Nat.one_ne_zero (fun h => htable h.2) (Nat.le_of_not_lt hlarge)
    obtain ⟨m, e, hm, hround, hcanonical, hle⟩ := roundWithAccuracy_full .positive .exact
      (by omega : 2 ^ 52 ≤ 1 <<< 53 * 10 ^ k) (by omega : -1021 ≤ totalExponent _ (-53))
    rw [hround] at hunpack
    by_cases he : e ≤ 971
    · rw [unpack_pack_finite _ _ hcanonical he] at hunpack
      simp only [isAtLeastTwo, hunpack, decide_eq_true_eq]
      omega
    · rw [unpack_pack_of_large _ _ (by omega)] at hunpack
      simp [isAtLeastTwo, hunpack]

/-! ### Scaling -/

theorem totalExponent_le {m : Nat} {e : Int} (h : Canonical m e) (he : e ≤ 971) :
    totalExponent m e ≤ 1024 := by
  have hlog : m.log2 < 53 := by
    by_cases hm : m = 0
    · simp [hm]
    · exact (Nat.log2_lt hm).2 h.lt
  unfold totalExponent
  omega

theorem log2_div_le (m : Nat) {m' : Nat} (hm' : 0 < m') : (m / m').log2 ≤ m.log2 - m'.log2 := by
  by_cases hq : m / m' = 0
  · simp [hq]
  have hm : m ≠ 0 := by
    rintro rfl
    simp at hq
  have hle : 2 ^ ((m / m').log2 + m'.log2) ≤ m := by
    calc 2 ^ ((m / m').log2 + m'.log2)
        = 2 ^ (m / m').log2 * 2 ^ m'.log2 := Nat.pow_add ..
      _ ≤ m / m' * m' := Nat.mul_le_mul (Nat.log2_self_le hq) (Nat.log2_self_le hm'.ne')
      _ ≤ m := Nat.div_mul_le_self m m'
  have hlog := (Nat.le_log2 hm).2 hle
  omega

/-- The first bit of a quotient. -/
theorem totalExponent_divCore (m m' : Nat) (e e' : Int) (hm : 0 < m) (hm' : 0 < m') :
    let q := divCore binary64 m e m' e'
    max (max q.2.1 (-1074)) (totalExponent q.1 q.2.1 - 52)
      ≤ max (-1074) (totalExponent m e - totalExponent m' e' - 51) := by
  intro q
  have hq : q.1 = m <<< (e - e' - q.2.1).toNat / m' := rfl
  have htarget : q.2.1 = min (e - e') (max (totalExponent m e - totalExponent m' e' - 53) (-1074)) :=
    rfl
  have hlog := log2_div_le (m <<< (e - e' - q.2.1).toNat) hm'
  rw [← hq, Nat.shiftLeft_eq, log2_mul_pow hm] at hlog
  unfold totalExponent at htarget ⊢
  omega

/-- Dividing by two or more keeps doubles finite. -/
theorem isFinite_div {x y : Float} (hx : x.isFinite = true) (hy : isAtLeastTwo y = true) :
    (x / y).isFinite = true := by
  rw [isFinite_eq, unpack_div]
  rcases finite_cases hx with ⟨s, hx⟩ | ⟨s, m, e, hm, hx, hcanonical, he⟩
  · rcases cases_of_isAtLeastTwo hy with hy | ⟨m, e, hm, hy, htwo⟩
    · rw [hx, hy, UnpackedFloat.div, unpack_pack_zero]
      rfl
    · rw [hx, hy, UnpackedFloat.div, unpack_pack_zero]
      rfl
  · rcases cases_of_isAtLeastTwo hy with hy | ⟨m', e', hm', hy, htwo⟩
    · rw [hx, hy, UnpackedFloat.div, unpack_pack_zero]
      rfl
    · have hbound := totalExponent_divCore m m' e e' hm hm'
      have hle := totalExponent_le hcanonical he
      rw [hx, hy, UnpackedFloat.div]
      rcases exponent_roundWithAccuracy (s / .positive) (divCore binary64 m e m' e').1
        (divCore binary64 m e m' e').2.1 (divCore binary64 m e m' e').2.2
        with h | ⟨m'', e'', hm'', h, he''⟩
      · simp only [h, unpack_pack_zero]
        rfl
      · simp only [h]
        exact isFinite_unpack_pack _ hm'' (by omega)

theorem beq_zero_of_unpack {x : Float} {s : Sign} (h : x.toModel.unpack = .zero s) :
    (x == 0) = true := by
  have hbeq : (x == 0) = (x.toModel.unpack.compare (.zero .positive) == some .eq) := rfl
  rw [hbeq, h]
  rfl

/-- A product with a power of ten is finite unless it is infinite. -/
theorem isFinite_mul {x : Float} {k : Nat} (hx : x.isFinite = true) (hne : (x == 0) = false)
    (hinf : (x * Float.ofScientific 1 false k).isInf = false) :
    (x * Float.ofScientific 1 false k).isFinite = true := by
  obtain ⟨s, m, e, hm, hx, -⟩ : ∃ s m e hm, x.toModel.unpack = .finite s m e hm ∧ _ := by
    refine (finite_cases hx).resolve_left ?_
    rintro ⟨s, hzero⟩
    rw [beq_zero_of_unpack hzero] at hne
    cases hne
  have hpower : (Float.ofScientific 1 false k).toModel.unpack = .infinity .positive ∨
      ∃ m e hm, (Float.ofScientific 1 false k).toModel.unpack = .finite .positive m e hm := by
    by_cases hk : 1 ≤ k
    · rcases cases_of_isAtLeastTwo (isAtLeastTwo_power hk) with h | ⟨m, e, hm, h, -⟩
      · exact .inl h
      · exact .inr ⟨m, e, hm, h⟩
    · obtain rfl : k = 0 := by omega
      exact .inr ⟨_, _, _, rfl⟩
  have hproduct := unpack_mul x (Float.ofScientific 1 false k)
  have hisInf : (x * Float.ofScientific 1 false k).toModel.unpack.isInf = false := hinf
  rw [isFinite_eq]
  rw [hproduct, hx] at hisInf ⊢
  rcases hpower with hpower | ⟨m', e', hm', hpower⟩
  · rw [hpower, UnpackedFloat.mul] at hisInf
    cases s <;> cases hisInf
  · rw [hpower, UnpackedFloat.mul] at hisInf ⊢
    rcases exponent_roundWithAccuracy (s * .positive) (m * m') (e + e') .exact
      with h | ⟨m'', e'', hm'', h, -⟩
    · rw [h, unpack_pack_zero]
      rfl
    · rw [h] at hisInf ⊢
      by_cases he : e'' ≤ 971
      · exact isFinite_unpack_pack _ hm'' he
      · rw [unpack_pack_of_large _ _ (by omega)] at hisInf
        cases hisInf

theorem isFinite_shrink (n : Nat) {x : Float} (hx : x.isFinite = true) (e : Int) :
    (Numeral.shrink n x e).1.isFinite = true := by
  induction n generalizing x e with
  | zero => exact hx
  | succ n ih =>
    unfold Numeral.shrink
    split
    · exact ih (isFinite_div hx (isAtLeastTwo_power (by omega : 1 ≤ 308))) _
    · exact hx

theorem isFinite_scale {coefficient : Nat} {exponent : Int} {x : Float}
    (hlt : coefficient < 2 ^ 64) (h : Numeral.scale coefficient exponent = some x) :
    x.isFinite = true := by
  have hshrink := isFinite_shrink 4 (isFinite_ofNat hlt) exponent
  unfold Numeral.scale at h
  generalize Numeral.shrink 4 (Float.ofNat coefficient) exponent = p at h hshrink
  obtain ⟨y, e⟩ := p
  simp only at h
  split at h
  · cases h
    exact hshrink
  · next hne =>
    split at h
    · cases h
      exact isFinite_div hshrink (isAtLeastTwo_power (by omega))
    · split at h
      · split at h
        · cases h
        · next hinf =>
          cases h
          exact isFinite_mul hshrink (Bool.not_eq_true _ ▸ hne) (Bool.not_eq_true _ ▸ hinf)
      · cases h

/-- A number that is read is finite. -/
theorem isFinite_of_value? {n : Numeral} {value : Number} (h : n.value? = some value) :
    value.toFloat.isFinite = true := by
  have hshort := absorb_lt (n := 0) (by decide) n.whole
  have hcoefficient := absorb_lt hshort n.fraction
  cases value with
  | integer i =>
    have hfits := fitsInt64_of_value? h
    unfold FitsInt64 at hfits
    exact isFinite_ofInt (by omega)
  | double x =>
    have hsigned : ∀ y : Float, y.isFinite = true →
        (if n.negative then -y else y).isFinite = true := by
      intro y hy
      split
      · exact isFinite_neg hy
      · exact hy
    unfold Numeral.value? at h
    simp only at h
    split at h
    · split at h
      · cases h
      · split at h
        · cases h
        · cases h
          exact hsigned _ (isFinite_ofNat hcoefficient)
    · obtain ⟨y, hy, hx⟩ := Option.map_eq_some_iff.1 h
      cases hx
      exact hsigned y (isFinite_scale hcoefficient hy)

/-! ### What is read -/

open Decoder

/-- The numbers that are read fit. -/
theorem fits_of_value? {m : Numeral} {n : Number} (h : m.value? = some n) : n.Fits := by
  cases n with
  | integer n => exact fitsInt64_of_value? h
  | double x =>
    have hfinite := isFinite_of_value? h
    rwa [Number.toFloat] at hfinite

theorem Number.Fits.isFinite {n : Number} (h : n.Fits) : n.toFloat.isFinite = true := by
  cases n with
  | integer n =>
    have hfits : FitsInt64 n := h
    unfold FitsInt64 at hfits
    exact isFinite_ofInt (by omega)
  | double x => exact h

mutual

/-- What is read is settled. -/
theorem settled_of_any {room : Nat} (d : Draft) {j : Json} (h : any room d = .ok j) :
    Settled room j := by
  cases d with
  | null => cases h; trivial
  | bool b => cases h; trivial
  | number m =>
    simp only [any] at h
    split at h
    · next n hn =>
      cases h
      exact fits_of_value? hn
    · cases h
  | string s =>
    cases s with
    | none => cases h
    | some s => cases h; trivial
  | array items closed =>
    simp only [any] at h
    obtain ⟨room', hroom, h⟩ := exists_of_bind_ok h
    obtain ⟨hle, rfl⟩ := le_of_enter hroom
    obtain ⟨js, hjs, h⟩ := exists_of_bind_ok h
    obtain ⟨-, -, h⟩ := exists_of_bind_ok h
    cases h
    exact ⟨hle, settled_of_anyItems items hjs⟩
  | object fields closed =>
    simp only [any] at h
    obtain ⟨room', hroom, h⟩ := exists_of_bind_ok h
    obtain ⟨hle, rfl⟩ := le_of_enter hroom
    obtain ⟨js, hjs, h⟩ := exists_of_bind_ok h
    obtain ⟨-, -, h⟩ := exists_of_bind_ok h
    cases h
    refine ⟨hle, (IdMap.ofList js).increasing, settledFields_iff.2 fun field hfield => ?_⟩
    exact settledFields_iff.1 (settled_of_anyFields fields hjs) field
      (IdMap.mem_of_mem_entries_ofList hfield)
  | broken => cases h

theorem settled_of_anyItems {room : Nat} (ds : List Draft) {js : List Json}
    (h : anyItems room ds = .ok js) : SettledItems room js := by
  match ds with
  | [] => cases h; trivial
  | d :: ds =>
    simp only [anyItems] at h
    obtain ⟨j, hj, h⟩ := exists_of_bind_ok h
    obtain ⟨js, hjs, h⟩ := exists_of_bind_ok h
    cases h
    exact ⟨settled_of_any d hj, settled_of_anyItems ds hjs⟩

theorem settled_of_anyFields {room : Nat} (ds : List (Option String × Draft))
    {fields : List (String × Json)} (h : anyFields room ds = .ok fields) :
    SettledFields room fields := by
  match ds with
  | [] => cases h; trivial
  | (name, d) :: ds =>
    simp only [anyFields] at h
    obtain ⟨name, -, h⟩ := exists_of_bind_ok h
    obtain ⟨j, hj, h⟩ := exists_of_bind_ok h
    obtain ⟨js, hjs, h⟩ := exists_of_bind_ok h
    cases h
    exact ⟨settled_of_any d hj, settled_of_anyFields ds hjs⟩

end

theorem isFinite_of_any {room : Nat} {d : Draft} {n : Number}
    (h : any room d = .ok (.number n)) : n.toFloat.isFinite = true := by
  have hsettled := settled_of_any d h
  rw [Settled] at hsettled
  exact hsettled.isFinite

end Databook.Json
