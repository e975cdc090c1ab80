import Databook.Proofs.Decimal.Interval
import Databook.Proofs.Json.Scale

/-!
# The texts of numbers are numerals

What is written for an integer or for a finite double is a numeral from its start to its end
(`Number.isLegible_integer`, `Number.isLegible_double`). For a double this does not say that the
numeral is read as the double again, since reading rounds more than once.

Before any rounding the numeral stands for a number (`Numeral.exact`). It is the integer that the
numeral was written for (`Number.spells_integer`), or one that stands for the double
(`Number.exists_spells_double`).
-/

namespace Databook.Json

open Decimal

namespace Numeral

/-- Is this a text of digits? -/
def AllDigits (cs : List Char) : Prop := ∀ c ∈ cs, c.isDigit = true

/-- Is this the whole part of a numeral? It has no leading zero. -/
structure IsWhole (cs : List Char) : Prop where
  digits : AllDigits cs
  nonempty : cs ≠ []
  lead : cs.length = 1 ∨ cs.head? ≠ some '0'

/-- The number that a numeral stands for without its sign, as it is written and before any rounding. -/
def magnitude (m : Numeral) : ℚ :=
  digitsValue (m.whole ++ m.fraction) * 10 ^ (m.exponent.getD 0 - m.fraction.length)

/-- The number that a numeral stands for. -/
def exact (m : Numeral) : ℚ := if m.negative then -m.magnitude else m.magnitude

/-- Is the text a numeral without a sign that stands for the number, from its start to its end? -/
def Spells (cs : List Char) (q : ℚ) : Prop :=
  ∀ negative start, ∃ m, unsigned? negative start cs = some (m, start + cs.length) ∧
    m.negative = negative ∧ m.magnitude = q

theorem allDigits_append {cs cs' : List Char} (h : AllDigits cs) (h' : AllDigits cs') :
    AllDigits (cs ++ cs') := List.forall_mem_append.2 ⟨h, h'⟩

theorem allDigits_replicate (n : Nat) : AllDigits (List.replicate n '0') := by
  intro c hc
  rw [List.eq_of_mem_replicate hc]
  rfl

theorem allDigits_toDigits (n : Nat) : AllDigits (Nat.toDigits 10 n) := fun _ hc =>
  Nat.isDigit_of_mem_toDigits (by decide) (by decide) hc

theorem takeWhile_isDigit {digits rest : List Char} (h : AllDigits digits)
    (hrest : ∀ c ∈ rest.head?, c.isDigit = false) :
    (digits ++ rest).takeWhile Char.isDigit = digits := by
  rw [List.takeWhile_append_of_pos h]
  cases rest with
  | nil => simp
  | cons c rest =>
    have hc : c.isDigit = false := hrest c rfl
    simp [hc]

/-! ### Digits -/

theorem digitsValue_append (cs cs' : List Char) :
    digitsValue (cs ++ cs') = 10 ^ cs'.length * digitsValue cs + digitsValue cs' := by
  have hvalue (cs : List Char) : digitsValue cs = Nat.ofDigitChars 10 cs 0 := rfl
  rw [hvalue, hvalue, hvalue, Nat.ofDigitChars_append, Nat.ofDigitChars_eq_ofDigitChars_zero]

theorem digitsValue_replicate (n : Nat) : digitsValue (List.replicate n '0') = 0 :=
  Nat.ofDigitChars_replicate_zero

theorem digitsValue_toDigits (n : Nat) : digitsValue (Nat.toDigits 10 n) = n :=
  Nat.ofDigitChars_ten_toDigits

/-! ### The parts of a numeral -/

/-- A numeral is a whole part, what is read as a fraction and what is read as an exponent. -/
theorem spells_of_parts {whole rest fraction : List Char} {size exponentSize : Nat}
    {exponent : Option Int} {q : ℚ} (hwhole : IsWhole whole)
    (hrest : ∀ c ∈ rest.head?, c.isDigit = false) (hfraction : fraction? rest = some (fraction, size))
    (hexponent : exponent? (rest.drop size) = some (exponent, exponentSize))
    (hsize : size + exponentSize = rest.length)
    (hvalue : digitsValue (whole ++ fraction) * 10 ^ (exponent.getD 0 - fraction.length) = q) :
    Spells (whole ++ rest) q := by
  intro negative start
  have hguard : (!whole.isEmpty && (whole.length == 1 || whole.head? != some '0')) = true := by
    have hempty : whole.isEmpty = false := List.isEmpty_eq_false_iff.2 hwhole.nonempty
    rw [hempty, Bool.not_false, Bool.true_and, Bool.or_eq_true]
    exact hwhole.lead.imp beq_iff_eq.2 bne_iff_ne.2
  refine ⟨⟨negative, whole, fraction, exponent⟩, ?_, rfl, hvalue⟩
  have hlength : start + (whole ++ rest).length = start + whole.length + size + exponentSize := by
    rw [List.length_append]
    omega
  unfold unsigned?
  simp only [takeWhile_isDigit hwhole.digits hrest, hguard, List.drop_left, hfraction, guard,
    if_true, Option.bind_eq_bind, Option.bind_some, hexponent, hlength, pure]

theorem fraction?_point {digits rest : List Char} (h : AllDigits digits) (hne : digits ≠ [])
    (hrest : ∀ c ∈ rest.head?, c.isDigit = false) :
    fraction? ('.' :: (digits ++ rest)) = some (digits, digits.length + 1) := by
  have hempty : digits.isEmpty = false := List.isEmpty_eq_false_iff.2 hne
  simp only [fraction?, takeWhile_isDigit h hrest, hempty, Bool.false_eq_true, if_false]

theorem exponent?_signed (exponent : Int) :
    exponent? ('e' :: (if exponent < 0 then '-' else '+') :: Nat.toDigits 10 exponent.natAbs)
      = some (some exponent, (Nat.toDigits 10 exponent.natAbs).length + 2) := by
  have hempty : (Nat.toDigits 10 exponent.natAbs).isEmpty = false :=
    List.isEmpty_eq_false_iff.2 Nat.toDigits_ne_nil
  have hall := takeWhile_toDigits exponent.natAbs
  have hvalue := digitsValue_toDigits exponent.natAbs
  split
  · next hneg => simp [exponent?, hall, hempty, hvalue, abs_of_neg hneg]
  · next hneg => simp [exponent?, hall, hempty, hvalue, abs_of_nonneg (Int.le_of_not_gt hneg)]

/-- Digits with a point between them. -/
theorem spells_point {whole fraction : List Char} {q : ℚ} (hwhole : IsWhole whole)
    (h : AllDigits fraction) (hne : fraction ≠ [])
    (hvalue : digitsValue (whole ++ fraction) * 10 ^ (-fraction.length : Int) = q) :
    Spells (whole ++ '.' :: fraction) q := by
  have hfraction : fraction? ('.' :: fraction) = some (fraction, fraction.length + 1) := by
    have hpoint : fraction? ('.' :: (fraction ++ [])) = some (fraction, fraction.length + 1) :=
      fraction?_point h hne (by simp)
    rwa [List.append_nil] at hpoint
  have hexponent : exponent? (('.' :: fraction).drop (fraction.length + 1)) = some (none, 0) := by
    rw [List.drop_eq_nil_of_le (by simp)]
    rfl
  refine spells_of_parts hwhole (by simp) hfraction hexponent rfl ?_
  rwa [Option.getD_none, zero_sub]

end Numeral

/-! ### Doubles -/

open Numeral

section Layout

variable {digits : List Char}

theorem isWhole_zero : IsWhole ['0'] := ⟨by simp [AllDigits], by simp, .inl rfl⟩

/-- Digits with a point after the first `point` of them. -/
theorem spells_positional (h : IsWhole digits) (hlead : digits.head? ≠ some '0') (point : Int) :
    Spells (positional digits point ".0") (digitsValue digits * 10 ^ (point - digits.length)) := by
  unfold positional
  split
  · -- all digits are behind the point
    show Spells (['0'] ++ '.' :: (List.replicate (-point).toNat '0' ++ digits)) _
    refine spells_point isWhole_zero (allDigits_append (allDigits_replicate _) h.digits) ?_ ?_
    · simp [h.nonempty]
    · have hzeros : digitsValue (['0'] ++ (List.replicate (-point).toNat '0' ++ digits))
          = digitsValue digits := by
        rw [digitsValue_append, digitsValue_append, digitsValue_replicate]
        simp [digitsValue]
      rw [hzeros, List.length_append, List.length_replicate]
      congr 2
      omega
  · next hpos =>
    split
    · next hlength =>
      -- all digits are before the point
      show Spells (digits ++ List.replicate (point.toNat - digits.length) '0' ++ '.' :: ['0']) _
      refine spells_point ⟨?_, by simp [h.nonempty], .inr ?_⟩ isWhole_zero.digits (by simp) ?_
      · exact allDigits_append h.digits (allDigits_replicate _)
      · rwa [List.head?_append_of_ne_nil _ h.nonempty]
      · have hzeros : digitsValue (digits ++ List.replicate (point.toNat - digits.length) '0' ++ ['0'])
            = 10 * (10 ^ (point.toNat - digits.length) * digitsValue digits) := by
          rw [digitsValue_append, digitsValue_append, digitsValue_replicate, List.length_replicate]
          simp [digitsValue]
        have hpower : (10 : ℚ) ^ (point - digits.length) = 10 ^ (point.toNat - digits.length) := by
          rw [← zpow_natCast]
          congr 1
          omega
        rw [hzeros, hpower]
        push_cast
        simp
        ring
    · next hlength =>
      have hne : point.toNat ≠ 0 := by omega
      refine spells_point ⟨fun c hc => h.digits c (List.mem_of_mem_take hc), ?_, .inr ?_⟩
        (fun c hc => h.digits c (List.mem_of_mem_drop hc)) ?_ ?_
      · simp [h.nonempty, hne]
      · rwa [List.head?_take, if_neg hne]
      · rw [ne_eq, List.drop_eq_nil_iff]
        omega
      · rw [List.take_append_drop, List.length_drop]
        congr 2
        omega

/-- Digits with a point after the first of them, and an exponent. -/
theorem spells_scientific (h : IsWhole digits) (exponent : Int) :
    Spells (scientific digits exponent "+")
      (digitsValue digits * 10 ^ (exponent - (digits.length - 1 : Nat))) := by
  have hfirst : IsWhole (digits.take 1) := by
    refine ⟨fun c hc => h.digits c (List.mem_of_mem_take hc), by simp [h.nonempty], .inl ?_⟩
    have hlength := List.length_pos_iff.2 h.nonempty
    rw [List.length_take]
    omega
  have hall : AllDigits (digits.drop 1) := fun c hc => h.digits c (List.mem_of_mem_drop hc)
  have hsign : (if exponent < 0 then ['-'] else "+".toList)
      = [if exponent < 0 then '-' else '+'] := by
    split <;> rfl
  have hexponent := exponent?_signed exponent
  unfold scientific
  rw [hsign]
  simp only [List.append_assoc, List.cons_append, List.nil_append]
  split
  · next hlength =>
    -- there is one digit, and no point
    refine spells_of_parts hfirst (by simp) rfl hexponent (by simp) ?_
    have hone : digits.length = 1 := by
      have := List.length_pos_iff.2 h.nonempty
      omega
    rw [List.append_nil, List.take_of_length_le hlength, hone]
    rfl
  · next hlength =>
    have hne : digits.drop 1 ≠ [] := by
      rw [ne_eq, List.drop_eq_nil_iff]
      exact hlength
    rw [List.cons_append]
    refine spells_of_parts hfirst (by simp) (fraction?_point hall hne (by simp))
      (Eq.trans ?_ hexponent) ?_ ?_
    · rw [List.drop_succ_cons, List.drop_left]
    · simp only [List.length_cons, List.length_append]
      omega
    · rw [List.take_append_drop, List.length_drop]
      rfl

/-- A decimal other than zero is written as a numeral that stands for it. -/
theorem spells_writeDecimal {d : Scaled} (h : 0 < d.coefficient) :
    Spells (Layout.jsonNumber.writeDecimal d) d.value := by
  have hlead := head?_toDigits_ne h
  have hlength : 0 < (Nat.toDigits 10 d.coefficient).length :=
    List.length_pos_iff.2 Nat.toDigits_ne_nil
  have hwhole : IsWhole (Nat.toDigits 10 d.coefficient) :=
    ⟨allDigits_toDigits _, Nat.toDigits_ne_nil, .inr hlead⟩
  unfold Layout.writeDecimal
  simp only
  split
  · have hspells := spells_positional hwhole hlead
      ((Nat.toDigits 10 d.coefficient).length + d.exponent)
    rwa [digitsValue_toDigits, add_sub_cancel_left] at hspells
  · have hspells := spells_scientific hwhole ((Nat.toDigits 10 d.coefficient).length + d.exponent - 1)
    have hexponent : ((Nat.toDigits 10 d.coefficient).length + d.exponent - 1
        - ((Nat.toDigits 10 d.coefficient).length - 1 : Nat) : Int) = d.exponent := by
      omega
    rwa [digitsValue_toDigits, hexponent] at hspells

end Layout

/-! ### Numbers -/

namespace Number

/-- Is the text of the number a numeral that stands for `q`? -/
def Spells (n : Number) (q : ℚ) : Prop := n.IsLegible ∧ n.numeral.exact = q

theorem spells_of_at? {n : Number} {m : Numeral}
    (h : Numeral.at? n.toChars = some (m, n.toChars.length)) : n.Spells m.exact := by
  have hnumeral : n.numeral = m := by rw [numeral, h]
  exact ⟨isLegible_of_at? h, by rw [hnumeral]⟩

/-- A numeral without a sign is also one behind a minus sign. -/
theorem spells_of_toChars {n : Number} {cs : List Char} {q : ℚ} (negative : Bool)
    (h : Numeral.Spells cs q) (hchars : n.toChars = if negative then '-' :: cs else cs) :
    n.Spells (if negative then -q else q) := by
  cases negative with
  | true =>
    obtain ⟨m, hm, hsign, rfl⟩ := h true 1
    have hexact : m.exact = -m.magnitude := by rw [exact, hsign, if_pos rfl]
    rw [if_pos rfl] at hchars ⊢
    rw [← hexact]
    refine spells_of_at? ?_
    rw [hchars, at?_minus, hm, List.length_cons, Nat.add_comm]
  | false =>
    obtain ⟨m, hm, hsign, rfl⟩ := h false 0
    have hexact : m.exact = m.magnitude := by rw [exact, hsign, if_neg Bool.false_ne_true]
    have hminus : ∀ rest, cs ≠ '-' :: rest := by
      rintro rest rfl
      cases hm
    rw [if_neg Bool.false_ne_true] at hchars ⊢
    rw [← hexact]
    refine spells_of_at? ?_
    rw [hchars, at?_of_ne hminus, hm, Nat.zero_add]

theorem spells_integer (n : Int) : (integer n).Spells n := by
  have hdigits : Numeral.Spells (Nat.toDigits 10 n.natAbs) n.natAbs := fun negative start =>
    ⟨_, unsigned?_toDigits negative start n.natAbs, rfl, by simp [magnitude, digitsValue_toDigits]⟩
  have hspells := spells_of_toChars (n := integer n) (decide (n < 0)) hdigits (by
    by_cases hneg : n < 0 <;> simp [toChars, hneg])
  have hvalue : (if decide (n < 0) = true then -(n.natAbs : ℚ) else n.natAbs) = n := by
    by_cases hneg : n < 0
    · simp [hneg, abs_of_neg]
    · simp [hneg, abs_of_nonneg (Int.le_of_not_gt hneg)]
  rwa [hvalue] at hspells

/-- What is written for a finite double stands for it. -/
theorem exists_spells_double {x : Float} (h : x.isFinite = true) :
    ∃ q, (double x).Spells q ∧ Denotes q x := by
  rcases finite_cases h with ⟨s, hx⟩ | ⟨s, m, e, hm, hx, hcanonical, -⟩
  · have hzero : Numeral.Spells (Layout.jsonNumber.writeDecimal ⟨0, 0⟩) 0 :=
      spells_point isWhole_zero isWhole_zero.digits (by simp) (zero_mul _)
    refine ⟨0, ?_, (denotes_of_zero hx).2 rfl⟩
    cases s
    · simpa using spells_of_toChars (n := double x) true hzero (by simp [toChars, Layout.write, hx])
    · exact spells_of_toChars (n := double x) false hzero (by simp [toChars, Layout.write, hx])
  · have hspells := spells_writeDecimal (Shortest.coefficient_ofFinite_pos hm hcanonical.le)
    refine ⟨_, ?_, denotes_ofFinite hx⟩
    cases s
    · exact spells_of_toChars (n := double x) true hspells (by simp [toChars, Layout.write, hx])
    · exact spells_of_toChars (n := double x) false hspells (by simp [toChars, Layout.write, hx])

theorem isLegible_integer (n : Int) : (integer n).IsLegible := (spells_integer n).1

theorem isLegible_double {x : Float} (h : x.isFinite = true) : (double x).IsLegible := by
  obtain ⟨q, hspells, -⟩ := exists_spells_double h
  exact hspells.1

/-- The text of a number that fits is a numeral. -/
theorem Fits.isLegible {n : Number} (h : n.Fits) : n.IsLegible := by
  cases n with
  | integer n => exact isLegible_integer n
  | double x => exact isLegible_double h

end Number

end Databook.Json
