import Databook.Json.Text
import Databook.Json.Token
import Mathlib.Data.List.TakeWhile
import Mathlib.Data.Option.Basic

/-!
# Reading numbers back

A number is read up to the first character that cannot go on a numeral, whatever follows there
(`Numeral.at?_append`). So a number that is written inside a longer text is read as it would be
alone, and for an integer of 64 bits the value that is read is the one that was written
(`Number.readsBack_integer`).
-/

namespace Databook.Json

namespace Numeral

/-! ### Where a numeral ends -/

/-- The characters that may go on a numeral. -/
def goesOn (c : Char) : Bool :=
  c.isDigit || c == '.' || c == 'e' || c == 'E' || c == '+' || c == '-'

/-- A text that does not go on a numeral in front of it. -/
def Stops (rest : List Char) : Prop := ∀ c ∈ rest.head?, goesOn c = false

variable {rest cs : List Char}

theorem stops_nil : Stops [] := by
  intro c hc
  cases hc

theorem stops_cons {c : Char} (h : goesOn c = false) : Stops (c :: rest) := by
  intro c' hc
  cases hc
  exact h

theorem Stops.notDigit {c : Char} (h : Stops (c :: rest)) : c.isDigit = false := by
  have hc := h c rfl
  unfold goesOn at hc
  simp only [Bool.or_eq_false_iff] at hc
  exact hc.1.1.1.1.1

theorem Stops.ne {c : Char} (h : Stops (c :: rest)) {c' : Char} (hc' : goesOn c' = true) :
    c ≠ c' := by
  rintro rfl
  rw [h c rfl] at hc'
  cases hc'

theorem takeWhile_isDigit_append (cs : List Char) (h : Stops rest) :
    (cs ++ rest).takeWhile Char.isDigit = cs.takeWhile Char.isDigit := by
  have hrest : rest.takeWhile Char.isDigit = [] := by
    cases rest with
    | nil => rfl
    | cons c rest => exact List.takeWhile_cons_of_neg (by simp [h.notDigit])
  rw [List.takeWhile_append, hrest, List.append_nil]
  split
  · next hlength => exact ((List.takeWhile_prefix _).eq_of_length hlength).symm
  · rfl

theorem length_takeWhile_le (p : Char → Bool) (cs : List Char) :
    (cs.takeWhile p).length ≤ cs.length :=
  (List.takeWhile_prefix p).length_le

theorem fraction?_append (h : Stops rest) : fraction? (cs ++ rest) = fraction? cs := by
  cases cs with
  | nil =>
    cases rest with
    | nil => rfl
    | cons c rest =>
      have hne : c ≠ '.' := h.ne (by decide)
      simp [fraction?, hne]
  | cons c cs =>
    by_cases hc : c = '.'
    · subst hc
      simp only [List.cons_append, fraction?, takeWhile_isDigit_append _ h]
    · simp [fraction?, hc]

theorem fraction?_size {digits : List Char} {size : Nat} (h : fraction? cs = some (digits, size)) :
    size ≤ cs.length := by
  unfold fraction? at h
  split at h
  · next cs =>
    simp only at h
    split at h
    · cases h
    · cases h
      have := length_takeWhile_le Char.isDigit cs
      simp only [List.length_cons]
      omega
  · cases h
    omega

theorem exponent?_append (h : Stops rest) : exponent? (cs ++ rest) = exponent? cs := by
  cases cs with
  | nil =>
    cases rest with
    | nil => rfl
    | cons c rest =>
      have hlower : c ≠ 'e' := h.ne (by decide)
      have hupper : c ≠ 'E' := h.ne (by decide)
      simp [exponent?, hlower, hupper]
  | cons c cs =>
    cases cs with
    | nil =>
      cases rest with
      | nil => rfl
      | cons c' rest =>
        have hminus : c' ≠ '-' := h.ne (by decide)
        have hplus : c' ≠ '+' := h.ne (by decide)
        have hdigit := h.notDigit
        simp [exponent?, hminus, hplus, hdigit]
    | cons c' cs =>
      have hcs := takeWhile_isDigit_append cs h
      have hall := takeWhile_isDigit_append (c' :: cs) h
      simp only [List.cons_append] at hall
      simp only [List.cons_append, exponent?]
      by_cases hminus : c' = '-'
      · subst hminus
        simp [hcs]
      · by_cases hplus : c' = '+'
        · subst hplus
          simp [hcs]
        · simp [hminus, hplus, hall]

/-- A numeral without its sign, of which `start` characters have been read. -/
def unsigned? (negative : Bool) (start : Nat) (cs : List Char) : Option (Numeral × Nat) := do
  let whole := cs.takeWhile Char.isDigit
  guard (!whole.isEmpty && (whole.length == 1 || whole.head? != some '0'))
  let rest := cs.drop whole.length
  let (fraction, fractionSize) ← fraction? rest
  let (exponent, exponentSize) ← exponent? (rest.drop fractionSize)
  return ({ negative, whole, fraction, exponent },
    start + whole.length + fractionSize + exponentSize)

theorem at?_minus : at? ('-' :: cs) = unsigned? true 1 cs := rfl

theorem at?_of_ne {cs : List Char} (h : ∀ rest, cs ≠ '-' :: rest) :
    at? cs = unsigned? false 0 cs := by
  unfold at?
  split
  · next hminus =>
    split at hminus
    · next rest => exact absurd rfl (h rest)
    · cases hminus
      rfl

theorem unsigned?_append (negative : Bool) (start : Nat) (h : Stops rest) :
    unsigned? negative start (cs ++ rest) = unsigned? negative start cs := by
  have hdrop : (cs ++ rest).drop (cs.takeWhile Char.isDigit).length
      = cs.drop (cs.takeWhile Char.isDigit).length ++ rest :=
    List.drop_append_of_le_length (length_takeWhile_le _ _)
  unfold unsigned?
  simp only [takeWhile_isDigit_append _ h, hdrop, fraction?_append h]
  refine Option.bind_congr fun _ _ => Option.bind_congr fun p hp => ?_
  rw [List.drop_append_of_le_length (fraction?_size hp), exponent?_append h]

/-- A numeral is read as if nothing followed. -/
theorem at?_append (h : Stops rest) : at? (cs ++ rest) = at? cs := by
  by_cases hminus : ∃ cs', cs = '-' :: cs'
  · obtain ⟨cs', rfl⟩ := hminus
    rw [List.cons_append, at?_minus, at?_minus, unsigned?_append true 1 h]
  · have hcs : ∀ cs', cs ≠ '-' :: cs' := fun cs' heq => hminus ⟨cs', heq⟩
    have hall : ∀ cs', cs ++ rest ≠ '-' :: cs' := by
      intro cs' heq
      cases cs with
      | nil =>
        rw [List.nil_append] at heq
        exact (heq ▸ h).ne rfl rfl
      | cons c cs =>
        cases heq
        exact hcs cs rfl
    rw [at?_of_ne hall, at?_of_ne hcs, unsigned?_append false 0 h]

/-! ### Integers -/

/-- The digits of a number start with a zero only if it is zero. -/
theorem head?_toDigits_ne {n : Nat} (h : 0 < n) : (Nat.toDigits 10 n).head? ≠ some '0' := by
  induction n using Nat.strongRecOn with
  | _ n ih =>
    rw [Nat.toDigits_eq_if (by decide)]
    split
    · rw [List.head?_cons, ne_eq, Option.some_inj, Nat.digitChar_eq_zero]
      omega
    · have hhead := ih (n / 10) (by omega) (by omega)
      rwa [List.head?_append, List.head?_eq_some_head Nat.toDigits_ne_nil, Option.some_or,
        ← List.head?_eq_some_head Nat.toDigits_ne_nil]

theorem takeWhile_toDigits (n : Nat) :
    (Nat.toDigits 10 n).takeWhile Char.isDigit = Nat.toDigits 10 n :=
  List.takeWhile_eq_self_iff.2 fun _ hc =>
    Nat.isDigit_of_mem_toDigits (by decide) (by decide) hc

theorem unsigned?_toDigits (negative : Bool) (start n : Nat) :
    unsigned? negative start (Nat.toDigits 10 n)
      = some (⟨negative, Nat.toDigits 10 n, [], none⟩, start + (Nat.toDigits 10 n).length) := by
  have hguard : (!(Nat.toDigits 10 n).isEmpty &&
      ((Nat.toDigits 10 n).length == 1 || (Nat.toDigits 10 n).head? != some '0')) = true := by
    rw [Bool.and_eq_true, Bool.or_eq_true]
    refine ⟨by simp, ?_⟩
    by_cases hn : n = 0
    · subst hn
      exact .inl rfl
    · exact .inr (bne_iff_ne.2 (head?_toDigits_ne (Nat.pos_of_ne_zero hn)))
  unfold unsigned?
  simp only [takeWhile_toDigits, hguard, List.drop_length]
  simp [guard, fraction?, exponent?]

theorem le_ofDigitChars (cs : List Char) (n : Nat) : n ≤ Nat.ofDigitChars 10 cs n := by
  rw [Nat.ofDigitChars_eq_ofDigitChars_zero]
  have hpow : 0 < 10 ^ cs.length := Nat.pow_pos (by decide)
  have hmul := Nat.le_mul_of_pos_left n hpow
  omega

/-- Digits of a number of 64 bits are all taken in. -/
theorem absorb_eq {cs : List Char} {n : Nat} (h : Nat.ofDigitChars 10 cs n < 2 ^ 64) :
    absorb n cs = (Nat.ofDigitChars 10 cs n, []) := by
  induction cs generalizing n with
  | nil => simp [absorb]
  | cons c cs ih =>
    rw [Nat.ofDigitChars_cons] at h ⊢
    have hle := le_ofDigitChars cs (10 * n + (c.toNat - '0'.toNat))
    unfold absorb
    simp only
    rw [if_pos (by omega), ih h]

end Numeral

/-- Is the number what its text is read as? -/
def Number.ReadsBack (n : Number) : Prop :=
  ∃ m, Numeral.at? n.toChars = some (m, n.toChars.length) ∧ m.value? = some n

theorem Number.readsBack_integer {n : Int} (hlow : -2 ^ 63 ≤ n) (hhigh : n < 2 ^ 64) :
    (Number.integer n).ReadsBack := by
  have habsorb : Numeral.absorb 0 (Nat.toDigits 10 n.natAbs) = (n.natAbs, []) := by
    rw [Numeral.absorb_eq (by rw [Nat.ofDigitChars_ten_toDigits]; omega),
      Nat.ofDigitChars_ten_toDigits]
  by_cases hneg : n < 0
  · have hchars : (Number.integer n).toChars = '-' :: Nat.toDigits 10 n.natAbs := by
      simp [Number.toChars, hneg]
    refine ⟨⟨true, Nat.toDigits 10 n.natAbs, [], none⟩, ?_, ?_⟩
    · rw [hchars, Numeral.at?_minus, Numeral.unsigned?_toDigits, List.length_cons, Nat.add_comm]
    · have hpos : 0 < n.natAbs ∧ n.natAbs ≤ 2 ^ 63 := by omega
      have hvalue : -(n.natAbs : Int) = n := by omega
      simp only [Numeral.value?, habsorb, Numeral.absorb, List.isEmpty_nil, Option.isNone_none,
        Bool.and_self, Bool.not_true, Bool.false_eq_true, if_true, if_false, hpos.1, hpos.2,
        decide_true, hvalue]
  · have hchars : (Number.integer n).toChars = Nat.toDigits 10 n.natAbs := by
      simp [Number.toChars, hneg]
    refine ⟨⟨false, Nat.toDigits 10 n.natAbs, [], none⟩, ?_, ?_⟩
    · rw [hchars, Numeral.at?_of_ne ?_, Numeral.unsigned?_toDigits, Nat.zero_add]
      intro rest heq
      have hdigit := Nat.isDigit_of_mem_toDigits (by decide) (by decide)
        (heq ▸ List.mem_cons_self : '-' ∈ Nat.toDigits 10 n.natAbs)
      cases hdigit
    · have hvalue : (n.natAbs : Int) = n := by omega
      simp [Numeral.value?, habsorb, Numeral.absorb, hvalue]

end Databook.Json
