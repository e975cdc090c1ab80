import Databook.Json.Decode
import Databook.Proofs.IdMap
import Databook.Proofs.Json.Draft

/-!
# Reading values back

-/

namespace Databook.Json

open Decoder

/-! ### Any value -/

/-- Does the integer fit 64 bits, with or without sign? -/
def FitsInt64 (n : Int) : Prop := -2 ^ 63 ≤ n ∧ n < 2 ^ 64

/-- Is this an integer of 64 bits or a finite double? -/
def Number.Fits : Number → Prop
  | .integer n => FitsInt64 n
  | .double x => x.isFinite = true

mutual

/-- A value as it is read with some room for nesting. -/
def Settled (room : Nat) : Json → Prop
  | .number n => n.Fits
  | .array items => 2 ≤ room ∧ SettledItems (room - 1) items
  | .object fields => 2 ≤ room ∧ Increasing fields ∧ SettledFields (room - 1) fields
  | .null | .bool _ | .string _ => True

def SettledItems (room : Nat) : List Json → Prop
  | [] => True
  | item :: rest => Settled room item ∧ SettledItems room rest

def SettledFields (room : Nat) : List (String × Json) → Prop
  | [] => True
  | (_, value) :: rest => Settled room value ∧ SettledFields room rest

end

theorem settledFields_iff {room : Nat} {fields : List (String × Json)} :
    SettledFields room fields ↔ ∀ field ∈ fields, Settled room field.2 := by
  induction fields with
  | nil => simp [SettledFields]
  | cons field fields ih => simp [SettledFields, ih]

theorem enter_of_le {room : Nat} (h : 2 ≤ room) : enter room = .ok (room - 1) := if_pos h

theorem le_of_enter {room room' : Nat} (h : enter room = .ok room') : 2 ≤ room ∧ room' = room - 1 := by
  unfold enter at h
  split at h
  · next hle =>
    cases h
    exact ⟨hle, rfl⟩
  · cases h

/-- If the first step of a computation succeeds, the rest goes on with its result. -/
theorem bind_ok {x : Except ε α} {a : α} (h : x = .ok a) (f : α → Except ε β) : x >>= f = f a := by
  rw [h]
  rfl

theorem exists_of_bind_ok {x : Except ε α} {f : α → Except ε β} {b : β} (h : x >>= f = .ok b) :
    ∃ a, x = .ok a ∧ f a = .ok b := by
  cases x with
  | error e => cases h
  | ok a => exact ⟨a, rfl, h⟩

theorem exists_of_map_ok {x : Except ε α} {f : α → β} {b : β} (h : x.map f = .ok b) :
    ∃ a, x = .ok a ∧ f a = b := by
  cases x with
  | error e => cases h
  | ok a => exact ⟨a, rfl, Except.ok.inj h⟩

mutual

/-- A settled value is read from its draft as it is. -/
theorem any_draft {room : Nat} (j : Json) (hj : Settled room j) (hnumbers : ReadBack j.numbers) :
    any room j.draft = .ok j := by
  cases j with
  | null => rfl
  | bool b => rfl
  | number n =>
    simp only [draft, any]
    rw [(hnumbers n List.mem_cons_self).value?]
  | string s => rfl
  | array items =>
    obtain ⟨hroom, hitems⟩ := hj
    simp only [draft, any]
    rw [bind_ok (enter_of_le hroom), bind_ok (anyItems_draft items hitems hnumbers)]
    rfl
  | object fields =>
    obtain ⟨hroom, hincreasing, hfields⟩ := hj
    simp only [draft, any]
    rw [bind_ok (enter_of_le hroom), bind_ok (anyFields_draft fields hfields hnumbers)]
    have hentries := IdMap.entries_ofList_of_increasing hincreasing
    simp [leave, ofFields, hentries, bind, pure, Except.bind, Except.pure]

theorem anyItems_draft {room : Nat} (items : List Json) (hitems : SettledItems room items)
    (hnumbers : ReadBack (numbersOfItems items)) : anyItems room (draftItems items) = .ok items := by
  match items with
  | [] => rfl
  | item :: items =>
    obtain ⟨hitem, hrest⟩ := readBack_append.1 hnumbers
    simp only [draftItems, anyItems]
    rw [bind_ok (any_draft item hitems.1 hitem), bind_ok (anyItems_draft items hitems.2 hrest)]
    rfl

theorem anyFields_draft {room : Nat} (fields : List (String × Json))
    (hfields : SettledFields room fields) (hnumbers : ReadBack (numbersOfFields fields)) :
    anyFields room (draftFields fields) = .ok fields := by
  match fields with
  | [] => rfl
  | (name, value) :: fields =>
    obtain ⟨hvalue, hrest⟩ := readBack_append.1 hnumbers
    simp only [draftFields, anyFields, text?]
    rw [bind_ok rfl, bind_ok (any_draft value hfields.1 hvalue),
      bind_ok (anyFields_draft fields hfields.2 hrest)]
    rfl

end

/-! ### Values that are passed over -/

mutual

/-- Every value can be passed over. -/
theorem ignore_draft (j : Json) : ignore j.draft = .ok () := by
  cases j with
  | array items =>
    simp only [draft, ignore]
    rw [bind_ok (ignoreItems_draft items)]
    rfl
  | object fields =>
    simp only [draft, ignore]
    rw [bind_ok (ignoreFields_draft fields)]
    rfl
  | _ => rfl

theorem ignoreItems_draft (items : List Json) : ignoreItems (draftItems items) = .ok () := by
  match items with
  | [] => rfl
  | item :: items =>
    simp only [draftItems, ignoreItems]
    rw [bind_ok (ignore_draft item)]
    exact ignoreItems_draft items

theorem ignoreFields_draft (fields : List (String × Json)) :
    ignoreFields (draftFields fields) = .ok () := by
  match fields with
  | [] => rfl
  | (name, value) :: fields =>
    simp only [draftFields, ignoreFields]
    rw [bind_ok (ignore_draft value)]
    exact ignoreFields_draft fields

end

/-! ### What is read -/

theorem absorb_lt {n : Nat} (h : n < 2 ^ 64) (cs : List Char) :
    (Numeral.absorb n cs).1 < 2 ^ 64 := by
  induction cs generalizing n with
  | nil => exact h
  | cons c cs ih =>
    unfold Numeral.absorb
    simp only
    split
    · next hlt => exact ih hlt
    · exact h

/-- Integers are read from numerals only if they fit. -/
theorem fitsInt64_of_value? {m : Numeral} {n : Int} (h : m.value? = some (.integer n)) :
    FitsInt64 n := by
  have hshort := absorb_lt (n := 0) (by decide) m.whole
  have hcoefficient := absorb_lt hshort m.fraction
  unfold Numeral.value? at h
  simp only at h
  unfold FitsInt64
  split at h
  · split at h
    · cases h
      omega
    · split at h
      · next hsigned =>
        cases h
        simp only [Bool.and_eq_true, decide_eq_true_eq] at hsigned
        omega
      · cases h
  · obtain ⟨x, -, hx⟩ := Option.map_eq_some_iff.1 h
    cases hx

end Databook.Json
