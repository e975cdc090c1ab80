import Databook.Cell
import Mathlib

/-!
# Readings of cells

Numbers that are equal are shown alike, and so are equal cells (`Cell.display_of_beq`). A list has
the readings of its text (`Cell.display_flatten`, `Cell.toNumber_flatten`). Its loose number is read
from a text with other separators, but the two texts differ only if there are two items or more; then
both have a comma, and no numeral has one (`Decimal.Numeral.read?_eq_none`).
-/

namespace Databook

open Text Decimal

/-! ### Characters of numerals -/

namespace Decimal.Numeral

/-- Can the character stand in a numeral? -/
def isPart (c : Char) : Bool := c.isDigit || ['+', '-', '.', 'e', 'E'].contains c

variable {c : Char} {cs : List Char}

theorem isDigit_eq_false (hpart : isPart c = false) : c.isDigit = false :=
  (Bool.or_eq_false_iff.1 hpart).1

theorem mem_sign (hc : c ∈ cs) (hpart : isPart c = false) : c ∈ (sign cs).2 := by
  unfold sign
  split
  · exact (List.mem_cons.1 hc).resolve_left fun heq => absurd (heq ▸ hpart) (by decide)
  · exact (List.mem_cons.1 hc).resolve_left fun heq => absurd (heq ▸ hpart) (by decide)
  · exact hc

theorem mem_span (hc : c ∈ cs) (hpart : isPart c = false) : c ∈ (cs.span Char.isDigit).2 := by
  rw [List.span_eq_takeWhile_dropWhile]
  rw [← List.takeWhile_append_dropWhile (p := Char.isDigit) (l := cs), List.mem_append] at hc
  refine hc.resolve_left fun hwhile => ?_
  have hdigit := List.mem_takeWhile_imp hwhile
  rw [isDigit_eq_false hpart] at hdigit
  cases hdigit

theorem exponent?_eq_none (hc : c ∈ cs) (hpart : isPart c = false) : exponent? cs = none := by
  cases cs with
  | nil => cases hc
  | cons e digits =>
    rw [exponent?]
    split
    · next he =>
      have hne : c ≠ e := by
        rintro rfl
        rw [Bool.or_eq_true, beq_iff_eq, beq_iff_eq] at he
        rcases he with rfl | rfl <;> exact absurd hpart (by decide)
      have hmem := mem_sign ((List.mem_cons.1 hc).resolve_left hne) hpart
      have hall : (sign digits).2.all Char.isDigit = false :=
        List.all_eq_false.2 ⟨c, hmem, by rw [isDigit_eq_false hpart]; decide⟩
      simp only [hall, Bool.not_false, Bool.or_true, if_true]
    · rfl

/-- A text with a character that belongs in no numeral is none: the character is left over by the
sign and the digits, and so it is taken for a part of the exponent. -/
theorem read?_eq_none (hc : c ∈ cs) (hpart : isPart c = false) : read? cs = none := by
  have hrest := mem_span (mem_sign hc hpart) hpart
  unfold read?
  generalize sign cs = signed at hrest
  obtain ⟨negative, digits⟩ := signed
  simp only at hrest ⊢
  generalize digits.span Char.isDigit = parts at hrest
  obtain ⟨whole, rest⟩ := parts
  simp only at hrest ⊢
  split
  · next behind =>
    have hbehind : c ∈ behind := (List.mem_cons.1 hrest).resolve_left fun heq =>
      absurd (heq ▸ hpart) (by decide)
    simp only [exponent?_eq_none (mem_span hbehind hpart) hpart, Option.map_none, ite_self]
  · simp only [exponent?_eq_none hrest hpart, Option.map_none, ite_self]

end Decimal.Numeral

namespace Text

variable {c : Char}

/-! ### Characters of texts -/

theorem mem_trimStart {cs : List Char} (hc : c ∈ cs) (hblank : isBlank c = false) :
    c ∈ trimStart cs := by
  rw [← List.takeWhile_append_dropWhile (p := isBlank) (l := cs), List.mem_append] at hc
  refine hc.resolve_left fun hwhile => ?_
  have hc := List.mem_takeWhile_imp hwhile
  rw [hblank] at hc
  cases hc

/-- Trimming takes blanks away and nothing else. -/
theorem mem_trim {s : String} (hc : c ∈ s.toList) (hblank : isBlank c = false) :
    c ∈ (trim s).toList := by
  unfold trim
  rw [String.toList_ofList, List.mem_reverse]
  exact mem_trimStart (List.mem_reverse.2 (mem_trimStart hc hblank)) hblank

/-- The separator is found between two parts. -/
theorem mem_join {sep : String} (hc : c ∈ sep.toList) (a b : String) (parts : List String) :
    c ∈ (join sep (a :: b :: parts)).toList := by
  unfold join
  rw [String.intercalate_cons_cons, String.toList_append, String.toList_append]
  exact List.mem_append_left _ (List.mem_append_right _ hc)

end Text

namespace Cell

/-! ### Lists and their texts -/

theorem readNumber_of_comma {s : String} (h : ',' ∈ s.toList) : readNumber s = 0 / 0 := by
  have htrim : ',' ∈ (trim s).toList := mem_trim h (by decide)
  have hne : ∀ t : String, ',' ∉ t.toList → trim s ≠ t := by
    rintro t ht rfl
    exact ht htrim
  have hread : readFloat? (trim s) = none := by
    rw [readFloat?, Numeral.read?_eq_none htrim (by decide), Option.map_none]
  unfold readNumber
  simp only [hne "" (by decide), hne "Infinity" (by decide), hne "+Infinity" (by decide),
    hne "-Infinity" (by decide), hread, if_false, decide_false, Bool.or_self, Bool.false_eq_true,
    Option.getD_none, ite_self]

theorem toNumber_flatten (c : Cell) : c.flatten.toNumber = c.toNumber := by
  cases c with
  | list items =>
    show readNumber (join ", " items) = readNumber (join "," items)
    match items with
    | [] => rfl
    | [item] => rfl
    | a :: b :: items =>
      rw [readNumber_of_comma (mem_join (by decide) a b items),
        readNumber_of_comma (mem_join (by decide) a b items)]
  | _ => rfl

theorem display_flatten (c : Cell) : c.flatten.display = c.display := by
  cases c <;> rfl

/-! ### Equal cells -/

/-- Equal numbers are the same, but for the sign of zero. -/
theorem numberText_of_beq {x y : Float} (h : (x == y) = true) : numberText x = numberText y := by
  obtain ⟨-, -, rfl | ⟨rfl, rfl⟩ | ⟨rfl, rfl⟩⟩ := Float.beq_iff_ne_nan_and_eq.1 h
  · rfl
  · rfl
  · rfl

theorem display_of_beq {a b : Cell} (h : (a == b) = true) : a.display = b.display := by
  cases a <;> cases b
  case number.number x y => exact numberText_of_beq h
  case text.text s t => exact (beq_iff_eq.1 h : s = t)
  case bool.bool x y => rw [(beq_iff_eq.1 h : x = y)]
  case list.list items items' => rw [(beq_iff_eq.1 h : items = items')]
  case null.null => rfl
  all_goals cases h

end Cell

end Databook
