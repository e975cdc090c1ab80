import Databook.Text.CharClass.Ranges

/-!
# Character classes

The classes of characters that the formula language, number texts and dates are written in terms
of. They are the Unicode properties White_Space, Alphabetic and the number categories, with a short
rule for ASCII in front of a table for the rest (`Databook.Text.CharClass.Ranges`).

A blank is never part of a word (`not_isWordPart_of_isBlank`), and what starts a word can go on one
(`isWordPart_of_isWordStart`).
-/

namespace Databook.Text

/-- Does one of the closed ranges hold `n`? -/
def CharClass.inRanges (n : Nat) (ranges : List (Nat × Nat)) : Bool :=
  ranges.any fun range => range.1 ≤ n && n ≤ range.2

/-- The white space characters outside ASCII. -/
def CharClass.wideBlanks : List (Nat × Nat) :=
  [(0x85, 0x85), (0xA0, 0xA0), (0x1680, 0x1680), (0x2000, 0x200A), (0x2028, 0x2029),
   (0x202F, 0x202F), (0x205F, 0x205F), (0x3000, 0x3000)]

/-- White space: tab to carriage return, the space, and the White_Space characters beyond ASCII. -/
def isBlank (c : Char) : Bool :=
  if c.toNat < 0x80 then c == ' ' || (9 ≤ c.toNat && c.toNat ≤ 13)
  else CharClass.inRanges c.toNat CharClass.wideBlanks

/-- A letter: the ASCII letters and the Alphabetic characters beyond ASCII. -/
def isLetter (c : Char) : Bool :=
  if c.toNat < 0x80 then c.isAlpha
  else CharClass.inRanges c.toNat CharClass.alphabeticRanges

/-- A digit or other number character: the ASCII digits and the categories Nd, Nl, No beyond. -/
def isNumberChar (c : Char) : Bool :=
  if c.toNat < 0x80 then c.isDigit
  else CharClass.inRanges c.toNat CharClass.numericRanges

/-- A character that can start a word: a letter or an underscore. -/
def isWordStart (c : Char) : Bool := isLetter c || c == '_'

/-- A character that can go on a word: a letter, a number character or an underscore. -/
def isWordPart (c : Char) : Bool := isLetter c || isNumberChar c || c == '_'

/-- Characters that have, or are, an upper or lower case form. -/
def isCased (c : Char) : Bool :=
  if c.toNat < 0x80 then c.isAlpha
  else CharClass.inRanges c.toNat CharClass.casedRanges

/-- Characters that are skipped when looking for a cased neighbour: marks, apostrophes and the
like. -/
def isCaseIgnorable (c : Char) : Bool :=
  if c.toNat < 0x80 then ['\x27', '.', ':', '^', '\x60'].contains c
  else CharClass.inRanges c.toNat CharClass.caseIgnorableRanges

theorem isWordPart_of_isWordStart {c : Char} (h : isWordStart c = true) : isWordPart c = true := by
  simp only [isWordStart, Bool.or_eq_true] at h
  rcases h with h | h <;> simp [isWordPart, h]

/-! ### Blanks and words -/

/-- No blank of ASCII is part of a word. -/
theorem CharClass.not_isWordPart_of_ascii :
    ∀ i < 0x80, isBlank (Char.ofNat i) = true → isWordPart (Char.ofNat i) = false := by
  decide +kernel

/-- No blank beyond ASCII is part of a word. -/
theorem CharClass.not_isWordPart_of_wide :
    ∀ range ∈ CharClass.wideBlanks, ∀ i < range.2 + 1 - range.1,
      isWordPart (Char.ofNat (range.1 + i)) = false := by
  decide +kernel

theorem not_isWordPart_of_isBlank {c : Char} (h : isBlank c = true) : isWordPart c = false := by
  rw [← Char.ofNat_toNat c] at h ⊢
  by_cases hc : c.toNat < 0x80
  · exact CharClass.not_isWordPart_of_ascii _ hc h
  · rw [Char.ofNat_toNat] at h
    simp only [isBlank, hc, if_false, CharClass.inRanges, List.any_eq_true, Bool.and_eq_true,
      decide_eq_true_eq] at h
    obtain ⟨range, hrange, hlow, hhigh⟩ := h
    have := CharClass.not_isWordPart_of_wide range hrange (c.toNat - range.1) (by omega)
    rwa [Nat.add_sub_of_le hlow] at this

end Databook.Text
