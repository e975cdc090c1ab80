import Databook.Display.Markdown
import Mathlib

/-!
# Bars and the cells between them

A line of a table is divided by its bars, but for those that are escaped by a backslash. Readers of
tables differ on a backslash behind another one (`Escaping`). For either of them `Escaping.bars` tells
the bars of a text apart, and the line is divided by those between its cells and the ones that its
cells leave open (`Escaping.length_cells_tableLine`).

In an escaped text no bar is open, but where backslashes go in pairs each bar that had been escaped is
(`Escaping.openBars_escapeBars`).
-/

namespace Databook

open Text

theorem sum_map_succ (f : α → Nat) (items : List α) :
    (items.map fun item => f item + 1).sum = items.length + (items.map f).sum := by
  rw [List.sum_map_add, List.map_const', List.sum_replicate_nat, Nat.mul_one, Nat.add_comm]

/-! ### Bars in texts -/

/-- The ways to read a backslash in front of a bar. -/
inductive Escaping where
  /-- It escapes the bar, whatever stands in front of it. -/
  | plain
  /-- It escapes the bar unless it is escaped itself. -/
  | paired
deriving DecidableEq

namespace Escaping

/-- Is the character behind this one escaped? `escaped` tells if this one is. -/
def next (e : Escaping) (escaped : Bool) (c : Char) : Bool :=
  c == '\\' && !(e == paired && escaped)

/-- Is the character behind a text escaped? -/
def after (e : Escaping) : Bool → List Char → Bool := List.foldl e.next

/-- The bars in a text from the first to the last, each told by whether it is escaped. -/
def bars (e : Escaping) : Bool → List Char → List Bool
  | _, [] => []
  | escaped, c :: cs =>
    if c = '|' then escaped :: e.bars (e.next escaped c) cs else e.bars (e.next escaped c) cs

/-- A text split at the bars that are not escaped. -/
def split (e : Escaping) : Bool → List Char → List (List Char)
  | _, [] => [[]]
  | escaped, c :: cs =>
    if c = '|' ∧ escaped = false then [] :: e.split (e.next escaped c) cs
    else (e.split (e.next escaped c) cs).modifyHead (c :: ·)

/-- The cells of a line of a table: what stands between its first bar and its last one. -/
def cells (e : Escaping) (line : String) : List String :=
  ((e.split false line.toList).tail.dropLast).map String.ofList

/-- The number of bars in a text that are not escaped. -/
def openBars (e : Escaping) (s : String) : Nat := (e.bars false s.toList).count false

/-- The number of bars in a text that are escaped. -/
def closedBars (e : Escaping) (s : String) : Nat := (e.bars false s.toList).count true

variable {e : Escaping} {escaped : Bool}

theorem bars_append (xs ys : List Char) :
    e.bars escaped (xs ++ ys) = e.bars escaped xs ++ e.bars (e.after escaped xs) ys := by
  induction xs generalizing escaped with
  | nil => rfl
  | cons x xs ih =>
    rw [List.cons_append, bars, bars, ih]
    split <;> rfl

theorem length_split (cs : List Char) :
    (e.split escaped cs).length = (e.bars escaped cs).count false + 1 := by
  induction cs generalizing escaped with
  | nil => rfl
  | cons c cs ih =>
    rw [split, bars]
    by_cases hbar : c = '|'
    · cases escaped with
      | false => simp [hbar, ih]
      | true => simp [hbar, ih]
    · simp [hbar, ih]

theorem length_cells (line : String) : (e.cells line).length = e.openBars line - 1 := by
  rw [cells, List.length_map, List.length_dropLast, List.length_tail, length_split, openBars]
  omega

/-! ### Escaped texts -/

/-- A character with a backslash in front of it if it is a bar. -/
def escapeBar (c : Char) : List Char := if c = '|' then ['\\', '|'] else [c]

theorem escapeBar_of_ne {c : Char} (hbar : c ≠ '|') : escapeBar c = [c] := if_neg hbar

/-- Each bar is replaced on its own. -/
theorem toList_escapeBars (s : String) : (escapeBars s).toList = s.toList.flatMap escapeBar := by
  have hreplace (cs : List Char) : replaceFrom ['|'] ['\\', '|'] 0 cs = cs.flatMap escapeBar := by
    induction cs with
    | nil => rfl
    | cons c cs ih =>
      by_cases hbar : c = '|'
      · subst hbar
        rw [List.flatMap_cons, ← ih]
        rfl
      · have hprefix : List.isPrefixOf ['|'] (c :: cs) = false := by
          simpa [List.isPrefixOf] using fun h => hbar h.symm
        rw [replaceFrom, hprefix, List.flatMap_cons, escapeBar_of_ne hbar, ih]
        rfl
  rw [escapeBars, replaceAll, String.toList_ofList]
  exact hreplace s.toList

/-- A bar is read behind the backslash that is put in front of it, and all else as before. -/
theorem bars_flatMap_escapeBar (cs : List Char) :
    e.bars escaped (cs.flatMap escapeBar) = (e.bars escaped cs).map fun b => e.next b '\\' := by
  induction cs generalizing escaped with
  | nil => rfl
  | cons c cs ih =>
    rw [List.flatMap_cons, bars]
    by_cases hbar : c = '|'
    · subst hbar
      rw [if_pos rfl, List.map_cons, ← ih]
      rfl
    · rw [if_neg hbar, escapeBar_of_ne hbar, List.singleton_append, bars, if_neg hbar, ih]

/-- No bar is left open where each backslash escapes. Where they go in pairs, the bars that had been
escaped are. -/
theorem openBars_escapeBars (s : String) :
    e.openBars (escapeBars s) = if e = paired then e.closedBars s else 0 := by
  rw [openBars, toList_escapeBars, bars_flatMap_escapeBar, closedBars]
  cases e with
  | plain =>
    rw [if_neg (by decide), List.count_eq_zero, List.mem_map]
    rintro ⟨escaped, -, h⟩
    cases h
  | paired =>
    rw [if_pos rfl]
    induction bars paired false s.toList with
    | nil => rfl
    | cons escaped bars ih =>
      rw [List.map_cons, List.count_cons, ih, List.count_cons]
      cases escaped <;> rfl

/-! ### Lines of tables -/

/-- Does the text have one bar, which divides, and is the character behind it not escaped? -/
def Divides (e : Escaping) (escaped : Bool) (text : List Char) : Prop :=
  e.bars escaped text = [false] ∧ e.after escaped text = false

/-- Nothing is escaped behind a separator, so that each text is read as if it stood alone: its open
bars are counted, and the one behind it. -/
theorem count_bars_intercalate {sep close : List Char} {parts : List (List Char)} (hne : parts ≠ [])
    (hsep : ∀ part ∈ parts, e.Divides (e.after false part) sep)
    (hclose : ∀ part ∈ parts, e.Divides (e.after false part) close) :
    (e.bars false (sep.intercalate parts ++ close)).count false
      = (parts.map fun part => (e.bars false part).count false + 1).sum := by
  induction parts with
  | nil => exact absurd rfl hne
  | cons part parts ih =>
    obtain ⟨⟨hbar, hafter⟩, hsep⟩ := List.forall_mem_cons.1 hsep
    obtain ⟨⟨hlast, -⟩, hclose⟩ := List.forall_mem_cons.1 hclose
    cases parts with
    | nil =>
      rw [List.intercalate_singleton, bars_append, hlast, List.count_append]
      rfl
    | cons next parts =>
      -- the state behind the separator is the one that the other texts start from
      rw [List.map_cons, List.sum_cons, ← ih (List.cons_ne_nil _ _) hsep hclose,
        List.intercalate_cons_cons, List.append_assoc, List.append_assoc, bars_append, bars_append,
        hbar, hafter, List.count_append, List.count_append, ← Nat.add_assoc]
      rfl

variable {opening sep close : String} {texts : List String}

/-- A line has a cell for each text, and one more for each bar in a text that is not escaped. -/
theorem length_cells_line (hne : texts ≠ []) (hopening : e.Divides false opening.toList)
    (hsep : ∀ text ∈ texts, e.Divides (e.after false text.toList) sep.toList)
    (hclose : ∀ text ∈ texts, e.Divides (e.after false text.toList) close.toList) :
    (e.cells (opening ++ join sep texts ++ close)).length
      = texts.length + (texts.map e.openBars).sum := by
  have hparts : texts.map String.toList ≠ [] := mt List.map_eq_nil_iff.1 hne
  have hcount := count_bars_intercalate hparts (List.forall_mem_map.2 hsep)
    (List.forall_mem_map.2 hclose)
  rw [List.map_map] at hcount
  rw [length_cells, openBars, join, String.toList_append, String.toList_append,
    String.toList_intercalate, List.append_assoc, bars_append, hopening.1, hopening.2,
    List.count_append, hcount, ← sum_map_succ]
  exact Nat.add_sub_cancel_left 1 _

/-- Blanks keep a backslash at the end of a text away from the bar behind it. -/
theorem length_cells_tableLine (hne : texts ≠ []) :
    (e.cells (tableLine texts)).length = texts.length + (texts.map e.openBars).sum := by
  refine length_cells_line hne ?_ (fun text _ => ?_) fun text _ => ?_
  · cases e <;> exact ⟨rfl, rfl⟩
  · cases e <;> cases after _ false text.toList <;> exact ⟨rfl, rfl⟩
  · cases e <;> cases after _ false text.toList <;> exact ⟨rfl, rfl⟩

/-- A bar that is not escaped makes two cells of a text. -/
example : plain.cells (tableLine ["a\\|b", "c|d\\"]) = [" a\\|b ", " c", "d\\ "] := by decide

theorem length_cells_dashes {items : List α} (hne : items ≠ []) :
    (e.cells ("|" ++ join "|" (items.map fun _ => "---") ++ "|")).length = items.length := by
  have hnone : e.openBars "---" = 0 := by cases e <;> rfl
  have hdashes : e.openBars ∘ (fun _ : α => "---") = fun _ => 0 := funext fun _ => by
    rw [Function.comp_apply, hnone]
  have hbar : e.Divides (e.after false "---".toList) "|".toList := by cases e <;> exact ⟨rfl, rfl⟩
  rw [length_cells_line (mt List.map_eq_nil_iff.1 hne) (by cases e <;> exact ⟨rfl, rfl⟩)
    (List.forall_mem_map.2 fun _ _ => hbar) (List.forall_mem_map.2 fun _ _ => hbar),
    List.length_map, List.map_map, hdashes, List.map_const', List.sum_replicate_nat, Nat.mul_zero,
    Nat.add_zero]

end Escaping

end Databook
