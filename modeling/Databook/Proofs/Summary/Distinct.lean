import Databook.Summary
import Databook.Proofs.Document.Stored
import Databook.Proofs.Json.Draft
import Databook.Proofs.Json.NumberText
import Databook.Proofs.Query.Group

/-!
# Summaries of distinct values

Values are told apart by their JSON texts. Reading a text back shows which cell it was written for
(`Cell.Written`): the text of a number stands for one double only, but for the sign of zero, and the
text of an infinity or of NaN is that of nothing. So the texts of two cells are the same just if the
cells are, or if no number or value is written for either (`Cell.serialized_eq_iff`).

Counting texts is therefore counting values, but that all numbers that are not finite are counted once
(`Aggregation.countUnique_values`).
-/

namespace Databook

open Json (Draft)
open Decimal

namespace Cell

/-! ### Values that are the same -/

/-- Are two cells of one kind, with the same content? Numbers are compared as doubles, and NaN is the
same as NaN. -/
def same : Cell → Cell → Bool
  | text s, text t => s == t
  | number x, number y => x == y || x.isNaN && y.isNaN
  | bool b, bool c => b == c
  | list items, list items' => items == items'
  | null, null => true
  | _, _ => false

/-- Is it a number that is not finite? -/
def isNonFinite : Cell → Bool
  | number x => !x.isFinite
  | _ => false

/-- The cell without the sign of a zero. -/
def plain : Cell → Cell
  | number x => number (if x = -0 then 0 else x)
  | c => c

theorem same_iff {a b : Cell} : a.same b = true ↔ a.plain = b.plain := by
  cases a with
  | number x =>
    cases b with
    | number y =>
      have hzero : (0 : Float) ≠ Float.nan := by decide
      have hminus : (-0 : Float) ≠ Float.nan := by decide
      -- doubles other than NaN are equal if they are identical or zeros of different signs
      simp only [same, plain, Bool.or_eq_true, Bool.and_eq_true, Float.beq_iff_ne_nan_and_eq,
        Float.isNaN_eq_decide_eq_nan, decide_eq_true_eq, number.injEq]
      grind
    | _ => simp [same, plain]
  | _ => cases b <;> simp [same, plain]

/-- What does not see the sign of a zero is alike for cells that are the same. -/
theorem eq_of_same {f : Cell → α} (hf : f (number 0) = f (number (-0))) {a b : Cell}
    (h : a.same b = true) : f a = f b := by
  have hplain (c : Cell) : f c.plain = f c := by
    cases c with
    | number x =>
      by_cases hx : x = -0
      · rw [hx, plain, if_pos rfl, hf]
      · rw [plain, if_neg hx]
    | _ => rfl
  rw [← hplain a, same_iff.1 h, hplain b]

instance sameSetoid : Setoid Cell where
  r a b := a.same b = true
  iseqv :=
    { refl := fun _ => same_iff.2 rfl
      symm := fun h => same_iff.2 (same_iff.1 h).symm
      trans := fun h h' => same_iff.2 ((same_iff.1 h).trans (same_iff.1 h')) }

instance (a b : Cell) : Decidable (a ≈ b) := inferInstanceAs (Decidable (a.same b = true))

/-- The values of some cells. Cells that are the same are of one value. -/
def values (cells : List Cell) : Finset (Quotient sameSetoid) :=
  (cells.map (Quotient.mk sameSetoid)).toFinset

theorem mem_values {v : Quotient sameSetoid} {cells : List Cell} :
    v ∈ values cells ↔ ∃ c ∈ cells, ⟦c⟧ = v := by
  rw [values, List.mem_toFinset, List.mem_map]

/-! ### What is written for a cell -/

/-- The draft of the text that is written for a cell. -/
inductive Written : Cell → Draft → Prop
  | text (s : String) : Written (text s) (.string (some s))
  | bool (b : Bool) : Written (bool b) (.bool b)
  | list (items : List String) : Written (list items) (.array (items.map fun s => .string (some s)) true)
  | null : Written null .null
  | nonFinite {x : Float} (h : x.isFinite = false) : Written (number x) .null
  | number {x : Float} {n : Json.Number} {q : ℚ} (hn : n.Spells q) (hq : Denotes q x) :
    Written (number x) (.number n.numeral)

/-- What is written for a finite number stands for it. -/
theorem toJson_number {x : Float} (h : x.isFinite = true) :
    ∃ n q, (number x).toJson = .number n ∧ n.Spells q ∧ Denotes q x := by
  have htoJson : (number x).toJson = numberJson x := rfl
  rw [htoJson]
  rcases numberJson_cases x with ⟨n, hwhole, hn, hjson⟩ | ⟨hfinite, hjson⟩ | ⟨hinfinite, -⟩
  · exact ⟨_, n, hjson, Json.Number.spells_integer n, denotes_of_isWhole hwhole hn⟩
  · obtain ⟨q, hspells, hdenotes⟩ := Json.Number.exists_spells_double hfinite
    exact ⟨_, q, hjson, hspells, hdenotes⟩
  · rw [h] at hinfinite
    cases hinfinite

/-- Infinities and NaN are written as if there were nothing. -/
theorem toJson_of_not_isFinite {x : Float} (h : x.isFinite = false) : (number x).toJson = .null := by
  have htoJson : (number x).toJson = numberJson x := rfl
  rcases numberJson_cases x with ⟨n, hwhole, hn, -⟩ | ⟨hfinite, -⟩ | ⟨-, hjson⟩
  · rw [(denotes_of_isWhole hwhole hn).isFinite] at h
    cases h
  · rw [hfinite] at h
    cases h
  · rw [htoJson, hjson]

theorem written_toJson (c : Cell) : Json.Legible c.toJson.numbers ∧ Written c c.toJson.draft := by
  have hnone : Json.Legible [] := fun _ hn => absurd hn List.not_mem_nil
  cases c with
  | text s => exact ⟨hnone, .text s⟩
  | bool b => exact ⟨hnone, .bool b⟩
  | null => exact ⟨hnone, .null⟩
  | list items =>
    refine ⟨?_, ?_⟩
    · intro n hn
      obtain ⟨item, -, hitem⟩ := Json.mem_numbers_ofList.1 hn
      exact absurd hitem List.not_mem_nil
    · have hdraft : (list items).toJson.draft = .array (items.map fun s => .string (some s)) true := by
        rw [toJson, Json.ofTexts, Json.ofList, Json.draft, Json.draftItems_eq_map, List.map_map]
        rfl
      rw [hdraft]
      exact .list items
  | number x =>
    cases hx : x.isFinite with
    | true =>
      obtain ⟨n, q, hjson, hspells, hdenotes⟩ := toJson_number hx
      rw [hjson]
      refine ⟨?_, .number hspells hdenotes⟩
      intro n' hn'
      rw [List.mem_singleton.1 hn']
      exact hspells.1
    | false =>
      rw [toJson_of_not_isFinite hx]
      exact ⟨hnone, .nonFinite hx⟩

/-- A draft shows which cell it is of, unless nothing has been written for the cell. -/
theorem same_of_written {a b : Cell} {d d' : Draft} (ha : Written a d) (hb : Written b d')
    (hd : d = d') :
    a.same b = true ∨ (a.isNonFinite || a.isNull) = true ∧ (b.isNonFinite || b.isNull) = true := by
  -- only cells of one kind, and those that nothing is written for, may have one draft
  cases ha <;> cases hb <;> try cases hd
  case text.text s => exact .inl (beq_self_eq_true s)
  case bool.bool b => exact .inl (beq_self_eq_true b)
  case list.list items items' =>
    have hitem : Function.Injective fun s => Draft.string (some s) := by
      intro s t h
      cases h
      rfl
    injection hd with hitems
    rw [List.map_injective_iff.2 hitem hitems]
    exact .inl (beq_self_eq_true items')
  case null.null => exact .inl rfl
  case null.nonFinite x h => exact .inr ⟨rfl, by simp [isNonFinite, h]⟩
  case nonFinite.null x h => exact .inr ⟨by simp [isNonFinite, h], rfl⟩
  case nonFinite.nonFinite x h y h' =>
    exact .inr ⟨by simp [isNonFinite, h], by simp [isNonFinite, h']⟩
  case number.number x n q hn hq y n' q' hn' hq' =>
    injection hd with hnumeral
    have hvalue : q = q' := by rw [← hn.2, ← hn'.2, hnumeral]
    have hbeq : (x == y) = true := beq_of_denotes hq (hvalue ▸ hq')
    exact .inl (by simp [same, hbeq])

/-- Cells have one text if they are the same, or if nothing is written for either of them. -/
theorem serialized_eq_iff {a b : Cell} : a.serialized = b.serialized ↔
    a.same b = true ∨ (a.isNonFinite || a.isNull) = true ∧ (b.isNonFinite || b.isNull) = true := by
  have hnothing (c : Cell) (h : (c.isNonFinite || c.isNull) = true) : c.toJson = .null := by
    cases c with
    | null => rfl
    | number x => exact toJson_of_not_isFinite (by simpa [isNonFinite, isNull] using h)
    | _ => cases h
  constructor
  · intro h
    have ha := written_toJson a
    have hb := written_toJson b
    exact same_of_written ha.2 hb.2 (Draft.draft_eq_of_compact_eq ha.1 hb.1 h)
  · rintro (h | ⟨ha, hb⟩)
    · exact eq_of_same rfl h
    · rw [serialized, serialized, hnothing a ha, hnothing b hb]

end Cell

/-! ### Counting -/

/-- Counting images: what satisfies `p` has one image, and all else has images of its own. -/
theorem card_image_of_merged [DecidableEq α] [DecidableEq β] {f : α → β} {p : α → Prop}
    [DecidablePred p] (s : Finset α) (h : ∀ a ∈ s, ∀ b ∈ s, f a = f b ↔ a = b ∨ p a ∧ p b) :
    (s.image f).card + (s.filter p).card = s.card + if ∃ a ∈ s, p a then 1 else 0 := by
  induction s using Finset.induction_on with
  | empty => simp
  | insert a s ha ih =>
    have ih := ih fun b hb c hc => h b (Finset.mem_insert_of_mem hb) c (Finset.mem_insert_of_mem hc)
    have hself := Finset.mem_insert_self a s
    have hmem : f a ∈ s.image f ↔ p a ∧ ∃ b ∈ s, p b := by
      rw [Finset.mem_image]
      constructor
      · rintro ⟨b, hb, hba⟩
        rcases (h b (Finset.mem_insert_of_mem hb) a hself).1 hba with rfl | ⟨hpb, hpa⟩
        · exact absurd hb ha
        · exact ⟨hpa, b, hb, hpb⟩
      · rintro ⟨hpa, b, hb, hpb⟩
        exact ⟨b, hb, (h b (Finset.mem_insert_of_mem hb) a hself).2 (.inr ⟨hpb, hpa⟩)⟩
    have hsome : (∃ b ∈ insert a s, p b) ↔ p a ∨ ∃ b ∈ s, p b := by simp
    rw [Finset.image_insert, Finset.filter_insert, Finset.card_insert_of_notMem ha]
    simp only [hsome]
    by_cases hpa : p a
    · have hfilter : a ∉ s.filter p := fun hmem => ha (Finset.mem_of_mem_filter a hmem)
      rw [if_pos hpa, Finset.card_insert_of_notMem hfilter, if_pos (.inl hpa)]
      by_cases hpb : ∃ b ∈ s, p b
      · rw [if_pos hpb] at ih
        rw [Finset.insert_eq_of_mem (hmem.2 ⟨hpa, hpb⟩)]
        omega
      · rw [if_neg hpb] at ih
        rw [Finset.card_insert_of_notMem fun himage => hpb (hmem.1 himage).2]
        omega
    · simp only [hpa, false_or, if_false]
      rw [Finset.card_insert_of_notMem fun himage => hpa (hmem.1 himage).1]
      omega

namespace Aggregation

/-- The text of a value. -/
def textOf : Quotient Cell.sameSetoid → String :=
  Quotient.lift Cell.serialized fun _ _ h => Cell.serialized_eq_iff.2 (.inl h)

/-- Is it the value of a number that is not finite? -/
def ofNonFinite : Quotient Cell.sameSetoid → Bool :=
  Quotient.lift Cell.isNonFinite fun _ _ h => Cell.eq_of_same rfl h

/-- The texts of two values are the same if the values are, or if they are of numbers that are not
finite. -/
theorem textOf_eq_iff {c c' : Cell} (h : c.isNull = false) (h' : c'.isNull = false) :
    textOf ⟦c⟧ = textOf ⟦c'⟧ ↔
      (⟦c⟧ : Quotient Cell.sameSetoid) = ⟦c'⟧ ∨ ofNonFinite ⟦c⟧ = true ∧ ofNonFinite ⟦c'⟧ = true := by
  have htext : textOf ⟦c⟧ = textOf ⟦c'⟧ ↔ c.serialized = c'.serialized := Iff.rfl
  have hvalue : (⟦c⟧ : Quotient Cell.sameSetoid) = ⟦c'⟧ ↔ c.same c' = true := Quotient.eq
  rw [htext, hvalue, Cell.serialized_eq_iff, h, h', Bool.or_false, Bool.or_false]
  rfl

/-- There are as many different texts as texts of values. -/
theorem length_eraseDups_serialized (cells : List Cell) :
    (cells.map Cell.serialized).eraseDups.length = ((Cell.values cells).image textOf).card := by
  rw [← List.toFinset_card_of_nodup (nodup_eraseDups _)]
  congr 1
  ext text
  simp [Cell.values, textOf]

theorem filter_values (cells : List Cell) :
    (Cell.values cells).filter (ofNonFinite · = true) = Cell.values (cells.filter Cell.isNonFinite) := by
  ext v
  simp only [Finset.mem_filter, Cell.mem_values, List.mem_filter]
  constructor
  · rintro ⟨⟨c, hc, rfl⟩, hnonFinite⟩
    exact ⟨c, ⟨hc, hnonFinite⟩, rfl⟩
  · rintro ⟨c, ⟨hc, hnonFinite⟩, rfl⟩
    exact ⟨⟨c, hc, rfl⟩, hnonFinite⟩

theorem exists_ofNonFinite (cells : List Cell) :
    (∃ v ∈ Cell.values cells, ofNonFinite v = true) ↔ cells.any Cell.isNonFinite = true := by
  rw [List.any_eq_true]
  constructor
  · rintro ⟨v, hv, hnonFinite⟩
    obtain ⟨c, hc, rfl⟩ := Cell.mem_values.1 hv
    exact ⟨c, hc, hnonFinite⟩
  · rintro ⟨c, hc, hnonFinite⟩
    exact ⟨⟦c⟧, Cell.mem_values.2 ⟨c, hc, rfl⟩, hnonFinite⟩

/-- No number is empty. -/
theorem filled_and_isNonFinite (c : Cell) : (!c.isEmpty && c.isNonFinite) = c.isNonFinite := by
  cases c with
  | number x => rfl
  | _ => exact Bool.and_false _

/-- The texts of the cells that are not empty are as many as the values, but that there is one text for
all numbers that are not finite. -/
theorem length_texts_filled (cells : List Cell) :
    ((cells.filter (!·.isEmpty)).map Cell.serialized).eraseDups.length
        + (Cell.values (cells.filter Cell.isNonFinite)).card
      = (Cell.values (cells.filter (!·.isEmpty))).card
        + if cells.any Cell.isNonFinite then 1 else 0 := by
  have hproper (c : Cell) (h : (!c.isEmpty) = true) : c.isNull = false := by
    cases c with
    | null => cases h
    | _ => rfl
  have hany : (cells.filter (!·.isEmpty)).any Cell.isNonFinite = cells.any Cell.isNonFinite := by
    simp only [List.any_filter, filled_and_isNonFinite]
  have hfilter : (cells.filter (!·.isEmpty)).filter Cell.isNonFinite
      = cells.filter Cell.isNonFinite := by
    simp only [List.filter_filter, Bool.and_comm, filled_and_isNonFinite]
  have hcount := card_image_of_merged (f := textOf) (p := (ofNonFinite · = true))
    (Cell.values (cells.filter (!·.isEmpty))) ?_
  · simp only [exists_ofNonFinite, hany] at hcount
    rwa [filter_values, hfilter, ← length_eraseDups_serialized] at hcount
  · intro v hv v' hv'
    obtain ⟨c, hc, rfl⟩ := Cell.mem_values.1 hv
    obtain ⟨c', hc', rfl⟩ := Cell.mem_values.1 hv'
    exact textOf_eq_iff (hproper c (List.mem_filter.1 hc).2) (hproper c' (List.mem_filter.1 hc').2)

/-- Cells are told apart by their texts, and counted by them. Cells have one text if they are the same,
or if nothing is written for either of them. So the count is the number of values that are not empty,
but that all numbers that are not finite are counted as one value. -/
theorem countUnique_values (dates : Bool) (cells : List Cell) :
    (∀ a b : Cell, a.serialized = b.serialized ↔
      a.same b = true ∨ (a.isNonFinite || a.isNull) = true ∧ (b.isNonFinite || b.isNull) = true) ∧
    ∃ n : Nat, countUnique.apply dates cells = .number (Float.ofNat n) ∧
      n + (Cell.values (cells.filter Cell.isNonFinite)).card
        = (Cell.values (cells.filter (!·.isEmpty))).card
          + if cells.any Cell.isNonFinite then 1 else 0 :=
  ⟨fun _ _ => Cell.serialized_eq_iff, _, rfl, length_texts_filled cells⟩

/-- The two infinities are two values with one text. -/
example : countUnique.apply false [.number (1 / 0), .number (-1 / 0)] = .number 1 ∧
    (Cell.values [.number (1 / 0), .number (-1 / 0)]).card = 2 := ⟨rfl, rfl⟩

end Aggregation

end Databook
