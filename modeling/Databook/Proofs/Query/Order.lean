import Databook.Query.Order
import Mathlib.Order.Compare

/-!
# Where the order of cells is one

Turning two cells around turns their order around, whatever they are. Further than that the order of
all cells does not go: numbers and lists are compared with their like in one way and with other cells
as texts, so that cells of two kinds can stand in a circle, and NaN ties with every number.

Among cells of one kind (`Cell.IsOf`) the order is consistent: each kind has a key whose values are
ordered, and cells are compared by it. Rows are then ordered consistently by columns of one kind each
(`order_consistent`).
-/

namespace Databook

open Text
open Float.Model (UnpackedFloat)

/-- Compare values that may be missing. Nothing comes first. -/
def nothingFirst (cmp : α → α → Ordering) : Option α → Option α → Ordering
  | none, none => .eq
  | none, some _ => .lt
  | some _, none => .gt
  | some a, some b => cmp a b

/-- A comparison that is consistent among some values: turned around it gives the reverse, and what
comes before comes before all that comes after. -/
structure ConsistentOn (s : α → Prop) (cmp : α → α → Ordering) : Prop where
  swap : ∀ {a b}, s a → s b → cmp b a = (cmp a b).swap
  trans : ∀ {a b c}, s a → s b → s c → (cmp a b).isLE = true → (cmp b c).isLE = true →
    (cmp a c).isLE = true

namespace ConsistentOn

variable {s s' : α → Prop} {cmp cmp' : α → α → Ordering} {a b c : α}

theorem eq_of_isLE (h : ConsistentOn s cmp) (ha : s a) (hb : s b) (hab : (cmp a b).isLE = true)
    (hba : (cmp b a).isLE = true) : cmp a b = .eq := by
  rw [h.swap ha hb] at hba
  cases hcmp : cmp a b with
  | eq => rfl
  | lt =>
    rw [hcmp] at hba
    cases hba
  | gt =>
    rw [hcmp] at hab
    cases hab

/-- Ties are passed on, too. -/
theorem tie_trans (h : ConsistentOn s cmp) (ha : s a) (hb : s b) (hc : s c) (hab : cmp a b = .eq)
    (hbc : cmp b c = .eq) : cmp a c = .eq := by
  have hba : cmp b a = .eq := by rw [h.swap ha hb, hab]; rfl
  have hcb : cmp c b = .eq := by rw [h.swap hb hc, hbc]; rfl
  apply h.eq_of_isLE ha hc
  · exact h.trans ha hb hc (by rw [hab]; rfl) (by rw [hbc]; rfl)
  · exact h.trans hc hb ha (by rw [hcb]; rfl) (by rw [hba]; rfl)

theorem mono (h : ConsistentOn s cmp) (hs : ∀ a, s' a → s a) : ConsistentOn s' cmp where
  swap := fun ha hb => h.swap (hs _ ha) (hs _ hb)
  trans := fun ha hb hc => h.trans (hs _ ha) (hs _ hb) (hs _ hc)

/-- What is compared by a key is compared consistently if the keys are. -/
theorem of_key {β : Type v} {s : α → Prop} {t : β → Prop} {cmp : α → α → Ordering}
    {cmp' : β → β → Ordering} (h : ConsistentOn t cmp') (key : α → β) (hkey : ∀ a, s a → t (key a))
    (hcmp : ∀ a b, s a → s b → cmp a b = cmp' (key a) (key b)) : ConsistentOn s cmp where
  swap := by
    intro a b ha hb
    rw [hcmp b a hb ha, hcmp a b ha hb]
    exact h.swap (hkey a ha) (hkey b hb)
  trans := by
    intro a b c ha hb hc hab hbc
    rw [hcmp a b ha hb] at hab
    rw [hcmp b c hb hc] at hbc
    rw [hcmp a c ha hc]
    exact h.trans (hkey a ha) (hkey b hb) (hkey c hc) hab hbc

theorem of_transCmp (cmp : α → α → Ordering) [Std.TransCmp cmp] : ConsistentOn (fun _ => True) cmp where
  swap := fun _ _ => Std.OrientedCmp.eq_swap
  trans := fun _ _ _ => Std.TransCmp.isLE_trans

theorem orient (h : ConsistentOn s cmp) (direction : SortDirection) :
    ConsistentOn s fun a b => direction.orient (cmp a b) := by
  cases direction with
  | asc => exact h
  | desc =>
    show ConsistentOn s fun a b => (cmp a b).swap
    constructor
    · intro a b ha hb
      rw [h.swap ha hb]
    · intro a b c ha hb hc hab hbc
      rw [← h.swap ha hb] at hab
      rw [← h.swap hb hc] at hbc
      rw [← h.swap ha hc]
      exact h.trans hc hb ha hbc hab

/-- Where the first comparison ties, the second one decides. -/
theorem andThen (h : ConsistentOn s cmp) (h' : ConsistentOn s cmp') :
    ConsistentOn s fun a b => (cmp a b).then (cmp' a b) := by
  have hthen : ∀ o o' : Ordering,
      (o.then o').isLE = true ↔ o.isLE = true ∧ (o = .eq → o'.isLE = true) := by
    intro o o'
    cases o <;> simp
  constructor
  · intro a b ha hb
    rw [h.swap ha hb, h'.swap ha hb, Ordering.swap_then]
  · intro a b c ha hb hc hab hbc
    rw [hthen] at hab hbc ⊢
    refine ⟨h.trans ha hb hc hab.1 hbc.1, fun hac => ?_⟩
    -- a tie of the ends leaves no room between them
    have hca : (cmp c a).isLE = true := by rw [h.swap ha hc, hac]; rfl
    have htie : cmp a b = .eq := h.eq_of_isLE ha hb hab.1 (h.trans hb hc ha hbc.1 hca)
    have htie' : cmp b c = .eq := h.eq_of_isLE hb hc hbc.1 (h.trans hc ha hb hca hab.1)
    exact h'.trans ha hb hc (hab.2 htie) (hbc.2 htie')

/-- There is no circle. -/
theorem not_lt_of_lt (h : ConsistentOn s cmp) (ha : s a) (hb : s b) (hc : s c) (hab : cmp a b = .lt)
    (hbc : cmp b c = .lt) : cmp c a ≠ .lt := by
  intro hca
  have hac : (cmp a c).isLE = true := h.trans ha hb hc (by rw [hab]; rfl) (by rw [hbc]; rfl)
  rw [h.swap hc ha, hca] at hac
  cases hac

/-- Nothing at all can be put in front of everything. -/
theorem nothingFirst (h : ConsistentOn s cmp) :
    ConsistentOn (fun a : Option α => ∀ x, a = some x → s x) (Databook.nothingFirst cmp) where
  swap := by
    intro a b ha hb
    cases a <;> cases b
    case some.some x y => exact h.swap (ha x rfl) (hb y rfl)
    all_goals rfl
  trans := by
    intro a b c ha hb hc hab hbc
    cases a <;> cases b <;> cases c
    case some.some.some x y z => exact h.trans (ha x rfl) (hb y rfl) (hc z rfl) hab hbc
    all_goals first | rfl | cases hab | cases hbc

end ConsistentOn

/-! ### Texts -/

instance : Std.TransCmp textOrder :=
  inferInstanceAs (Std.TransCmp (compareLex (compareOn toLower) compare))

theorem textOrder_swap (a b : String) : textOrder b a = (textOrder a b).swap :=
  Std.OrientedCmp.eq_swap

/-! ### Numbers -/

/-- The place of a number: negative ones, zero and positive ones apart, each by exponent and
mantissa. -/
def place : UnpackedFloat → Int × Int × Int
  | .infinity .negative => (-2, 0, 0)
  | .finite .negative m e _ => (-1, -e, -m)
  | .zero _ | .notANumber => (0, 0, 0)
  | .finite .positive m e _ => (1, e, m)
  | .infinity .positive => (2, 0, 0)

/-- Compare places one part after the other. -/
def placeOrder : Int × Int × Int → Int × Int × Int → Ordering :=
  compareLex (compareOn fun p => p.1) (compareLex (compareOn fun p => p.2.1) (compareOn fun p => p.2.2))

instance : Std.TransCmp placeOrder :=
  inferInstanceAs (Std.TransCmp (compareLex (compareOn fun p : Int × Int × Int => p.1)
    (compareLex (compareOn fun p => p.2.1) (compareOn fun p => p.2.2))))

theorem compare_neg (a b : Int) : compare (-a) (-b) = (compare a b).swap := by
  rw [Int.compare_swap]
  simp only [compare, compareOfLessAndEq]
  grind

theorem compare_natCast (m n : Nat) : compare (m : Int) (n : Int) = compare m n := by
  simp only [compare, compareOfLessAndEq]
  grind

theorem compare_eq_place {x y : UnpackedFloat} (hx : x.isNaN = false) (hy : y.isNaN = false) :
    x.compare y = some (placeOrder (place x) (place y)) := by
  cases x with
  | notANumber => cases hx
  | infinity s =>
    cases y with
    | notANumber => cases hy
    | infinity s' | finite s' m' e' hm' => cases s <;> cases s' <;> rfl
    | zero s' => cases s <;> rfl
  | zero s =>
    cases y with
    | notANumber => cases hy
    | infinity s' | finite s' m' e' hm' => cases s' <;> rfl
    | zero s' => rfl
  | finite s m e hm =>
    cases y with
    | notANumber => cases hy
    | infinity s' => cases s <;> cases s' <;> rfl
    | zero s' => cases s <;> rfl
    | finite s' m' e' hm' =>
      cases s <;> cases s'
      case positive.positive =>
        show some ((compare e e').then (compare m m'))
          = some ((compare e e').then (compare (m : Int) (m' : Int)))
        rw [compare_natCast]
      case negative.negative =>
        show some ((compare e e').then (compare m m')).swap
          = some ((compare (-e) (-e')).then (compare (-(m : Int)) (-(m' : Int))))
        rw [compare_neg, compare_neg, compare_natCast, Ordering.swap_then]
      all_goals rfl

theorem lt_iff_compare (x y : Float) :
    x < y ↔ x.toModel.unpack.compare y.toModel.unpack = some .lt := by
  show decide ((x.toModel.unpack.compare y.toModel.unpack == some .lt) = true) = true ↔ _
  rw [decide_eq_true_iff, beq_iff_eq]

/-- NaN apart, numbers are compared by their places. -/
theorem numberOrder_eq_place {x y : Float} (hx : x.isNaN = false) (hy : y.isNaN = false) :
    numberOrder x y = placeOrder (place x.toModel.unpack) (place y.toModel.unpack) := by
  have hback : placeOrder (place y.toModel.unpack) (place x.toModel.unpack)
      = (placeOrder (place x.toModel.unpack) (place y.toModel.unpack)).swap := Std.OrientedCmp.eq_swap
  unfold numberOrder
  simp only [lt_iff_compare, compare_eq_place (x := x.toModel.unpack) hx hy,
    compare_eq_place (x := y.toModel.unpack) hy hx, Option.some_inj, hback]
  cases placeOrder (place x.toModel.unpack) (place y.toModel.unpack) <;> rfl

/-- NaN has no place among the numbers. -/
theorem compare_of_isNaN {x y : UnpackedFloat} (h : x.isNaN = true ∨ y.isNaN = true) :
    x.compare y = none := by
  cases x with
  | notANumber => rfl
  | infinity s | zero s | finite s m e hm =>
    cases y with
    | notANumber => rfl
    | infinity s' | zero s' | finite s' m' e' hm' => rcases h with h | h <;> cases h

/-- NaN ties with everything. -/
theorem numberOrder_of_isNaN {x y : Float} (h : x.isNaN = true ∨ y.isNaN = true) :
    numberOrder x y = .eq := by
  have hlt : ¬ x < y := by
    rw [lt_iff_compare, compare_of_isNaN h]
    nofun
  have hgt : ¬ y < x := by
    rw [lt_iff_compare, compare_of_isNaN h.symm]
    nofun
  unfold numberOrder
  rw [if_neg hlt, if_neg hgt]

theorem numberOrder_swap (x y : Float) : numberOrder y x = (numberOrder x y).swap := by
  by_cases h : x.isNaN = true ∨ y.isNaN = true
  · rw [numberOrder_of_isNaN h, numberOrder_of_isNaN h.symm]
    rfl
  · obtain ⟨hx, hy⟩ := not_or.1 h
    rw [Bool.not_eq_true] at hx hy
    rw [numberOrder_eq_place hx hy, numberOrder_eq_place hy hx]
    exact Std.OrientedCmp.eq_swap

theorem consistentOn_numberOrder : ConsistentOn (fun x => x.isNaN = false) numberOrder :=
  (ConsistentOn.of_transCmp placeOrder).of_key (fun x => place x.toModel.unpack)
    (fun _ _ => trivial) fun _ _ hx hy => numberOrder_eq_place hx hy

/-! ### Cells -/

/-- The kinds of cells that are compared in one way. -/
inductive CellKind where
  | number | list | word

namespace Cell

/-- Is a cell of a kind? Nothing is of every kind, and truth values and NaN are words: among these and
texts they are in the order of the texts that they are shown as. -/
def IsOf : CellKind → Cell → Prop
  | _, .null => True
  | .number, .number x => x.isNaN = false
  | .word, .number x => x.isNaN = true
  | .list, .list _ | .word, .text _ | .word, .bool _ => True
  | _, _ => False

/-- Turned around, two cells are compared the other way around. -/
theorem order_swap (a b : Cell) : b.order a = (a.order b).swap := by
  cases a with
  | null => cases b <;> rfl
  | number x =>
    cases b with
    | null => rfl
    | number y => exact numberOrder_swap x y
    | text _ | bool _ | list _ => exact textOrder_swap _ _
  | bool x =>
    cases b with
    | null => rfl
    | bool y => cases x <;> cases y <;> rfl
    | text _ | number _ | list _ => exact textOrder_swap _ _
  | list items =>
    cases b with
    | null => rfl
    | text _ | number _ | bool _ | list _ => exact textOrder_swap _ _
  | text s =>
    cases b with
    | null => rfl
    | text _ | number _ | bool _ | list _ => exact textOrder_swap _ _

/-- The number that a cell holds. -/
def held? : Cell → Option Float
  | .number x => some x
  | _ => none

/-- A text for a cell that is not empty. -/
def textBy? (text : Cell → String) : Cell → Option String
  | .null => none
  | c => some (text c)

theorem consistentOn_number : ConsistentOn (IsOf .number) order := by
  refine consistentOn_numberOrder.nothingFirst.of_key held? ?_ ?_
  · intro a ha x hx
    cases a <;> cases hx
    exact ha
  · intro a b ha hb
    cases a <;> cases b
    all_goals first | exact False.elim ha | exact False.elim hb | rfl

theorem consistentOn_text (text : Cell → String) :
    ConsistentOn (fun _ => True) fun a b => nothingFirst textOrder (textBy? text a) (textBy? text b) :=
  (ConsistentOn.of_transCmp textOrder).nothingFirst.of_key (textBy? text)
    (fun _ _ _ _ => trivial) fun _ _ _ _ => rfl

theorem consistentOn_list : ConsistentOn (IsOf .list) order := by
  refine (consistentOn_text fun c => join "," c.ids).of_key id (fun _ _ => trivial) ?_
  intro a b ha hb
  cases a <;> cases b
  all_goals
    first
    | exact False.elim ha
    | exact False.elim hb
    | simp only [order, ids, textBy?, nothingFirst, id]

theorem display_of_isNaN {x : Float} (h : x.isNaN = true) : (number x).display = "NaN" := if_pos h

theorem textOrder_self (t : String) : textOrder t t = .eq := Std.ReflCmp.compare_self

theorem consistentOn_word : ConsistentOn (IsOf .word) order := by
  refine (consistentOn_text display).of_key id (fun _ _ => trivial) ?_
  intro a b ha hb
  cases a <;> cases b
  case bool.bool x y =>
    -- the words of the truth values are in the order of the truth values
    cases x <;> cases y <;> decide
  case number.number x y =>
    -- numbers of this kind are NaN, and so are their texts
    simp only [order, textBy?, nothingFirst, id]
    rw [numberOrder_of_isNaN (.inl ha), display_of_isNaN ha, display_of_isNaN hb, textOrder_self]
  all_goals
    first
    | exact False.elim ha
    | exact False.elim hb
    | simp only [order, textBy?, nothingFirst, id]

theorem consistentOn_isOf (kind : CellKind) : ConsistentOn (IsOf kind) order := by
  cases kind with
  | number => exact consistentOn_number
  | list => exact consistentOn_list
  | word => exact consistentOn_word

/-- Of two kinds there are cells that stand in a circle. -/
theorem not_consistentOn_of_ne {kind kind' : CellKind} (hne : kind ≠ kind') :
    ¬ ConsistentOn (fun c => IsOf kind c ∨ IsOf kind' c) order := by
  have hnumberList : ¬ ConsistentOn (fun c => IsOf .number c ∨ IsOf .list c) order := fun h =>
    h.not_lt_of_lt (a := number 9) (b := number 10) (c := list ["5"]) (.inl rfl) (.inl rfl)
      (.inr trivial) rfl rfl rfl
  have hnumberWord : ¬ ConsistentOn (fun c => IsOf .number c ∨ IsOf .word c) order := fun h =>
    h.not_lt_of_lt (a := number 9) (b := number 10) (c := text "5") (.inl rfl) (.inl rfl)
      (.inr trivial) rfl rfl rfl
  -- between lists, items are joined without a blank
  have hlistWord : ¬ ConsistentOn (fun c => IsOf .list c ∨ IsOf .word c) order := fun h =>
    h.not_lt_of_lt (a := list ["a,!"]) (b := list ["a", "b"]) (c := text "a, c") (.inl trivial)
      (.inl trivial) (.inr trivial) rfl rfl rfl
  intro h
  cases kind <;> cases kind'
  case number.list => exact hnumberList h
  case number.word => exact hnumberWord h
  case list.word => exact hlistWord h
  case list.number => exact hnumberList (h.mono fun _ => Or.symm)
  case word.number => exact hnumberWord (h.mono fun _ => Or.symm)
  case word.list => exact hlistWord (h.mono fun _ => Or.symm)
  all_goals exact hne rfl

/-- Cells of some kinds are ordered consistently exactly if these are not two. -/
theorem consistentOn_kinds_iff (kinds : CellKind → Prop) :
    ConsistentOn (fun c => ∃ kind, kinds kind ∧ IsOf kind c) order ↔
      ∀ kind kind', kinds kind → kinds kind' → kind = kind' := by
  constructor
  · intro h kind kind' hkind hkind'
    by_contra hne
    apply not_consistentOn_of_ne hne
    apply h.mono
    rintro c (hc | hc)
    · exact ⟨kind, hkind, hc⟩
    · exact ⟨kind', hkind', hc⟩
  · intro hone
    by_cases hsome : ∃ kind, kinds kind
    · obtain ⟨kind, hkind⟩ := hsome
      apply (consistentOn_isOf kind).mono
      rintro c ⟨kind', hkind', hc⟩
      exact hone kind' kind hkind' hkind ▸ hc
    · -- of no kind at all there are no cells
      apply (consistentOn_isOf .word).mono
      rintro c ⟨kind, hkind, -⟩
      exact absurd ⟨kind, hkind⟩ hsome

/-- NaN ties with numbers that do not tie. -/
theorem not_consistentOn_of_nan :
    ¬ ConsistentOn (fun c => IsOf .number c ∨ c = number (0 / 0)) order := by
  intro h
  have htie : order (number 1) (number 2) = .eq :=
    h.tie_trans (b := number (0 / 0)) (.inl rfl) (.inr rfl) (.inl rfl) rfl rfl
  cases htie

end Cell

/-! ### Rows -/

/-- Rows are ordered consistently by columns that are. -/
theorem consistentOn_rowOrder {valueOf : Row → String → Cell} {s : Row → Prop} {sorts : List SortKey}
    (h : ∀ k ∈ sorts, ConsistentOn s fun a b => (valueOf a k.property).order (valueOf b k.property)) :
    ConsistentOn s (rowOrder valueOf sorts) := by
  induction sorts with
  | nil => exact ⟨fun _ _ => rfl, fun _ _ _ _ _ => rfl⟩
  | cons k sorts ih =>
    obtain ⟨hfirst, hrest⟩ := List.forall_mem_cons.1 h
    exact (hfirst.orient k.direction).andThen (ih hrest)

/-- Turned around, any two cells are compared the other way around, but that is all: the order of cells
is a total one up to ties exactly among the cells of a single kind, and not even among numbers if NaN is
one of them. Rows are ordered so if each column that they are sorted by has cells of one kind. -/
theorem order_consistent (a b : Cell) (kinds : CellKind → Prop) (valueOf : Row → String → Cell)
    (sorts : List SortKey) (s : Row → Prop) :
    b.order a = (a.order b).swap ∧
    (ConsistentOn (fun c => ∃ kind, kinds kind ∧ c.IsOf kind) Cell.order ↔
      ∀ kind kind', kinds kind → kinds kind' → kind = kind') ∧
    ¬ ConsistentOn (fun c => c.IsOf .number ∨ c = .number (0 / 0)) Cell.order ∧
    ((∀ k ∈ sorts, ∃ kind, ∀ r, s r → (valueOf r k.property).IsOf kind) →
      ConsistentOn s (rowOrder valueOf sorts)) := by
  refine ⟨Cell.order_swap a b, Cell.consistentOn_kinds_iff kinds, Cell.not_consistentOn_of_nan, ?_⟩
  intro hkinds
  apply consistentOn_rowOrder
  intro k hk
  obtain ⟨kind, hkind⟩ := hkinds k hk
  exact (Cell.consistentOn_isOf kind).of_key (valueOf · k.property) hkind fun _ _ _ _ => rfl

end Databook
