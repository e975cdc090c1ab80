import Databook.Formula.Eval
import Databook.Formula.Parser
import Databook.Proofs.Cell
import Databook.Query.Filter

/-!
# Filters as formulas

The tests of filters that compare a cell with a value can be written as formulas over two columns
(`FilterOperator.formula?`, `FilterOperator.formulaText?`). Filters look at the cells themselves and
formulas at their flattened values, and formulas take equal values for equal whatever their texts
are. Both make no difference: flattening keeps the readings of a cell, and equal values have equal
texts. So a formula of this kind has the truth value of the test
(`FilterOperator.passes_as_formula`) for all properties that are compared by their texts, which all
are but checkboxes and multiple selects.
-/

namespace Databook

open Formula (Expr Context looselyEqual)
open Calendar (Date)

namespace FilterOperator

/-- The formula that puts a value to a test with another one, for the tests that compare. -/
def formula? (op : FilterOperator) (left right : Expr) : Option Expr :=
  match op with
  | equals => some (.binary .eq left right)
  | notEquals => some (.binary .ne left right)
  | contains => some (.call "contains" [left, right])
  | doesNotContain => some (.unary .not (.call "contains" [left, right]))
  | gt => some (.binary .gt left right)
  | gte => some (.binary .ge left right)
  | lt => some (.binary .lt left right)
  | lte => some (.binary .le left right)
  | isEmpty | isNotEmpty | before | after | unknown _ => none

/-- The formula as users write it for columns `A` and `B`. -/
def formulaText? : FilterOperator → Option String
  | equals => some "A == B"
  | notEquals => some "A != B"
  | contains => some "contains(A, B)"
  | doesNotContain => some "not contains(A, B)"
  | gt => some "A > B"
  | gte => some "A >= B"
  | lt => some "A < B"
  | lte => some "A <= B"
  | isEmpty | isNotEmpty | before | after | unknown _ => none

theorem parse_formulaText? {op : FilterOperator} {text : String} (h : op.formulaText? = some text) :
    ∃ e, Formula.parse text = .ok e ∧ op.formula? (.column "A") (.column "B") = some e := by
  cases op with
  | isEmpty | isNotEmpty | before | after | unknown => cases h
  | _ =>
    cases h
    exact ⟨_, by cbv, rfl⟩

end FilterOperator

/-! ### Comparing -/

/-- Formulas find two values equal if their texts are. -/
theorem looselyEqual_eq (a b : Cell) : looselyEqual a b = (a.display == b.display) := by
  unfold looselyEqual
  cases h : a == b with
  | false => rw [Bool.false_or]
  | true => rw [Cell.display_of_beq h, beq_self_eq_true, Bool.or_self]

section Comparing

variable {p : Property} {today : Date} {context : Context} {left right : Expr} {a b : Cell}

theorem matchesCell_eq (hcheckbox : p.type ≠ .checkbox) (hmultiple : p.type ≠ .multiSelect)
    (a b : Cell) : p.kind.matchesCell a b = (a.display == b.display) := by
  unfold Property.type at hcheckbox hmultiple
  cases hkind : p.kind with
  | checkbox => exact absurd (congrArg PropertyKind.type hkind) hcheckbox
  | multiSelect options => exact absurd (congrArg PropertyKind.type hkind) hmultiple
  | _ => rfl

theorem eval_contains (hleft : left.eval today context = .ok a.flatten)
    (hright : right.eval today context = .ok b.flatten) :
    (Expr.call "contains" [left, right]).eval today context = .ok (.bool (a.containsText b)) := by
  have hargs : Formula.evalList today context [left, right] = .ok [a.flatten, b.flatten] := by
    rw [Formula.evalList, hleft, Formula.evalList, hright, Formula.evalList]
    rfl
  have happly : Formula.Function.contains.apply today "contains" [a.flatten, b.flatten]
      = .ok (.bool (a.containsText b)) := by
    rw [Formula.Function.apply, Cell.display_flatten, Cell.display_flatten]
    rfl
  have hnamed : Formula.Function.named? "contains" = some .contains := rfl
  rw [Expr.eval, hnamed]
  simp only [hargs]
  exact happly

/-- The formula of a test over whatever has the values of the cells. -/
theorem eval_formula (hcheckbox : p.type ≠ .checkbox) (hmultiple : p.type ≠ .multiSelect)
    {op : FilterOperator} {e : Expr} (hleft : left.eval today context = .ok a.flatten)
    (hright : right.eval today context = .ok b.flatten) (h : op.formula? left right = some e) :
    e.eval today context = .ok (.bool (op.passes p.kind a b)) := by
  cases op with
  | equals | notEquals =>
    cases h
    simp only [Expr.eval, hleft, hright, FilterOperator.passes, matchesCell_eq hcheckbox hmultiple]
    show Except.ok _ = Except.ok _
    rw [looselyEqual_eq, Cell.display_flatten, Cell.display_flatten]
  | gt | gte | lt | lte =>
    cases h
    simp only [Expr.eval, hleft, hright, FilterOperator.passes]
    show Except.ok _ = Except.ok _
    rw [Cell.toNumber_flatten, Cell.toNumber_flatten]
  | contains =>
    cases h
    exact eval_contains hleft hright
  | doesNotContain =>
    cases h
    rw [Expr.eval, eval_contains hleft hright]
    rfl
  | isEmpty | isNotEmpty | before | after | unknown => cases h

end Comparing

/-- **Filters and formulas agree.** For a property that is neither a checkbox nor a multiple select,
a cell `a` passes a comparing test with `b` exactly if the formula of the test is true where one
column has the value `a` and another the value `b`; if not, the formula is false, and never an error.
For columns `A` and `B` these are the formulas `A == B`, `A != B`, `contains(A, B)`,
`not contains(A, B)`, `A > B`, `A >= B`, `A < B` and `A <= B`. -/
theorem FilterOperator.passes_as_formula (op : FilterOperator) {p : Property}
    (hcheckbox : p.type ≠ .checkbox) (hmultiple : p.type ≠ .multiSelect) (a b : Cell) (today : Date)
    (context : Context) :
    (∀ left right e, op.formula? (.column left) (.column right) = some e →
      context.get? left = some a → context.get? right = some b →
      e.eval today context = .ok (.bool (op.passes p.kind a b))) ∧
    ∀ text, op.formulaText? = some text → context.get? "A" = some a → context.get? "B" = some b →
      ∃ e, Formula.parse text = .ok e ∧
        e.eval today context = .ok (.bool (op.passes p.kind a b)) := by
  have hcolumn : ∀ {name : String} {c : Cell}, context.get? name = some c →
      (Expr.column name).eval today context = .ok c.flatten := by
    intro name c hc
    rw [Expr.eval, Context.column, hc]
  refine ⟨fun left right e he ha hb => ?_, fun text htext ha hb => ?_⟩
  · exact eval_formula hcheckbox hmultiple (hcolumn ha) (hcolumn hb) he
  · obtain ⟨e, hparse, he⟩ := parse_formulaText? htext
    exact ⟨e, hparse, eval_formula hcheckbox hmultiple (hcolumn ha) (hcolumn hb) he⟩

/-- A list of links and the text that it is shown as are equal for a filter and for a formula. -/
theorem FilterOperator.passes_as_formula_links :
    (Property.fresh "l" "L" (.relation ⟨"page", .forward none⟩)).type ≠ .checkbox ∧
    (Property.fresh "l" "L" (.relation ⟨"page", .forward none⟩)).type ≠ .multiSelect ∧
    ∃ e, Formula.parse "A == B" = .ok e ∧
      e.eval default (.ofList [("A", .list ["x", "y"]), ("B", .text "x, y")])
        = .ok (.bool true) := by
  refine ⟨by decide, by decide, ?_⟩
  exact (FilterOperator.passes_as_formula .equals
    (p := .fresh "l" "L" (.relation ⟨"page", .forward none⟩)) (by decide) (by decide)
    (.list ["x", "y"]) (.text "x, y") default
    (.ofList [("A", .list ["x", "y"]), ("B", .text "x, y")])).2 "A == B" rfl rfl rfl

end Databook
