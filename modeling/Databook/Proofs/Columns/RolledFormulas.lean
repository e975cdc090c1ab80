import Databook.Pages.Memory
import Databook.Proofs.Columns.FormulaOutcomes
import Databook.View.Materialized

/-!
# Rollups over formulas

A rollup that sums up a formula column computes the formulas of the other document without its relations
and rollups. As long as the column does not mention one of these, directly or through other formula
columns (`Document.LinkFree`), it comes to the same as in the other document itself, errors included
(`Document.rollupColumn_of_linkFree`).

The two ways to compute a row run through the same steps with different contexts. A step keeps them in
agreement on the link-free columns (`FormulaPlan.RowState.Agree.evalStep`): a link-free formula sees
names of link-free columns only, and any other formula writes under names that these do not see.
-/

namespace Databook

open Formula (Expr Context)
open Calendar (Date)

/-- Does the name of `q` stand in the formula of `p`? -/
def Document.Mentions (d : Document) (p q : Property) : Prop :=
  p ∈ d.properties ∧ q ∈ d.properties ∧
    ∃ text e, p.formula? = some text ∧ FormulaPlan.readFormula text = .ok (some e) ∧ q.name ∈ e.columns

/-- Does a column lead to no relation or rollup, whatever mentioned columns are followed? -/
def Document.LinkFree (d : Document) (p : Property) : Prop :=
  ∀ q, Relation.ReflTransGen d.Mentions p q → q.relation? = none ∧ q.rollup? = none

/-- Formulas see a column that is no relation or rollup as it is stored. -/
theorem Property.seenValue_of_stored {p : Property} (hrelation : p.relation? = none)
    (hrollup : p.rollup? = none) (row : Row) (columns columns' : ColumnValues) :
    p.seenValue row columns' = p.seenValue row columns := by
  unfold Property.seenValue
  cases hkind : p.kind with
  | relation r =>
    rw [Property.relation?, hkind] at hrelation
    cases hrelation
  | rollup r =>
    rw [Property.rollup?, hkind] at hrollup
    cases hrollup
  | _ => rfl

theorem Property.kind_of_formula? {p : Property} {text : String} (h : p.formula? = some text) :
    p.kind = .formula text := by
  unfold formula? at h
  split at h
  · next hkind =>
    cases h
    exact hkind
  · cases h

theorem Document.LinkFree.mentioned {d : Document} {p q : Property} (h : d.LinkFree p)
    (hmentions : d.Mentions p q) : d.LinkFree q :=
  fun r hr => h r (.head hmentions hr)

/-- Does a step use columns of a kind only, and see no names but theirs? -/
structure FormulaStep.Within (d : Document) (own : Property → Prop) (step : FormulaStep) : Prop where
  uses : ∀ used ∈ step.uses, ∃ q ∈ d.properties, q.id = used ∧ own q
  names : ∀ e, step.expr = some e → ∀ name ∈ e.columns, ∀ q ∈ d.properties, q.name = name → own q

namespace FormulaPlan

variable {d : Document} {own : Property → Prop} {today : Date}

/-- Two states of a row that agree on the columns of a kind: on their values and errors, and on what
is bound to names that no other columns have. -/
structure RowState.Agree (d : Document) (own : Property → Prop) (s s' : RowState) : Prop where
  values : ∀ p ∈ d.properties, own p → s'.values.get? p.id = s.values.get? p.id
  errors : ∀ p ∈ d.properties, own p → s'.errors.get? p.id = s.errors.get? p.id
  context : ∀ name, (∀ p ∈ d.properties, p.name = name → own p) →
    s'.context.get? name = s.context.get? name

/-! ### One step -/

/-- A step notes down what it comes to. -/
theorem evalStep_eq_of_outcome (s : RowState) (step : FormulaStep) :
    evalStep d today s step = match step.outcome today s with
      | .error e => { s with errors := s.errors.insert step.id e }
      | .ok value =>
        { s with
          values := s.values.insert step.id value
          context := match d.property? step.id with
            | some p => s.context.insert p.name value
            | none => s.context } := by
  unfold evalStep FormulaStep.outcome
  cases step.uses.findSome? s.errors.get? with
  | some error => rfl
  | none => cases step.eval today s.context <;> rfl

/-- A name that other columns have is bound as before. -/
theorem get?_context_evalStep_of_ne {s : RowState} {step : FormulaStep} {name : String}
    (h : ∀ p, d.property? step.id = some p → p.name ≠ name) :
    (evalStep d today s step).context.get? name = s.context.get? name := by
  rcases evalStep_cases d today s step with ⟨-, hcontext⟩ | ⟨value, -, -, hcontext⟩
  · rw [hcontext]
  · rw [hcontext]
    cases hstep : d.property? step.id with
    | none => rfl
    | some p => rw [IdMap.get?_insert, if_neg (Ne.symm (h p hstep))]

namespace RowState.Agree

variable {s s' : RowState} {step : FormulaStep}

theorem outcome_eq (h : s.Agree d own s') (hstep : step.Within d own) :
    step.outcome today s' = step.outcome today s := by
  have huses : step.uses.findSome? s'.errors.get? = step.uses.findSome? s.errors.get? := by
    refine findSome?_congr fun used hused => ?_
    obtain ⟨q, hq, rfl, hown⟩ := hstep.uses used hused
    exact h.errors q hq hown
  have heval : step.eval today s'.context = step.eval today s.context := by
    unfold FormulaStep.eval
    cases hexpr : step.expr with
    | none => rfl
    | some e =>
      have hagree : Context.Agree s'.context s.context e.columns :=
        fun name hname => h.context name (hstep.names e hexpr name hname)
      exact congrArg (·.mapError Error.evaluation) (Expr.eval_congr today e hagree)
  rw [FormulaStep.outcome, FormulaStep.outcome, huses, heval]

/-- The step of a column of the kind does the same in both states. -/
theorem evalStep_within (h : s.Agree d own s') (hstep : step.Within d own) :
    (evalStep d today s step).Agree d own (evalStep d today s' step) := by
  rw [evalStep_eq_of_outcome, evalStep_eq_of_outcome, h.outcome_eq hstep]
  cases step.outcome today s with
  | error e =>
    refine ⟨h.values, fun p hp hown => ?_, h.context⟩
    rw [IdMap.get?_insert, IdMap.get?_insert, h.errors p hp hown]
  | ok value =>
    refine ⟨fun p hp hown => ?_, h.errors, fun name hname => ?_⟩
    · rw [IdMap.get?_insert, IdMap.get?_insert, h.values p hp hown]
    · cases d.property? step.id with
      | none => exact h.context name hname
      | some p =>
        dsimp only
        rw [IdMap.get?_insert, IdMap.get?_insert, h.context name hname]

/-- The step of another column touches nothing that belongs to a column of the kind. -/
theorem evalStep_apart (h : s.Agree d own s') (hids : (d.properties.map (·.id)).Nodup)
    (hstep : ∀ p, d.property? step.id = some p → ¬ own p) :
    (evalStep d today s step).Agree d own (evalStep d today s' step) := by
  have hne : ∀ p ∈ d.properties, own p → p.id ≠ step.id := fun p hp hown hid =>
    hstep p ((Document.property?_eq_some_iff hids).2 ⟨hp, hid⟩) hown
  refine ⟨fun p hp hown => ?_, fun p hp hown => ?_, fun name hname => ?_⟩
  · rw [get?_values_evalStep (hne p hp hown), get?_values_evalStep (hne p hp hown), h.values p hp hown]
  · rw [get?_errors_evalStep (hne p hp hown), get?_errors_evalStep (hne p hp hown), h.errors p hp hown]
  · have hother : ∀ p, d.property? step.id = some p → p.name ≠ name := fun p hp heq =>
      hstep p hp (hname p ((Document.property?_eq_some_iff hids).1 hp).1 heq)
    rw [get?_context_evalStep_of_ne hother, get?_context_evalStep_of_ne hother, h.context name hname]

theorem evalStep (h : s.Agree d own s') (hids : (d.properties.map (·.id)).Nodup)
    (hstep : ∀ p, d.property? step.id = some p → own p → step.Within d own) :
    (evalStep d today s step).Agree d own (evalStep d today s' step) := by
  by_cases hown : ∃ p, d.property? step.id = some p ∧ own p
  · obtain ⟨p, hp, hown⟩ := hown
    exact h.evalStep_within (hstep p hp hown)
  · push Not at hown
    exact h.evalStep_apart hids hown

/-! ### All steps -/

theorem foldl (h : s.Agree d own s') (hids : (d.properties.map (·.id)).Nodup)
    {steps : List FormulaStep}
    (hsteps : ∀ step ∈ steps, ∀ p, d.property? step.id = some p → own p → step.Within d own) :
    (steps.foldl (FormulaPlan.evalStep d today) s).Agree d own
      (steps.foldl (FormulaPlan.evalStep d today) s') := by
  induction steps generalizing s s' with
  | nil => exact h
  | cons step steps ih =>
    obtain ⟨hstep, hsteps⟩ := List.forall_mem_cons.1 hsteps
    exact ih (h.evalStep hids hstep) hsteps

end RowState.Agree

/-- Before any formula is evaluated, the values of relations and rollups are all that can differ. -/
theorem agree_rowStart (hown : ∀ p ∈ d.properties, own p → p.relation? = none ∧ p.rollup? = none)
    (plan : FormulaPlan) (columns columns' : ColumnValues) (row : Row) :
    (plan.rowStart d columns row).Agree d own (plan.rowStart d columns' row) where
  values _ _ _ := rfl
  errors _ _ _ := rfl
  context name hname := by
    show (d.rowContext row columns').get? name = (d.rowContext row columns).get? name
    rw [Document.get?_rowContext, Document.get?_rowContext]
    refine Option.map_congr fun p hp => ?_
    have hmem : p ∈ d.properties := List.mem_of_find?_eq_some hp
    obtain ⟨hrelation, hrollup⟩ := hown p hmem (hname p hmem (by simpa using List.find?_some hp))
    exact Property.seenValue_of_stored hrelation hrollup row columns columns'

/-- The formula of a link-free column uses and sees link-free columns only. -/
theorem within_of_linkFree (hids : (d.properties.map (·.id)).Nodup) {step : FormulaStep}
    (hstep : step ∈ (ofProperties d.properties).steps) {p : Property}
    (hp : d.property? step.id = some p) (hfree : d.LinkFree p) : step.Within d d.LinkFree := by
  obtain ⟨removed, order, failed, h⟩ := exists_planned hids
  obtain ⟨before, after, hsplit⟩ := List.append_of_mem hstep
  have hshape := (h.steps_behind hsplit).1
  obtain ⟨⟨p', text⟩, hcolumn, hid⟩ := List.mem_map.1
    (h.mem_order_iff.1 (List.mem_map_of_mem (f := (·.id)) hstep)).1
  obtain ⟨hmem, htext⟩ := mem_formulas.1 hcolumn
  -- the step is that of the formula of `p`
  obtain rfl : p' = p := Option.some_inj.1
    (((Document.property?_eq_some_iff hids).2 ⟨hmem, hid⟩).symm.trans hp)
  have hmentions : ∀ e, readFormula text = .ok (some e) → ∀ q ∈ d.properties, q.name ∈ e.columns →
      d.LinkFree q := fun e hread q hq hname =>
    hfree.mentioned ⟨hmem, hq, text, e, htext, hread, hname⟩
  constructor
  · intro used hused
    have huses : step.uses = usesOf (formulas d.properties) text := by
      rw [hshape, stepFor, ← hid]
      exact dependencies_graph h.ids hcolumn
    rw [huses] at hused
    cases hread : readFormula text with
    | error error => simp [usesOf, hread] at hused
    | ok read =>
      cases read with
      | none => simp [usesOf, hread] at hused
      | some e =>
        obtain ⟨name, hname, -, hnamed⟩ := (mem_usesOf_iff hread).1 hused
        obtain ⟨⟨q, text'⟩, hfind, rfl⟩ := Option.map_eq_some_iff.1 hnamed
        have hq := (mem_formulas.1 (List.mem_of_find?_eq_some hfind)).1
        have hqname : q.name = name := by simpa using List.find?_some hfind
        exact ⟨q, hq, rfl, hmentions e hread q hq (hqname ▸ hname)⟩
  · intro e hexpr name hname q hq hqname
    rw [hshape, stepFor] at hexpr
    cases hparsed : (parsed (formulas d.properties)).get? step.id with
    | none => simp [hparsed] at hexpr
    | some read =>
      obtain ⟨column, hcolumn', hid', hread⟩ := (get?_parsed h.ids).1 hparsed
      obtain rfl := List.inj_on_of_nodup_map h.ids hcolumn' hcolumn (hid'.trans hid.symm)
      obtain rfl : read = some e := by simpa [hparsed] using hexpr
      exact hmentions e hread q hq (hqname ▸ hname)

end FormulaPlan

namespace Document

variable {d : Document} {p : Property} {row : Row}

/-- A link-free formula column has the same values and errors whatever the relations and rollups are. -/
theorem formulaValues_of_linkFree (hids : (d.properties.map (·.id)).Nodup)
    (hrows : (d.rows.map (·.id)).Nodup) (hrow : row ∈ d.rows) (hp : p ∈ d.properties)
    (hfree : d.LinkFree p) (columns columns' : ColumnValues) (today : Date) :
    (d.formulaValues columns' today).value? row.id p.id
        = (d.formulaValues columns today).value? row.id p.id ∧
      (d.formulaValues columns' today).error? row.id p.id
        = (d.formulaValues columns today).error? row.id p.id := by
  have hown : ∀ q ∈ d.properties, d.LinkFree q → q.relation? = none ∧ q.rollup? = none :=
    fun q _ hq => hq q .refl
  have hstart := FormulaPlan.agree_rowStart hown (.ofProperties d.properties) columns columns' row
  have hagree : ((FormulaPlan.ofProperties d.properties).steps.foldl
      (FormulaPlan.evalStep d today) _).Agree d d.LinkFree _ :=
    hstart.foldl hids fun step hstep q hq hfree' => FormulaPlan.within_of_linkFree hids hstep hq hfree'
  unfold formulaValues
  rw [FormulaPlan.value?_resolve _ hrows hrow, FormulaPlan.value?_resolve _ hrows hrow,
    FormulaPlan.error?_resolve _ hrows hrow, FormulaPlan.error?_resolve _ hrows hrow]
  exact ⟨hagree.values p hp hfree, hagree.errors p hp hfree⟩

/-- A rollup over a link-free formula column sums up what the other document itself shows. There, with
relations and rollups computed from whatever store and cache, the column has the same value and the same
error for every row; and the rollup has for each row the sum of the cells shown for the linked rows. -/
theorem rollupColumn_of_linkFree {σ : Type} [PageStore σ] {target : Document}
    (hids : (target.properties.map (·.id)).Nodup) (hrows : (target.rows.map (·.id)).Nodup)
    (hp : p ∈ target.properties) (hformula : p.formula?.isSome = true) (hfree : target.LinkFree p)
    (store : σ) (cache : DocumentCache) (today : Date) :
    (∀ row ∈ target.rows,
      (target.formulaValues .empty today).value? row.id p.id
          = (target.computeWith store cache today).1.formulas.value? row.id p.id ∧
        (target.formulaValues .empty today).error? row.id p.id
          = (target.computeWith store cache today).1.formulas.error? row.id p.id) ∧
    ∀ (d : Document) (links : Links) (related : String → Option Document) (r : Rollup),
      d.rollupTarget? related r = some (target, p) →
      d.rollupColumn links related today r
        = .ofList (d.rows.map fun row => (row.id, p.rollUp r.aggregation
            (((links.linked r.relation row.id).filterMap target.row?).map
              ((target.computeWith store cache today).1.cell p)))) := by
  obtain ⟨columns, hcolumns⟩ : ∃ columns,
      (target.computeWith store cache today).1.formulas = target.formulaValues columns today := ⟨_, rfl⟩
  have hsame : ∀ row ∈ target.rows, _ := fun row hrow =>
    formulaValues_of_linkFree hids hrows hrow hp hfree columns .empty today
  rw [← hcolumns] at hsame
  refine ⟨hsame, fun d links related r htarget => ?_⟩
  have hcell : ∀ row ∈ target.rows, p.rolledValue (target.formulaValues .empty today) row
      = (target.computeWith store cache today).1.cell p row := by
    intro row hrow
    obtain ⟨text, htext⟩ := Option.isSome_iff_exists.1 hformula
    rw [Property.rolledValue, ComputedColumns.cell, Property.kind_of_formula? htext,
      (hsame row hrow).1]
  unfold rollupColumn
  rw [htarget]
  refine congrArg IdMap.ofList (List.map_congr_left fun row _ => ?_)
  refine congrArg (fun cells => (row.id, p.rollUp r.aggregation cells)) (List.map_congr_left ?_)
  intro linked hlinked
  obtain ⟨id, -, hfind⟩ := List.mem_filterMap.1 hlinked
  exact hcell linked (List.mem_of_find?_eq_some hfind)

/-! ### A formula over a formula -/

section Items

/-- A named item. -/
def itemRow : Row := ⟨"a", .ofList [("s", .text "y")], .epoch, .epoch⟩

/-- Items with a formula over their name, a formula over that formula, and a formula over links. -/
def items : Document where
  properties := [.fresh "s" "N" .text, .fresh "l" "L" (.relation ⟨"other", .forward none⟩),
    .fresh "f" "F" (.formula "N"), .fresh "h" "H" (.formula "F"), .fresh "g" "G" (.formula "L")]
  rows := [itemRow]
  views := []

/-- An order of an item that shows it by the formula over a formula. -/
def orders : Document where
  properties := [.fresh "o" "O" (.relation ⟨"items", .forward none⟩),
    .fresh "u" "U" (.rollup ⟨"o", "h", .showValues⟩)]
  rows := [⟨"r", .ofList [("o", .list ["a", "gone"])], .epoch, .epoch⟩]
  views := []

/-- The formula leads to the stored name and to nothing else. -/
theorem linkFree_items : items.LinkFree (.fresh "h" "H" (.formula "F")) := by
  have hF : FormulaPlan.readFormula "F" = .ok (some (.column "F")) := readFormula_of_name rfl rfl
  have hN : FormulaPlan.readFormula "N" = .ok (some (.column "N")) := readFormula_of_name rfl rfl
  intro q hq
  have hreach : q = .fresh "h" "H" (.formula "F") ∨ q = .fresh "f" "F" (.formula "N") ∨
      q = .fresh "s" "N" .text := by
    induction hq with
    | refl => exact .inl rfl
    | tail _ hstep ih =>
      obtain ⟨-, hmem, text, e, htext, hread, hname⟩ := hstep
      simp only [items, List.mem_cons, List.not_mem_nil, or_false] at hmem
      rcases ih with rfl | rfl | rfl <;> cases htext
      · rw [hF] at hread
        cases hread
        rcases hmem with rfl | rfl | rfl | rfl | rfl <;> simp_all [Property.fresh, Expr.columns]
      · rw [hN] at hread
        cases hread
        rcases hmem with rfl | rfl | rfl | rfl | rfl <;> simp_all [Property.fresh, Expr.columns]
  rcases hreach with rfl | rfl | rfl <;> exact ⟨rfl, rfl⟩

/-- The order shows its item, and not the one that is gone, as the page of the items does. -/
theorem rollupColumn_of_linkFree_items :
    items.LinkFree (.fresh "h" "H" (.formula "F")) ∧
    orders.rollupColumn (orders.links fun _ => some items) (fun _ => some items) default
        ⟨"o", "h", .showValues⟩
      = .ofList [("r", (Property.fresh "h" "H" (.formula "F")).rollUp .showValues
          [(items.computeWith MemoryStore.empty .empty default).1.cell
            (.fresh "h" "H" (.formula "F")) itemRow])] := by
  refine ⟨linkFree_items, ?_⟩
  exact (rollupColumn_of_linkFree (by decide) (by decide) (by simp [items]) rfl linkFree_items
    MemoryStore.empty .empty default).2 orders (orders.links fun _ => some items)
      (fun _ => some items) ⟨"o", "h", .showValues⟩ rfl

end Items

end Document

end Databook
