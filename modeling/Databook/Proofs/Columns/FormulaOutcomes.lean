import Databook.Proofs.Columns.FormulaValues

/-!
# What formula cells show

Each formula column shows one thing for each row: a value, or the error for which it has none
(`Document.exists_shows`). A column without a place in the order shows its error on every row. A column
that is evaluated shows the error of the first column that it uses and that has one, or else what its
formula gives in the context at that time (`FormulaPlan.shows_evalRow`).
-/

namespace Databook

open Formula (Expr Context Function)
open Calendar (Date)

/-- A cell shows its value, or an error and no value. -/
def Showing (value : Option Cell) (error : Option Error) : Except Error Cell → Prop
  | .ok c => value = some c ∧ error = none
  | .error e => error = some e ∧ value = none

namespace FormulaValues

/-- The error of a property for a row. -/
def error? (v : FormulaValues) (row property : String) : Option Error :=
  (v.errors.get? row).bind (·.get? property)

/-- What a cell shows. -/
def Shows (v : FormulaValues) (row property : String) : Except Error Cell → Prop :=
  Showing (v.value? row property) (v.error? row property)

variable {v : FormulaValues} {row property : String} {o o' : Except Error Cell}

/-- A cell shows one thing only. -/
theorem Shows.unique (h : v.Shows row property o) (h' : v.Shows row property o') : o = o' := by
  cases o <;> cases o' <;> simp_all [Shows, Showing]

end FormulaValues

/-- What evaluating a formula comes to: the error of the first column that it uses and that has one,
or what the formula gives. -/
def FormulaStep.outcome (today : Date) (s : FormulaPlan.RowState) (step : FormulaStep) :
    Except Error Cell :=
  match step.uses.findSome? s.errors.get? with
  | some error => .error error
  | none => step.eval today s.context

namespace FormulaPlan

variable {d : Document} {today : Date} {columns : ColumnValues} {row : Row}

/-! ### One row -/

/-- What a cell shows while its row is evaluated. -/
def RowState.Shows (s : RowState) (id : String) : Except Error Cell → Prop :=
  Showing (s.values.get? id) (s.errors.get? id)

theorem get?_errors_evalStep {s : RowState} {step : FormulaStep} {id : String} (h : id ≠ step.id) :
    (evalStep d today s step).errors.get? id = s.errors.get? id := by
  unfold evalStep
  split
  · rw [IdMap.get?_insert, if_neg h]
  · split
    · rw [IdMap.get?_insert, if_neg h]
    · rfl

theorem get?_errors_foldl {steps : List FormulaStep} {s : RowState} {id : String}
    (h : id ∉ steps.map (·.id)) :
    (steps.foldl (evalStep d today) s).errors.get? id = s.errors.get? id := by
  induction steps generalizing s with
  | nil => rfl
  | cons step steps ih =>
    rw [List.map_cons, List.mem_cons, not_or] at h
    rw [List.foldl_cons, ih h.2, get?_errors_evalStep h.1]

/-- Later formulas leave a cell as it is. -/
theorem RowState.Shows.foldl {steps : List FormulaStep} {s : RowState} {id : String}
    {o : Except Error Cell} (h : s.Shows id o) (hid : id ∉ steps.map (·.id)) :
    (steps.foldl (evalStep d today) s).Shows id o := by
  unfold RowState.Shows at h ⊢
  rw [get?_values_foldl hid, get?_errors_foldl hid]
  exact h

theorem shows_evalStep {s : RowState} {step : FormulaStep} (hvalue : s.values.get? step.id = none)
    (herror : s.errors.get? step.id = none) :
    (evalStep d today s step).Shows step.id (step.outcome today s) := by
  unfold evalStep FormulaStep.outcome
  cases huses : step.uses.findSome? s.errors.get? with
  | some error => exact ⟨by simp [IdMap.get?_insert], hvalue⟩
  | none =>
    cases heval : step.eval today s.context with
    | error e => exact ⟨by simp [IdMap.get?_insert], hvalue⟩
    | ok value => exact ⟨by simp [IdMap.get?_insert], herror⟩

/-- Before its turn a formula has neither a value nor an error. -/
theorem shows_evalRow {plan : FormulaPlan} (hnodup : plan.order.Nodup)
    (hfailed : ∀ id ∈ plan.order, plan.failed.get? id = none) {before after : List FormulaStep}
    {step : FormulaStep} (hsplit : plan.steps = before ++ step :: after) :
    (plan.evalRow d columns today row).Shows step.id
      (step.outcome today (before.foldl (evalStep d today) (plan.rowStart d columns row))) := by
  have hstep : step.id ∈ plan.order := by
    rw [order, hsplit]
    exact List.mem_map_of_mem (List.mem_append_right _ List.mem_cons_self)
  rw [order, hsplit, List.map_append, List.map_cons] at hnodup
  obtain ⟨-, htail, hapart⟩ := List.nodup_append.1 hnodup
  have hafter : step.id ∉ after.map (·.id) := (List.nodup_cons.1 htail).1
  have hbefore : step.id ∉ before.map (·.id) :=
    fun hmem => hapart _ hmem _ List.mem_cons_self rfl
  rw [evalRow_eq, hsplit, List.foldl_append, List.foldl_cons]
  refine (shows_evalStep ?_ ?_).foldl hafter
  · rw [get?_values_foldl hbefore]
    rfl
  · rw [get?_errors_foldl hbefore]
    exact hfailed step.id hstep

/-- A column without a step shows the error with which it has failed. -/
theorem shows_evalRow_of_failed {plan : FormulaPlan} {id : String} {error : Error}
    (hid : id ∉ plan.order) (herror : plan.failed.get? id = some error) :
    (plan.evalRow d columns today row).Shows id (.error error) := by
  rw [evalRow_eq]
  exact RowState.Shows.foldl ⟨herror, rfl⟩ hid

/-! ### All rows -/

/-- Rows without errors are left out of the errors. -/
theorem errors_foldl_rows (f : Row → RowState) (rows : List Row) (result : FormulaValues) :
    (rows.foldl (fun result row =>
        { result with
          values := result.values.insert row.id (f row).values
          errors := if (f row).errors.isEmpty then result.errors
            else result.errors.insert row.id (f row).errors }) result).errors
      = ((rows.filter fun row => !(f row).errors.isEmpty).map fun row => (row.id, (f row).errors)).foldl
          (fun m entry => m.insert entry.1 entry.2) result.errors := by
  induction rows generalizing result with
  | nil => rfl
  | cons row rows ih =>
    rw [List.foldl_cons, ih, List.filter_cons]
    cases (f row).errors.isEmpty <;> rfl

/-- The errors of a row have an entry as soon as there are any. -/
theorem isSome_errors_resolve {plan : FormulaPlan} (hrow : row ∈ d.rows)
    (hsome : (plan.evalRow d columns today row).errors.isEmpty = false) :
    ((plan.resolve d columns today).errors.get? row.id).isSome = true := by
  have herrors := errors_foldl_rows (plan.evalRow d columns today) d.rows ⟨plan.order, .empty, .empty⟩
  unfold resolve
  rw [herrors, ← IdMap.ofList]
  refine IdMap.isSome_get?_ofList (List.mem_map.2 ⟨row, List.mem_filter.2 ⟨hrow, ?_⟩, rfl⟩)
  rw [hsome]
  rfl

/-- An entry for errors is that of a row that has some. -/
theorem exists_row_of_errors_resolve {plan : FormulaPlan} {id : String} {errors : IdMap Error}
    (h : (plan.resolve d columns today).errors.get? id = some errors) :
    ∃ row ∈ d.rows, row.id = id ∧ (plan.evalRow d columns today row).errors = errors ∧
      errors.isEmpty = false := by
  have herrors := errors_foldl_rows (plan.evalRow d columns today) d.rows ⟨plan.order, .empty, .empty⟩
  unfold resolve at h
  rw [herrors, ← IdMap.ofList] at h
  obtain ⟨row, hrow, hentry⟩ := List.mem_map.1 (IdMap.mem_of_get?_ofList h)
  obtain ⟨hrow, hsome⟩ := List.mem_filter.1 hrow
  cases hentry
  exact ⟨row, hrow, rfl, rfl, by simpa using hsome⟩

theorem error?_resolve (plan : FormulaPlan) (hrows : (d.rows.map (·.id)).Nodup) (hrow : row ∈ d.rows)
    (id : String) :
    (plan.resolve d columns today).error? row.id id
      = (plan.evalRow d columns today row).errors.get? id := by
  unfold FormulaValues.error?
  cases hget : (plan.resolve d columns today).errors.get? row.id with
  | some errors =>
    obtain ⟨row', hrow', hid, rfl, -⟩ := exists_row_of_errors_resolve hget
    obtain rfl := List.inj_on_of_nodup_map hrows hrow' hrow hid
    rfl
  | none =>
    have hempty : (plan.evalRow d columns today row).errors.isEmpty = true := by
      rw [← Bool.not_eq_false]
      intro hsome
      have hentry := isSome_errors_resolve hrow hsome
      rw [hget] at hentry
      cases hentry
    rw [IdMap.eq_empty_of_isEmpty hempty]
    rfl

theorem shows_resolve (plan : FormulaPlan) (hrows : (d.rows.map (·.id)).Nodup) (hrow : row ∈ d.rows)
    {id : String} {o : Except Error Cell} :
    (plan.resolve d columns today).Shows row.id id o
      ↔ (plan.evalRow d columns today row).Shows id o := by
  unfold FormulaValues.Shows RowState.Shows
  rw [value?_resolve plan hrows hrow, error?_resolve plan hrows hrow]

/-! ### The columns of a document -/

section Planned

variable {properties : List (Property × String)} {removed order : List String} {failed : IdMap Error}
  {plan : FormulaPlan}

theorem Planned.get?_failed_of_mem (h : Planned properties removed order failed plan) {id : String}
    (hid : id ∈ plan.order) : plan.failed.get? id = none :=
  contains_eq_false_iff.1 (h.mem_order_iff.1 hid).2

/-- A column that is evaluated, at its place among the others. -/
theorem exists_split {id : String} (hid : id ∈ plan.order) :
    ∃ before step after, plan.steps = before ++ step :: after ∧ step.id = id := by
  obtain ⟨step, hstep, rfl⟩ := List.mem_map.1 hid
  obtain ⟨before, after, hsplit⟩ := List.append_of_mem hstep
  exact ⟨before, step, after, hsplit, rfl⟩

end Planned

end FormulaPlan

namespace Document

variable {d : Document} {row : Row}

/-- A column that cannot be evaluated shows the same error on every row. -/
theorem shows_of_failed (hids : (d.properties.map (·.id)).Nodup) (hrows : (d.rows.map (·.id)).Nodup)
    (columns : ColumnValues) (today : Date) (hrow : row ∈ d.rows) {id : String} {error : Error}
    (herror : (FormulaPlan.ofProperties d.properties).failed.get? id = some error) :
    (d.formulaValues columns today).Shows row.id id (.error error) := by
  obtain ⟨removed, order, failed, h⟩ := FormulaPlan.exists_planned hids
  refine (FormulaPlan.shows_resolve _ hrows hrow).2 (FormulaPlan.shows_evalRow_of_failed ?_ herror)
  intro hmem
  rw [h.get?_failed_of_mem hmem] at herror
  cases herror

/-- A column that is evaluated shows what its step comes to. -/
theorem shows_of_split (hids : (d.properties.map (·.id)).Nodup) (hrows : (d.rows.map (·.id)).Nodup)
    (columns : ColumnValues) (today : Date) (hrow : row ∈ d.rows) {before after : List FormulaStep}
    {step : FormulaStep}
    (hsplit : (FormulaPlan.ofProperties d.properties).steps = before ++ step :: after) :
    (d.formulaValues columns today).Shows row.id step.id
      (step.outcome today (before.foldl (FormulaPlan.evalStep d today)
        ((FormulaPlan.ofProperties d.properties).rowStart d columns row))) := by
  obtain ⟨removed, order, failed, h⟩ := FormulaPlan.exists_planned hids
  exact (FormulaPlan.shows_resolve _ hrows hrow).2
    (FormulaPlan.shows_evalRow h.nodup_order (fun _ => h.get?_failed_of_mem) hsplit)

/-- Each formula column shows a value or an error for each row. -/
theorem exists_shows (hids : (d.properties.map (·.id)).Nodup) (hrows : (d.rows.map (·.id)).Nodup)
    (columns : ColumnValues) (today : Date) (hrow : row ∈ d.rows) {p : Property}
    (hp : p ∈ d.properties) (hformula : p.formula?.isSome = true) :
    ∃ o, (d.formulaValues columns today).Shows row.id p.id o := by
  obtain ⟨removed, order, failed, h⟩ := FormulaPlan.exists_planned hids
  obtain ⟨expression, hexpression⟩ := Option.isSome_iff_exists.1 hformula
  have hcolumn := List.mem_map_of_mem (f := (·.1.id)) (FormulaPlan.mem_formulas.2 ⟨hp, hexpression⟩)
  cases hget : (FormulaPlan.ofProperties d.properties).failed.get? p.id with
  | some error => exact ⟨_, shows_of_failed hids hrows columns today hrow hget⟩
  | none =>
    have hid := h.mem_order_iff.2 ⟨hcolumn, FormulaPlan.contains_eq_false_iff.2 hget⟩
    obtain ⟨before, step, after, hsplit, hstep⟩ := FormulaPlan.exists_split hid
    rw [← hstep]
    exact ⟨_, shows_of_split hids hrows columns today hrow hsplit⟩

end Document

end Databook
