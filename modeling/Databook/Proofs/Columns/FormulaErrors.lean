import Databook.Proofs.Columns.FormulaReadings

/-!
# Where the errors of formula cells come from

On each row a formula column shows a value or an error. Main statement (`Document.errors_travel`): it
shows an error if it fails in the plan, if a column that it uses shows one, or if its formula gives one
for the values of the columns before it; and errors travel unchanged to the columns that use a failing
one, over any number of steps, but nowhere else.

A column that takes its error from another (`Document.TakesFrom`) takes it from one that comes earlier,
so that going back from column to column ends at one that has the error of itself
(`Document.OwnError`).
-/

namespace Databook

open Formula (Context)
open Calendar (Date)

/-- The first that gives something is found by what it gives. -/
theorem findSome?_eq_bind_find? (f : α → Option β) (l : List α) :
    l.findSome? f = (l.find? fun a => (f a).isSome).bind f := by
  induction l with
  | nil => rfl
  | cons a l ih =>
    rw [List.findSome?_cons, List.find?_cons]
    cases hf : f a with
    | some b => simp [hf]
    | none => exact ih

namespace FormulaPlan

/-- An error that a column has in a plan of itself: that its formula cannot be read, or that of a circle
that it is on. -/
def OwnFailure (columns : List (Property × String)) (id : String) (error : Error) : Prop :=
  Unreadable columns id error ∨
    ∃ circle, (graph columns).IsCircle circle ∧ id ∈ circle ∧
      error = .circular (circle.map (nameOf columns))

namespace Planned

variable {columns : List (Property × String)} {removed order : List String} {failed : IdMap Error}
  {plan : FormulaPlan} {n : String} {error : Error}

theorem ownFailure_of_mem_removed (h : Planned columns removed order failed plan) (hn : n ∈ removed)
    (hget : plan.failed.get? n = some error) : OwnFailure columns n error := by
  obtain ⟨circle, hcircle, hmem, hget'⟩ := h.get?_of_mem_removed hn
  rw [hget, Option.some_inj] at hget'
  exact .inr ⟨circle, hcircle, hmem, hget'⟩

/-- A column that does not fail of itself fails with the first failing column that it uses. -/
theorem get?_of_not_own (h : Planned columns removed order failed plan)
    (hn : plan.failed.get? n = some error) (hown : ¬ OwnFailure columns n error) :
    n ∈ order ∧ ((graph columns).dependencies n).findSome? plan.failed.get? = some error := by
  rcases h.reasons_of_get? hn with hread | hcircle | ⟨horder, -⟩
  · exact absurd (.inl hread) hown
  · exact absurd (.inr hcircle) hown
  refine ⟨horder, ?_⟩
  rw [← h.get?_of_mem_order horder fun e he => ?_, hn]
  have hsame := h.get?_of_unreadable he
  rw [hn, Option.some_inj] at hsame
  exact hown (.inl (hsame ▸ he))

end Planned

end FormulaPlan

namespace Document

/-- The formula columns that a formula column uses. -/
def usedBy (d : Document) (id : String) : List String :=
  (FormulaPlan.graph (FormulaPlan.formulas d.properties)).dependencies id

/-- The plan records what the columns use that have a place in it. -/
theorem uses_eq_usedBy {d : Document} (hids : (d.properties.map (·.id)).Nodup) {step : FormulaStep}
    (hstep : step ∈ (FormulaPlan.ofProperties d.properties).steps) : step.uses = d.usedBy step.id := by
  obtain ⟨removed, order, failed, h⟩ := FormulaPlan.exists_planned hids
  obtain ⟨before, after, hsplit⟩ := List.append_of_mem hstep
  exact congrArg FormulaStep.uses (h.steps_behind hsplit).1

/-- The context in which a formula column is evaluated: that of the row, into which the columns before it
that have values have put them by their names. -/
def contextBefore (d : Document) (row : Row) (columns : ColumnValues) (values : FormulaValues)
    (id : String) : Context :=
  (values.order.takeWhile (· != id)).foldl (fun context before =>
      match d.property? before, values.value? row.id before with
      | some p, some value => context.insert p.name value
      | _, _ => context)
    (d.rowContext row columns)

/-- The column `a` has the error of `b`. If it fails in the plan, though not of itself, `b` is the first
of the columns that it uses that fails there; if it does not, the first that has an error on the row. -/
inductive TakesFrom (d : Document) (values : FormulaValues) (row : String) : String → String → Prop
  | planned {a b : String} {error : Error} :
      (FormulaPlan.ofProperties d.properties).failed.get? a = some error →
      ¬ FormulaPlan.OwnFailure (FormulaPlan.formulas d.properties) a error →
      (d.usedBy a).find? (fun used =>
        ((FormulaPlan.ofProperties d.properties).failed.get? used).isSome) = some b →
      TakesFrom d values row a b
  | onRow {a b : String} :
      (FormulaPlan.ofProperties d.properties).failed.get? a = none →
      (d.usedBy a).find? (fun used => (values.error? row used).isSome) = some b →
      TakesFrom d values row a b

/-- An error that a column has on a row of itself: in the plan, or because its formula gives it. -/
inductive OwnError (d : Document) (columns : ColumnValues) (today : Date) (row : Row) :
    String → Error → Prop
  | planned {id : String} {error : Error} :
      (FormulaPlan.ofProperties d.properties).failed.get? id = some error →
      FormulaPlan.OwnFailure (FormulaPlan.formulas d.properties) id error →
      OwnError d columns today row id error
  | evaluated {p : Property} {text : String} {error : Error} :
      p ∈ d.properties → p.formula? = some text →
      (FormulaPlan.ofProperties d.properties).failed.get? p.id = none →
      (∀ used ∈ d.usedBy p.id, (d.formulaValues columns today).error? row.id used = none) →
      formulaValue today (d.contextBefore row columns (d.formulaValues columns today) p.id) text
        = .error error →
      OwnError d columns today row p.id error

/-! ### The context of a column -/

section Context

variable {d : Document} {row : Row} {columns : ColumnValues} {values : FormulaValues}

/-- Putting values in by the names of their columns gives each name that of the last. -/
theorem get?_foldl_named (ids : List String) (value? : String → Option Cell) (context : Context)
    (name : String) :
    (ids.foldl (fun context before =>
        match d.property? before, value? before with
        | some p, some value => context.insert p.name value
        | _, _ => context) context).get? name
      = (d.lastNamed? ids value? name).or (context.get? name) := by
  induction ids generalizing context with
  | nil => rfl
  | cons id ids ih =>
    have hlast : d.lastNamed? (id :: ids) value? name = (d.lastNamed? ids value? name).or
        (if (d.property? id).any (·.name == name) then value? id else none) := by
      unfold lastNamed?
      rw [List.reverse_cons, List.findSome?_append, List.findSome?_singleton]
    rw [List.foldl_cons, ih, hlast, Option.or_assoc]
    congr 1
    cases d.property? id with
    | none => rfl
    | some p =>
      cases value? id with
      | none => simp
      | some value =>
        by_cases hname : name = p.name
        · simp [IdMap.get?_insert, hname]
        · simp [IdMap.get?_insert, hname, Ne.symm hname]

theorem get?_contextBefore (p : Property) (name : String) :
    (d.contextBefore row columns values p.id).get? name = d.seenAs? row columns values p name :=
  get?_foldl_named _ _ _ _

end Context

/-! ### One column -/

section Errors

variable {d : Document} {row : Row} {columns : ColumnValues} {today : Date} {p : Property}
  {text id a b : String} {error : Error} {removed order : List String} {failed : IdMap Error}

/-- Only formula columns use columns. -/
theorem exists_formula_of_mem_usedBy {used : String} (h : used ∈ d.usedBy id) :
    ∃ p ∈ d.properties, ∃ text, p.formula? = some text ∧ p.id = id := by
  refine FormulaPlan.exists_formula_of_mem_formulas ?_
  rw [← FormulaPlan.nodes_graph]
  exact DependencyGraph.mem_nodes_of_mem_dependencies h

theorem TakesFrom.mem_usedBy {values : FormulaValues} (h : d.TakesFrom values row.id a b) :
    b ∈ d.usedBy a := by
  cases h with
  | planned _ _ hfirst => exact List.mem_of_find?_eq_some hfirst
  | onRow _ hfirst => exact List.mem_of_find?_eq_some hfirst

variable (hids : (d.properties.map (·.id)).Nodup) (hrows : (d.rows.map (·.id)).Nodup)
  (hrow : row ∈ d.rows)

include hids hrows hrow

/-- A column that does not fail in the plan shows the error of the first column that it uses and that has
one, or what its formula gives. -/
theorem shows_outcome (columns : ColumnValues) (today : Date) (hp : p ∈ d.properties)
    (hformula : p.formula? = some text)
    (hfine : (FormulaPlan.ofProperties d.properties).failed.get? p.id = none) :
    (d.formulaValues columns today).Shows row.id p.id
      (match (d.usedBy p.id).findSome? ((d.formulaValues columns today).error? row.id) with
        | some error => .error error
        | none => formulaValue today
            (d.contextBefore row columns (d.formulaValues columns today) p.id) text) := by
  obtain ⟨context, hcontext, hshows⟩ :=
    shows_of_evaluated hids hrows columns today hrow hp hformula hfine
  have hsame : context = d.contextBefore row columns (d.formulaValues columns today) p.id :=
    IdMap.ext_get? fun name => by rw [hcontext, get?_contextBefore]
  have huses : d.usedBy p.id = FormulaPlan.usesOf (FormulaPlan.formulas d.properties) text :=
    FormulaPlan.dependencies_graph (FormulaPlan.nodup_formulas (·.id) hids)
      (FormulaPlan.mem_formulas.2 ⟨hp, hformula⟩)
  rwa [← hsame, huses]

theorem error?_of_failed
    (herror : (FormulaPlan.ofProperties d.properties).failed.get? id = some error) :
    (d.formulaValues columns today).error? row.id id = some error :=
  (shows_of_failed hids hrows columns today hrow herror).1

/-- A column that is evaluated has the error of the first column that it uses and that has one. -/
theorem error?_of_used (hfine : (FormulaPlan.ofProperties d.properties).failed.get? id = none)
    (hused : (d.usedBy id).findSome? ((d.formulaValues columns today).error? row.id) = some error) :
    (d.formulaValues columns today).error? row.id id = some error := by
  obtain ⟨used, hmem, -⟩ := List.exists_of_findSome?_eq_some hused
  obtain ⟨p, hp, text, hformula, rfl⟩ := exists_formula_of_mem_usedBy hmem
  have hshows := shows_outcome hids hrows hrow columns today hp hformula hfine
  rw [hused] at hshows
  exact hshows.1

/-- Without an error among the columns that it uses, a column shows what its formula gives. -/
theorem shows_of_no_error (hp : p ∈ d.properties) (hformula : p.formula? = some text)
    (hfine : (FormulaPlan.ofProperties d.properties).failed.get? p.id = none)
    (hused : ∀ used ∈ d.usedBy p.id, (d.formulaValues columns today).error? row.id used = none) :
    (d.formulaValues columns today).Shows row.id p.id (formulaValue today
      (d.contextBefore row columns (d.formulaValues columns today) p.id) text) := by
  have hshows := shows_outcome hids hrows hrow columns today hp hformula hfine
  rwa [List.findSome?_eq_none_iff.2 hused] at hshows

/-- Only formula columns have errors. -/
theorem exists_formula_of_error?
    (herror : (d.formulaValues columns today).error? row.id id = some error) :
    ∃ p ∈ d.properties, ∃ text, p.formula? = some text ∧ p.id = id := by
  obtain ⟨removed, order, failed, h⟩ := FormulaPlan.exists_planned hids
  refine FormulaPlan.exists_formula_of_mem_formulas ?_
  by_cases hmem : id ∈ (FormulaPlan.ofProperties d.properties).order
  · exact (h.mem_order_iff.1 hmem).1
  · rw [formulaValues, FormulaPlan.error?_resolve _ hrows hrow, FormulaPlan.evalRow_eq,
      FormulaPlan.get?_errors_foldl hmem] at herror
    exact h.mem_columns_of_contains (IdMap.contains_iff.2 ⟨error, herror⟩)

/-- Why a column has an error on a row. -/
theorem error?_isSome_iff (hp : p ∈ d.properties) (hformula : p.formula? = some text) :
    ((d.formulaValues columns today).error? row.id p.id).isSome = true ↔
      (FormulaPlan.ofProperties d.properties).failed.contains p.id = true ∨
      (∃ used ∈ d.usedBy p.id, ((d.formulaValues columns today).error? row.id used).isSome = true) ∨
      ∃ error, formulaValue today
        (d.contextBefore row columns (d.formulaValues columns today) p.id) text = .error error := by
  cases hfailed : (FormulaPlan.ofProperties d.properties).failed.get? p.id with
  | some error =>
    have hcontains := IdMap.contains_iff.2 ⟨error, hfailed⟩
    simp [error?_of_failed hids hrows hrow hfailed, hcontains]
  | none =>
    have hcontains := FormulaPlan.contains_eq_false_iff.2 hfailed
    have hshows := shows_outcome hids hrows hrow columns today hp hformula hfailed
    rw [hcontains, ← List.findSome?_isSome_iff]
    cases hused : (d.usedBy p.id).findSome? ((d.formulaValues columns today).error? row.id) with
    | some error =>
      rw [hused] at hshows
      simp [hshows.1]
    | none =>
      rw [hused] at hshows
      cases hvalue : formulaValue today
          (d.contextBefore row columns (d.formulaValues columns today) p.id) text with
      | error error =>
        simp only [hvalue] at hshows
        simp [hshows.1]
      | ok value =>
        simp only [hvalue] at hshows
        simp [hshows.2]

/-! ### From column to column -/

theorem TakesFrom.error?_eq (h : d.TakesFrom (d.formulaValues columns today) row.id a b) :
    (d.formulaValues columns today).error? row.id a = (d.formulaValues columns today).error? row.id b := by
  cases h with
  | planned hfailed hown hfirst =>
    obtain ⟨removed, order, failed, h⟩ := FormulaPlan.exists_planned hids
    -- the plan has passed the failure on
    have hused := (h.get?_of_not_own hfailed hown).2
    rw [usedBy] at hfirst
    rw [findSome?_eq_bind_find?, hfirst, Option.bind_some] at hused
    rw [error?_of_failed hids hrows hrow hfailed, error?_of_failed hids hrows hrow hused]
  | onRow hfine hfirst =>
    -- the evaluation of the row has passed the error on
    have hsome : ((d.formulaValues columns today).error? row.id b).isSome = true := by
      simpa using List.find?_some hfirst
    obtain ⟨error, herror⟩ := Option.isSome_iff_exists.1 hsome
    have hused : (d.usedBy a).findSome? ((d.formulaValues columns today).error? row.id)
        = some error := by
      rw [findSome?_eq_bind_find?, hfirst, Option.bind_some, herror]
    rw [herror, error?_of_used hids hrows hrow hfine hused]

/-- An error is passed on unchanged, over any number of steps. -/
theorem error?_eq_of_takesFrom
    (h : Relation.ReflTransGen (d.TakesFrom (d.formulaValues columns today) row.id) a b) :
    (d.formulaValues columns today).error? row.id a
      = (d.formulaValues columns today).error? row.id b := by
  induction h with
  | refl => rfl
  | tail _ hstep ih => rw [ih, hstep.error?_eq hids hrows hrow]

/-- A column that uses one with an error has the error of one that it uses. -/
theorem exists_used_error {used : String} (hused : used ∈ d.usedBy id)
    (herror : ((d.formulaValues columns today).error? row.id used).isSome = true) :
    ∃ used ∈ d.usedBy id, ∃ error, (d.formulaValues columns today).error? row.id used = some error ∧
      (d.formulaValues columns today).error? row.id id = some error := by
  cases hfailed : (FormulaPlan.ofProperties d.properties).failed.get? id with
  | some failure =>
    obtain ⟨removed, order, failed, h⟩ := FormulaPlan.exists_planned hids
    -- a formula that cannot be read would use no column
    have hread : ∀ e, ¬ FormulaPlan.Unreadable (FormulaPlan.formulas d.properties) id e := by
      intro e he
      rw [usedBy, h.dependencies_of_unreadable he] at hused
      cases hused
    obtain ⟨used', hused', hsame⟩ := h.exists_same_failure hfailed hread
    exact ⟨used', hused', failure, error?_of_failed hids hrows hrow hsame,
      error?_of_failed hids hrows hrow hfailed⟩
  | none =>
    obtain ⟨error, hfirst⟩ :=
      Option.isSome_iff_exists.1 (List.findSome?_isSome_iff.2 ⟨used, hused, herror⟩)
    obtain ⟨used', hused', hsame⟩ := List.exists_of_findSome?_eq_some hfirst
    exact ⟨used', hused', error, hsame, error?_of_used hids hrows hrow hfailed hfirst⟩

/-- All columns that come to one with an error have errors. -/
theorem error?_isSome_of_reaches
    (h : (FormulaPlan.graph (FormulaPlan.formulas d.properties)).Reaches a b)
    (herror : ((d.formulaValues columns today).error? row.id b).isSome = true) :
    ((d.formulaValues columns today).error? row.id a).isSome = true := by
  induction h using Relation.ReflTransGen.head_induction_on with
  | refl => exact herror
  | head hstep _ ih =>
    obtain ⟨-, -, error, -, hsame⟩ := exists_used_error hids hrows hrow hstep.2 ih
    rw [hsame, Option.isSome_some]

/-- What the plan tells of a column with an error. -/
theorem failure_eq (herror : (d.formulaValues columns today).error? row.id id = some error)
    {failure : Error} (hfailed : (FormulaPlan.ofProperties d.properties).failed.get? id = some failure) :
    failure = error := by
  rw [error?_of_failed hids hrows hrow hfailed] at herror
  exact Option.some.inj herror

theorem ownError_of_mem_removed
    (h : FormulaPlan.Planned (FormulaPlan.formulas d.properties) removed order failed
      (FormulaPlan.ofProperties d.properties)) (hid : id ∈ removed)
    (herror : (d.formulaValues columns today).error? row.id id = some error) :
    d.OwnError columns today row id error := by
  obtain ⟨_, -, -, hget⟩ := h.get?_of_mem_removed hid
  obtain rfl := failure_eq hids hrows hrow herror hget
  exact .planned hget (h.ownFailure_of_mem_removed hid hget)

/-- A column has its error of itself, or takes it from another. -/
theorem ownError_or_takesFrom
    (h : FormulaPlan.Planned (FormulaPlan.formulas d.properties) removed order failed
      (FormulaPlan.ofProperties d.properties))
    (herror : (d.formulaValues columns today).error? row.id id = some error) :
    d.OwnError columns today row id error ∨
      id ∈ order ∧ ∃ b, d.TakesFrom (d.formulaValues columns today) row.id id b := by
  cases hfailed : (FormulaPlan.ofProperties d.properties).failed.get? id with
  | some failure =>
    obtain rfl := failure_eq hids hrows hrow herror hfailed
    by_cases hown : FormulaPlan.OwnFailure (FormulaPlan.formulas d.properties) id failure
    · exact .inl (.planned hfailed hown)
    obtain ⟨hid, hused⟩ := h.get?_of_not_own hfailed hown
    rw [findSome?_eq_bind_find?] at hused
    obtain ⟨b, hfirst, -⟩ := Option.bind_eq_some_iff.1 hused
    exact .inr ⟨hid, b, .planned hfailed hown hfirst⟩
  | none =>
    obtain ⟨p, hp, text, hformula, rfl⟩ := exists_formula_of_error? hids hrows hrow herror
    cases hfirst : (d.usedBy p.id).find? fun used =>
        ((d.formulaValues columns today).error? row.id used).isSome with
    | some b => -- a column with a place in the plan had one in the order that the plan was made from
      have hmem := h.mem_order_iff.2
        ⟨List.mem_map_of_mem (f := (·.1.id)) (FormulaPlan.mem_formulas.2 ⟨hp, hformula⟩),
          FormulaPlan.contains_eq_false_iff.2 hfailed⟩
      rw [h.order_eq] at hmem
      exact .inr ⟨(List.mem_filter.1 hmem).1, b, .onRow hfailed hfirst⟩
    | none => -- without an error to take, the formula itself has given the error
      have hused : ∀ used ∈ d.usedBy p.id,
          (d.formulaValues columns today).error? row.id used = none := by
        intro used hmem
        simpa using List.find?_eq_none.1 hfirst used hmem
      have hshows := shows_of_no_error hids hrows hrow hp hformula hfailed hused
      refine .inl (.evaluated hp hformula hfailed hused ?_)
      cases hvalue : formulaValue today
          (d.contextBefore row columns (d.formulaValues columns today) p.id) text with
      | error error' =>
        rw [hvalue] at hshows
        rw [Option.some.inj (hshows.1.symm.trans herror)]
      | ok value =>
        rw [hvalue] at hshows
        rw [hshows.2] at herror
        cases herror

/-- Each error has come from a column that has it of itself. Going back, the columns stand further and
further in front, until one has been taken out for a circle or has the error of itself. -/
theorem exists_ownError
    (herror : (d.formulaValues columns today).error? row.id id = some error) :
    ∃ source, Relation.ReflTransGen (d.TakesFrom (d.formulaValues columns today) row.id) id source ∧
      d.OwnError columns today row source error := by
  obtain ⟨removed, order, failed, h⟩ := FormulaPlan.exists_planned hids
  induction hplace : order.idxOf id using Nat.strongRecOn generalizing id with
  | _ place ih =>
    rcases ownError_or_takesFrom hids hrows hrow h herror with hown | ⟨hid, b, htakes⟩
    · exact ⟨id, .refl, hown⟩
    have hb : (d.formulaValues columns today).error? row.id b = some error :=
      (htakes.error?_eq hids hrows hrow).symm.trans herror
    by_cases hr : b ∈ removed
    · exact ⟨b, .single htakes, ownError_of_mem_removed hids hrows hrow h hr hb⟩
    · have hstep := FormulaPlan.dependsOn_without.2
        ⟨(FormulaPlan.dependsOn_graph h.ids).2 htakes.mem_usedBy, ((h.peeled.complete id).1 hid).2, hr⟩
      have hlt := h.peeled.placed.idxOf_lt hid hstep
      obtain ⟨source, htravels, hown⟩ := ih _ (hplace ▸ hlt) hb rfl
      exact ⟨source, htravels.head htakes, hown⟩

theorem error?_of_ownError (h : d.OwnError columns today row id error) :
    (d.formulaValues columns today).error? row.id id = some error := by
  cases h with
  | planned hfailed _ => exact error?_of_failed hids hrows hrow hfailed
  | evaluated hp hformula hfine hused hvalue =>
    have hshows := shows_of_no_error hids hrows hrow hp hformula hfine hused
    rw [hvalue] at hshows
    exact hshows.1

/-- A column has the errors that come to it from columns that have them of themselves, and no others. -/
theorem error?_eq_some_iff : (d.formulaValues columns today).error? row.id id = some error ↔
    ∃ source, Relation.ReflTransGen (d.TakesFrom (d.formulaValues columns today) row.id) id source ∧
      d.OwnError columns today row source error := by
  refine ⟨exists_ownError hids hrows hrow, ?_⟩
  rintro ⟨source, htravels, hown⟩
  rw [error?_eq_of_takesFrom hids hrows hrow htravels, error?_of_ownError hids hrows hrow hown]

end Errors

/-! ### All rows -/

section Rows

variable {d : Document} {columns : ColumnValues} {today : Date}

/-- Every row has an entry for its values. -/
theorem isSome_values {row : Row} (hrow : row ∈ d.rows) :
    ((d.formulaValues columns today).values.get? row.id).isSome = true := by
  have hvalues := FormulaPlan.values_foldl_rows
    ((FormulaPlan.ofProperties d.properties).evalRow d columns today) d.rows
    ⟨(FormulaPlan.ofProperties d.properties).order, .empty, .empty⟩
  unfold formulaValues FormulaPlan.resolve
  rw [hvalues, ← IdMap.ofList]
  exact IdMap.isSome_get?_ofList (List.mem_map_of_mem hrow)

/-- Every entry for errors has some. -/
theorem isEmpty_errors {id : String} {errors : IdMap Error}
    (h : (d.formulaValues columns today).errors.get? id = some errors) : errors.isEmpty = false := by
  obtain ⟨-, -, -, -, hsome⟩ := FormulaPlan.exists_row_of_errors_resolve h
  exact hsome

/-- What a row shows rests on no other row. -/
theorem shows_of_properties (hrows : (d.rows.map (·.id)).Nodup) {row : Row} (hrow : row ∈ d.rows)
    {d' : Document} (hproperties : d'.properties = d.properties)
    (hrows' : (d'.rows.map (·.id)).Nodup) (hrow' : row ∈ d'.rows) (id : String) :
    (d'.formulaValues columns today).value? row.id id = (d.formulaValues columns today).value? row.id id ∧
    (d'.formulaValues columns today).error? row.id id
      = (d.formulaValues columns today).error? row.id id := by
  have hrun : ∀ plan : FormulaPlan,
      plan.evalRow d' columns today row = plan.evalRow d columns today row := by
    intro plan
    have hstep : FormulaPlan.evalStep d' today = FormulaPlan.evalStep d today := by
      funext s step
      unfold FormulaPlan.evalStep property?
      rw [hproperties]
    unfold FormulaPlan.evalRow rowContext
    rw [hstep, hproperties]
  unfold formulaValues
  rw [hproperties, FormulaPlan.value?_resolve _ hrows hrow, FormulaPlan.value?_resolve _ hrows' hrow',
    FormulaPlan.error?_resolve _ hrows hrow, FormulaPlan.error?_resolve _ hrows' hrow', hrun]
  exact ⟨rfl, rfl⟩

end Rows

/-- How errors travel on a row. -/
structure ErrorsTravel (d : Document) (columns : ColumnValues) (today : Date) (row : Row) : Prop where
  /-- A formula column shows a value or an error, and not both. -/
  one : ∀ p ∈ d.properties, p.formula?.isSome = true →
    ∃! o, (d.formulaValues columns today).Shows row.id p.id o
  /-- There are three reasons for an error. -/
  reason : ∀ p ∈ d.properties, ∀ text, p.formula? = some text →
    (((d.formulaValues columns today).error? row.id p.id).isSome = true ↔
      (FormulaPlan.ofProperties d.properties).failed.contains p.id = true ∨
      (∃ used ∈ d.usedBy p.id, ((d.formulaValues columns today).error? row.id used).isSome = true) ∨
      ∃ error, formulaValue today
        (d.contextBefore row columns (d.formulaValues columns today) p.id) text = .error error)
  /-- A column that fails in the plan shows the error of the plan. -/
  planned : ∀ id error, (FormulaPlan.ofProperties d.properties).failed.get? id = some error →
    (d.formulaValues columns today).error? row.id id = some error
  /-- Any other shows what its formula gives, unless it uses a column with an error. -/
  evaluated : ∀ p ∈ d.properties, ∀ text, p.formula? = some text →
    (FormulaPlan.ofProperties d.properties).failed.get? p.id = none →
    (∀ used ∈ d.usedBy p.id, (d.formulaValues columns today).error? row.id used = none) →
    (d.formulaValues columns today).Shows row.id p.id (formulaValue today
      (d.contextBefore row columns (d.formulaValues columns today) p.id) text)
  /-- If it uses one, it has the error of one that it uses. -/
  passed : ∀ id, ∀ used ∈ d.usedBy id,
    ((d.formulaValues columns today).error? row.id used).isSome = true →
    ∃ used ∈ d.usedBy id, ∃ error, (d.formulaValues columns today).error? row.id used = some error ∧
      (d.formulaValues columns today).error? row.id id = some error
  /-- Over any number of steps all columns that come to one with an error have errors. -/
  reaches : ∀ a b, (FormulaPlan.graph (FormulaPlan.formulas d.properties)).Reaches a b →
    ((d.formulaValues columns today).error? row.id b).isSome = true →
    ((d.formulaValues columns today).error? row.id a).isSome = true
  /-- Errors come unchanged, over any number of steps, from columns that have them of themselves, and
  there are no others. -/
  source : ∀ id error, (d.formulaValues columns today).error? row.id id = some error ↔
    ∃ source, Relation.ReflTransGen (d.TakesFrom (d.formulaValues columns today) row.id) id source ∧
      d.OwnError columns today row source error
  /-- Other rows make no difference. -/
  alone : ∀ d' : Document, d'.properties = d.properties → (d'.rows.map (·.id)).Nodup → row ∈ d'.rows →
    ∀ id, (d'.formulaValues columns today).value? row.id id
        = (d.formulaValues columns today).value? row.id id ∧
      (d'.formulaValues columns today).error? row.id id
        = (d.formulaValues columns today).error? row.id id

/-- Every row has an entry for its values, and one for its errors only if there are any. Every formula
column shows one thing on every row, and errors travel from the columns that have them of themselves to
those that use these, and nowhere else. -/
theorem errors_travel {d : Document} (hids : (d.properties.map (·.id)).Nodup)
    (hrows : (d.rows.map (·.id)).Nodup) (columns : ColumnValues) (today : Date) :
    (∀ step ∈ (FormulaPlan.ofProperties d.properties).steps, step.uses = d.usedBy step.id) ∧
    (∀ row ∈ d.rows, ((d.formulaValues columns today).values.get? row.id).isSome = true) ∧
    (∀ id errors, (d.formulaValues columns today).errors.get? id = some errors →
      errors.isEmpty = false) ∧
    ∀ row ∈ d.rows, d.ErrorsTravel columns today row := by
  refine ⟨fun step => uses_eq_usedBy hids, fun row => isSome_values, fun id errors => isEmpty_errors,
    fun row hrow => ?_⟩
  constructor
  case one =>
    intro p hp hformula
    obtain ⟨o, hshows⟩ := exists_shows hids hrows columns today hrow hp hformula
    exact ⟨o, hshows, fun o' hshows' => hshows'.unique hshows⟩
  case reason =>
    intro p hp text hformula
    exact error?_isSome_iff hids hrows hrow hp hformula
  case planned =>
    intro id error hfailed
    exact error?_of_failed hids hrows hrow hfailed
  case evaluated =>
    intro p hp text hformula hfine hused
    exact shows_of_no_error hids hrows hrow hp hformula hfine hused
  case passed =>
    intro id used hused herror
    exact exists_used_error hids hrows hrow hused herror
  case reaches =>
    intro a b hreaches herror
    exact error?_isSome_of_reaches hids hrows hrow hreaches herror
  case source =>
    intro id error
    exact error?_eq_some_iff hids hrows hrow
  case alone =>
    intro d' hproperties hrows' hrow' id
    exact shows_of_properties hrows hrow hproperties hrows' hrow' id

end Document

/-! ### A formula without a value -/

section Broken

def brokenRow : Row := ⟨"r", .empty, default, default⟩

/-- A formula that refers to no column, one that uses it, and one by itself. -/
def brokenDocument : Document where
  properties := [.fresh "a" "A" (.formula "X"), .fresh "b" "B" (.formula "A"),
    .fresh "c" "C" (.formula "\"x\"")]
  rows := [brokenRow]
  views := []

theorem readFormula_broken : FormulaPlan.readFormula "X" = .ok (some (.column "X")) ∧
    FormulaPlan.readFormula "A" = .ok (some (.column "A")) :=
  ⟨readFormula_of_name rfl rfl, readFormula_of_name rfl rfl⟩

theorem formulas_brokenDocument : FormulaPlan.formulas brokenDocument.properties
    = [(.fresh "a" "A" (.formula "X"), "X"), (.fresh "b" "B" (.formula "A"), "A"),
        (.fresh "c" "C" (.formula "\"x\""), "\"x\"")] := rfl

theorem graph_brokenDocument :
    FormulaPlan.graph (FormulaPlan.formulas brokenDocument.properties)
      = [("a", []), ("b", ["a"]), ("c", [])] := by
  obtain ⟨hunknown, hnamed⟩ := readFormula_broken
  have huses : FormulaPlan.usesOf (FormulaPlan.formulas brokenDocument.properties) "X" = [] := by
    rw [FormulaPlan.usesOf, hunknown]
    rfl
  have huses' : FormulaPlan.usesOf (FormulaPlan.formulas brokenDocument.properties) "A" = ["a"] := by
    rw [FormulaPlan.usesOf, hnamed]
    rfl
  rw [FormulaPlan.graph, formulas_brokenDocument, List.map_cons, List.map_cons, List.map_cons,
    ← formulas_brokenDocument, huses, huses', usesOf_quoted]
  rfl

theorem ofProperties_brokenDocument :
    FormulaPlan.ofProperties brokenDocument.properties
      = ⟨[⟨"a", some (.column "X"), []⟩, ⟨"b", some (.column "A"), ["a"]⟩,
          ⟨"c", some (.string "x"), []⟩], .empty⟩ := by
  obtain ⟨hunknown, hnamed⟩ := readFormula_broken
  have horder : DependencyGraph.order [("a", []), ("b", ["a"]), ("c", [])] = .ok ["a", "b", "c"] := by
    simp [DependencyGraph.order, DependencyGraph.visitAll, DependencyGraph.visit,
      DependencyGraph.nodes, DependencyGraph.dependencies, IdMap.lookup_entry]
  rw [FormulaPlan.ofProperties_of_order graph_brokenDocument horder]
  simp [formulas_brokenDocument, FormulaPlan.unreadable, FormulaPlan.parsed, hunknown, hnamed,
    readFormula_quoted, FormulaPlan.stepsOf, IdMap.ofList, DependencyGraph.dependencies, IdMap.lookup_entry,
    Property.fresh, IdMap.contains, IdMap.get?_insert]

/-- The error passes on to the formula that uses the broken one, and the other one shows one thing. -/
theorem errors_travel_brokenDocument :
    (brokenDocument.properties.map (·.id)).Nodup ∧ (brokenDocument.rows.map (·.id)).Nodup ∧
    (brokenDocument.formulaValues .empty default).error? "r" "b"
      = some (.evaluation (.unknownColumn "X")) ∧
    ∃! o, (brokenDocument.formulaValues .empty default).Shows "r" "c" o := by
  obtain ⟨-, -, -, htravel⟩ :=
    Document.errors_travel (d := brokenDocument) (by decide) (by decide) .empty default
  have h := htravel brokenRow List.mem_cons_self
  have hfailed : ∀ id, (FormulaPlan.ofProperties brokenDocument.properties).failed.get? id = none := by
    intro id
    rw [ofProperties_brokenDocument]
    rfl
  have hused : brokenDocument.usedBy "a" = [] ∧ brokenDocument.usedBy "b" = ["a"] := by
    unfold Document.usedBy
    rw [graph_brokenDocument]
    exact ⟨rfl, rfl⟩
  have hvalue : formulaValue default (brokenDocument.contextBefore brokenRow .empty
      (brokenDocument.formulaValues .empty default) "a") "X"
        = .error (.evaluation (.unknownColumn "X")) := by
    have hcontext : (brokenDocument.contextBefore brokenRow .empty
        (brokenDocument.formulaValues .empty default) "a").get? "X" = none := by
      rw [Document.contextBefore, Document.formulaValues, FormulaPlan.order_resolve,
        ofProperties_brokenDocument]
      rfl
    rw [formulaValue, readFormula_broken.1]
    simp only [Formula.Expr.eval, Context.column, hcontext]
    rfl
  have hbroken : Property.fresh "a" "A" (.formula "X") ∈ brokenDocument.properties :=
    List.mem_cons_self
  have hown : brokenDocument.OwnError .empty default brokenRow "a"
      (.evaluation (.unknownColumn "X")) :=
    .evaluated hbroken rfl (hfailed "a") (by simp [Property.fresh, hused.1]) hvalue
  have htakes : brokenDocument.TakesFrom (brokenDocument.formulaValues .empty default) brokenRow.id
      "b" "a" := by
    refine .onRow (hfailed "b") ?_
    rw [hused.2, List.find?_cons_of_pos]
    rw [(h.source "a" _).2 ⟨"a", .refl, hown⟩, Option.isSome_some]
  refine ⟨by decide, by decide, (h.source "b" _).2 ⟨"a", .single htakes, hown⟩, ?_⟩
  exact h.one (.fresh "c" "C" (.formula "\"x\"")) (by simp [brokenDocument]) rfl

end Broken

end Databook
