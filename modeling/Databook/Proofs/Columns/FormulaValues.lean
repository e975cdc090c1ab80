import Databook.Proofs.Columns.FormulaPlan
import Databook.Proofs.Document.Lookup
import Databook.Proofs.Formula.Columns

/-!
# The values of formula columns

The values of the formula columns of a row settle: each is the value of its formula in the context in
which the formula columns are bound to their values (`formulaValues_settled`). A column that is named
like a function is the exception: such a name does not count as a use, so the column is seen with its
value only if it happens to come first in the order, and as null otherwise.

While a row is evaluated, its context is always that of the start with the values found so far put in
(`Filled`). The columns that a formula uses come before it, so their values are there and stay.
-/

namespace Databook

open Formula (Expr Context Function)
open Calendar (Date)

/-! ### Contexts with the values of formulas -/

/-- The value of the text of a formula in a context. -/
def formulaValue (today : Date) (context : Context) (expression : String) : Except Error Cell :=
  match FormulaPlan.readFormula expression with
  | .ok none => .ok .null
  | .ok (some e) => (e.eval today context).mapError .evaluation
  | .error error => .error error

/-- The value of a formula depends on the columns that it names. -/
theorem formulaValue_congr {context context' : Context} (today : Date) (expression : String)
    (h : ∀ e, FormulaPlan.readFormula expression = .ok (some e) →
      Context.Agree context context' e.columns) :
    formulaValue today context expression = formulaValue today context' expression := by
  unfold formulaValue
  cases hread : FormulaPlan.readFormula expression with
  | error error => rfl
  | ok e =>
    cases e with
    | none => rfl
    | some e => simp only [Expr.eval_congr today e (h e hread)]

/-- The value that a property has for a row if it is a formula column that passes a test. -/
def FormulaValues.seen? (values : FormulaValues) (row : Row) (seen : Property → Bool)
    (p : Property) : Option Cell :=
  if p.formula?.isSome && seen p then values.value? row.id p.id else none

/-- The context of a row in which the names of the formula columns that pass a test are bound to
their values. -/
def Document.settledContext (d : Document) (row : Row) (columns : ColumnValues)
    (values : FormulaValues) (seen : Property → Bool) : Context :=
  d.properties.foldl (fun context p =>
      match values.seen? row seen p with
      | some value => context.insert p.name value
      | none => context)
    (d.rowContext row columns)

theorem get?_foldl_bind {properties : List Property} (hnames : (properties.map (·.name)).Nodup)
    (f : Property → Option Cell) (context : Context) (name : String) :
    (properties.foldl (fun context p =>
        match f p with
        | some value => context.insert p.name value
        | none => context) context).get? name
      = ((properties.find? (·.name == name)).bind f).or (context.get? name) := by
  induction properties generalizing context with
  | nil => rfl
  | cons p ps ih =>
    obtain ⟨hp, hps⟩ := List.nodup_cons.1 hnames
    rw [List.foldl_cons, ih hps, List.find?_cons]
    by_cases hname : p.name = name
    · have hrest : ps.find? (·.name == name) = none := by
        rw [List.find?_eq_none]
        intro q hq hqname
        exact hp (List.mem_map.2 ⟨q, hq, (by simpa using hqname : q.name = name).trans hname.symm⟩)
      rw [hrest, beq_iff_eq.2 hname]
      cases hf : f p with
      | none => simp [hf]
      | some value => simp [hf, IdMap.get?_insert, hname]
    · rw [beq_eq_false_iff_ne.2 hname]
      cases hf : f p with
      | none => rfl
      | some value => simp [IdMap.get?_insert, Ne.symm hname]

theorem Document.get?_settledContext {d : Document} (hnames : (d.properties.map (·.name)).Nodup)
    (row : Row) (columns : ColumnValues) (values : FormulaValues) (seen : Property → Bool)
    (name : String) :
    (d.settledContext row columns values seen).get? name
      = ((d.propertyNamed? name).bind (values.seen? row seen)).or ((d.rowContext row columns).get? name) :=
  get?_foldl_bind hnames _ _ name

namespace FormulaPlan

variable {d : Document} {today : Date} {columns : ColumnValues} {row : Row}

/-! ### One row -/

/-- A formula is left without a value, or its value is noted and put into the context. -/
theorem evalStep_cases (d : Document) (today : Date) (s : RowState) (step : FormulaStep) :
    ((evalStep d today s step).values = s.values ∧ (evalStep d today s step).context = s.context) ∨
    ∃ value, step.eval today s.context = .ok value ∧
      (evalStep d today s step).values = s.values.insert step.id value ∧
      (evalStep d today s step).context = match d.property? step.id with
        | some p => s.context.insert p.name value
        | none => s.context := by
  unfold evalStep
  split
  · exact .inl ⟨rfl, rfl⟩
  · split
    · exact .inl ⟨rfl, rfl⟩
    · next value hvalue => exact .inr ⟨value, hvalue, rfl, rfl⟩

theorem get?_values_evalStep {s : RowState} {step : FormulaStep} {id : String} (h : id ≠ step.id) :
    (evalStep d today s step).values.get? id = s.values.get? id := by
  rcases evalStep_cases d today s step with ⟨hvalues, -⟩ | ⟨value, -, hvalues, -⟩
  · rw [hvalues]
  · rw [hvalues, IdMap.get?_insert, if_neg h]

theorem get?_values_foldl {steps : List FormulaStep} {s : RowState} {id : String}
    (h : id ∉ steps.map (·.id)) :
    (steps.foldl (evalStep d today) s).values.get? id = s.values.get? id := by
  induction steps generalizing s with
  | nil => rfl
  | cons step steps ih =>
    rw [List.map_cons, List.mem_cons, not_or] at h
    rw [List.foldl_cons, ih h.2, get?_values_evalStep h.1]

/-- The context is that of the start with the values of the formulas put in by name. -/
def Filled (d : Document) (start : Context) (s : RowState) : Prop :=
  ∀ name, s.context.get? name
    = ((d.propertyNamed? name).bind fun p => s.values.get? p.id).or (start.get? name)

theorem Filled.evalStep (hids : (d.properties.map (·.id)).Nodup)
    (hnames : (d.properties.map (·.name)).Nodup) {start : Context} {s : RowState}
    (h : Filled d start s) (step : FormulaStep) : Filled d start (evalStep d today s step) := by
  intro name
  rcases evalStep_cases d today s step with ⟨hvalues, hcontext⟩ | ⟨value, -, hvalues, hcontext⟩
  · rw [hvalues, hcontext, h name]
  rw [hvalues, hcontext]
  cases hstep : d.property? step.id with
  | none =>
    rw [h name]
    cases hnamed : d.propertyNamed? name with
    | none => rfl
    | some q =>
      have hq := ((Document.propertyNamed?_eq_some_iff hnames).1 hnamed).1
      have hne : q.id ≠ step.id := by
        intro heq
        rw [(Document.property?_eq_some_iff hids).2 ⟨hq, heq⟩] at hstep
        cases hstep
      rw [Option.bind_some, Option.bind_some, IdMap.get?_insert, if_neg hne]
  | some p =>
    obtain ⟨hp, hid⟩ := (Document.property?_eq_some_iff hids).1 hstep
    rw [IdMap.get?_insert]
    by_cases hname : name = p.name
    · rw [if_pos hname, (Document.propertyNamed?_eq_some_iff hnames).2 ⟨hp, hname.symm⟩,
        Option.bind_some, IdMap.get?_insert, if_pos hid, Option.some_or]
    · rw [if_neg hname, h name]
      cases hnamed : d.propertyNamed? name with
      | none => rfl
      | some q =>
        obtain ⟨hq, hqname⟩ := (Document.propertyNamed?_eq_some_iff hnames).1 hnamed
        have hne : q.id ≠ step.id := by
          intro heq
          have hsome := (Document.property?_eq_some_iff hids).2 ⟨hq, heq⟩
          rw [hstep, Option.some_inj] at hsome
          exact hname (hsome ▸ hqname.symm)
        rw [Option.bind_some, Option.bind_some, IdMap.get?_insert, if_neg hne]

theorem Filled.foldl (hids : (d.properties.map (·.id)).Nodup)
    (hnames : (d.properties.map (·.name)).Nodup) {start : Context} {steps : List FormulaStep}
    {s : RowState} (h : Filled d start s) :
    Filled d start (steps.foldl (FormulaPlan.evalStep d today) s) := by
  induction steps generalizing s with
  | nil => exact h
  | cons step steps ih => exact ih (h.evalStep hids hnames step)

/-- Before any formula is evaluated. -/
def rowStart (plan : FormulaPlan) (d : Document) (columns : ColumnValues) (row : Row) : RowState :=
  ⟨d.rowContext row columns, .empty, plan.failed⟩

theorem evalRow_eq (plan : FormulaPlan) :
    plan.evalRow d columns today row
      = plan.steps.foldl (evalStep d today) (plan.rowStart d columns row) := rfl

theorem filled_rowStart (plan : FormulaPlan) :
    Filled d (d.rowContext row columns) (plan.rowStart d columns row) := by
  intro name
  cases d.propertyNamed? name <;> rfl

/-- A value comes from the step of its column. -/
theorem exists_step_of_value {plan : FormulaPlan} (hsteps : plan.order.Nodup) {id : String}
    {value : Cell} (h : (plan.evalRow d columns today row).values.get? id = some value) :
    ∃ before step after, plan.steps = before ++ step :: after ∧ step.id = id ∧
      step.eval today (before.foldl (evalStep d today) (plan.rowStart d columns row)).context
        = .ok value := by
  have hmem : id ∈ plan.steps.map (·.id) := by
    by_contra hout
    rw [evalRow_eq, get?_values_foldl hout] at h
    cases h
  obtain ⟨step, hstep, rfl⟩ := List.mem_map.1 hmem
  obtain ⟨before, after, hsplit⟩ := List.append_of_mem hstep
  refine ⟨before, step, after, hsplit, rfl, ?_⟩
  rw [order, hsplit, List.map_append, List.map_cons] at hsteps
  obtain ⟨-, htail, hapart⟩ := List.nodup_append.1 hsteps
  have hafter := (List.nodup_cons.1 htail).1
  have hbefore : step.id ∉ before.map (·.id) := by
    intro hmem
    exact hapart _ hmem _ List.mem_cons_self rfl
  rw [evalRow_eq, hsplit, List.foldl_append, List.foldl_cons, get?_values_foldl hafter] at h
  rcases evalStep_cases d today (before.foldl (evalStep d today) (plan.rowStart d columns row)) step
    with ⟨hvalues, -⟩ | ⟨value', heval, hvalues, -⟩
  · rw [hvalues, get?_values_foldl hbefore] at h
    cases h
  · rw [hvalues, IdMap.get?_insert, if_pos rfl, Option.some_inj] at h
    rw [heval, h]

/-! ### All rows -/

/-- What a list of rows adds to some values. -/
theorem values_foldl_rows (f : Row → RowState) (rows : List Row) (result : FormulaValues) :
    (rows.foldl (fun result row =>
        { result with
          values := result.values.insert row.id (f row).values
          errors := if (f row).errors.isEmpty then result.errors
            else result.errors.insert row.id (f row).errors }) result).values
      = (rows.map fun row => (row.id, (f row).values)).foldl
          (fun m entry => m.insert entry.1 entry.2) result.values := by
  induction rows generalizing result with
  | nil => rfl
  | cons row rows ih =>
    rw [List.foldl_cons, ih]
    rfl

theorem order_foldl_rows (f : Row → RowState) (rows : List Row) (result : FormulaValues) :
    (rows.foldl (fun result row =>
        { result with
          values := result.values.insert row.id (f row).values
          errors := if (f row).errors.isEmpty then result.errors
            else result.errors.insert row.id (f row).errors }) result).order = result.order := by
  induction rows generalizing result with
  | nil => rfl
  | cons row rows ih =>
    rw [List.foldl_cons, ih]

theorem order_resolve (plan : FormulaPlan) : (plan.resolve d columns today).order = plan.order :=
  order_foldl_rows _ _ _

theorem value?_resolve (plan : FormulaPlan) (hrows : (d.rows.map (·.id)).Nodup) (hrow : row ∈ d.rows)
    (id : String) :
    (plan.resolve d columns today).value? row.id id
      = (plan.evalRow d columns today row).values.get? id := by
  have hvalues := values_foldl_rows (plan.evalRow d columns today) d.rows ⟨plan.order, .empty, .empty⟩
  have hkeys : ((d.rows.map fun row => (row.id, (plan.evalRow d columns today row).values)).reverse.map
      (·.1)).Nodup := by
    rw [List.map_reverse, List.nodup_reverse]
    simpa [Function.comp_def] using hrows
  have hentry : (row.id, (plan.evalRow d columns today row).values)
      ∈ (d.rows.map fun row => (row.id, (plan.evalRow d columns today row).values)).reverse :=
    List.mem_reverse.2 (List.mem_map.2 ⟨row, hrow, rfl⟩)
  unfold FormulaValues.value? resolve
  rw [hvalues, IdMap.get?_foldl_insert, (IdMap.lookup_eq_some_iff hkeys).2 hentry]
  rfl

/-! ### What a formula sees -/

section Uses

variable {properties : List Property} {p q : Property} {expression name : String} {e : Expr}

theorem mem_formulas :
    (p, expression) ∈ formulas properties ↔ p ∈ properties ∧ p.formula? = some expression := by
  unfold formulas
  rw [List.mem_filterMap]
  constructor
  · rintro ⟨q, hq, hcolumn⟩
    obtain ⟨expression', hformula, heq⟩ := Option.map_eq_some_iff.1 hcolumn
    cases heq
    exact ⟨hq, hformula⟩
  · rintro ⟨hp, hformula⟩
    exact ⟨p, hp, by rw [hformula, Option.map_some]⟩

/-- The formula columns are properties with a formula. -/
theorem exists_formula_of_mem_formulas {id : String} (hid : id ∈ (formulas properties).map (·.1.id)) :
    ∃ p ∈ properties, ∃ text, p.formula? = some text ∧ p.id = id := by
  obtain ⟨⟨p, text⟩, hcolumn, rfl⟩ := List.mem_map.1 hid
  obtain ⟨hp, hformula⟩ := mem_formulas.1 hcolumn
  exact ⟨p, hp, text, hformula, rfl⟩

theorem mem_references : name ∈ e.references ↔ name ∈ e.columns ∧ Function.isName name = false := by
  unfold Expr.references
  rw [IdMap.mem_keys, IdMap.contains, IdMap.get?_ofList, List.lookup_isSome_iff]
  simp

/-- A formula uses the first formula columns of the names that it has, but for names of functions. -/
theorem mem_usesOf_iff {columns : List (Property × String)} {used : String}
    (hread : readFormula expression = .ok (some e)) :
    used ∈ usesOf columns expression
      ↔ ∃ name ∈ e.columns, Function.isName name = false ∧ columnNamed? columns name = some used := by
  unfold usesOf
  rw [hread, List.mem_filterMap]
  simp only [mem_references, and_assoc]

theorem mem_usesOf (hnames : (properties.map (·.name)).Nodup)
    (hread : readFormula expression = .ok (some e)) (hq : q ∈ properties)
    (hformula : q.formula?.isSome = true) (hcolumn : q.name ∈ e.columns)
    (hname : Function.isName q.name = false) : q.id ∈ usesOf (formulas properties) expression := by
  obtain ⟨text, htext⟩ := Option.isSome_iff_exists.1 hformula
  have hfind : (formulas properties).find? (fun column => column.1.name == q.name) = some (q, text) :=
    (find?_key_eq_some_iff (nodup_formulas (·.name) hnames)).2 ⟨mem_formulas.2 ⟨hq, htext⟩, rfl⟩
  refine (mem_usesOf_iff hread).2 ⟨q.name, hcolumn, hname, ?_⟩
  rw [columnNamed?, hfind, Option.map_some]

end Uses

/-- A formula column that a formula names comes before it, unless it is named like a function. -/
theorem Planned.mem_before {properties : List Property} {removed order : List String}
    {failed : IdMap Error} {plan : FormulaPlan}
    (h : Planned (formulas properties) removed order failed plan)
    (hnames : (properties.map (·.name)).Nodup) {before after : List FormulaStep} {step : FormulaStep}
    (hsplit : plan.steps = before ++ step :: after) {p : Property} {expression : String} {e : Expr}
    (hcolumn : (p, expression) ∈ formulas properties) (hid : step.id = p.id)
    (hread : readFormula expression = .ok (some e)) {q : Property} (hq : q ∈ properties)
    (hformula : q.formula?.isSome = true) (hname : q.name ∈ e.columns)
    (hplain : Function.isName q.name = false) : q.id ∈ before.map (·.id) := by
  obtain ⟨hstep, hbehind⟩ := h.steps_behind hsplit
  refine hbehind q.id ?_
  rw [hstep, stepFor, hid, dependencies_graph h.ids hcolumn]
  exact mem_usesOf hnames hread hq hformula hname hplain

/-- A formula that is evaluated can be read, and its step gives its value. -/
theorem Planned.eval_step {columns : List (Property × String)} {removed order : List String}
    {failed : IdMap Error} {plan : FormulaPlan} (h : Planned columns removed order failed plan)
    {before after : List FormulaStep} {step : FormulaStep}
    (hsplit : plan.steps = before ++ step :: after) {p : Property} {expression : String}
    (hcolumn : (p, expression) ∈ columns) (hid : step.id = p.id) (today : Date) (context : Context) :
    step.eval today context = formulaValue today context expression := by
  obtain ⟨hstep, -⟩ := h.steps_behind hsplit
  unfold formulaValue
  cases hread : readFormula expression with
  | error error =>
    have hmem : p.id ∈ plan.order := by
      rw [FormulaPlan.order, hsplit, ← hid]
      exact List.mem_map_of_mem (List.mem_append_right _ List.mem_cons_self)
    have hget := h.get?_of_unreadable ⟨(p, expression), hcolumn, rfl, hread⟩
    rw [contains_eq_false_iff.1 (h.mem_order_iff.1 hmem).2] at hget
    cases hget
  | ok e =>
    have hparsed : (parsed columns).get? p.id = some e :=
      (get?_parsed h.ids).2 ⟨(p, expression), hcolumn, rfl, hread⟩
    rw [hstep, hid, FormulaStep.eval, stepFor, hparsed, Option.getD_some]
    cases e <;> rfl

end FormulaPlan

/-- In a list without repetition, what stands in front of a member has the smaller places. -/
theorem idxOf_lt_idxOf_iff {before after : List String} {a b : String}
    (h : (before ++ a :: after).Nodup) :
    (before ++ a :: after).idxOf b < (before ++ a :: after).idxOf a ↔ b ∈ before := by
  have ha : a ∉ before := fun hmem => (List.nodup_append.1 h).2.2 a hmem a List.mem_cons_self rfl
  rw [List.idxOf_append_of_notMem ha, List.idxOf_cons_self, Nat.add_zero]
  constructor
  · intro hlt
    by_contra hb
    rw [List.idxOf_append_of_notMem hb] at hlt
    omega
  · intro hb
    rw [List.idxOf_append_of_mem hb]
    exact List.idxOf_lt_length_iff.2 hb

/-! ### What becomes of a formula -/

theorem get?_contextOf (row : Row) (columns : ColumnValues) (context : Context)
    (properties : List Property) (name : String) :
    (contextOf row columns context properties).get? name
      = (context.get? name).or
          ((properties.find? (·.name == name)).map fun p => p.seenValue row columns) := by
  induction properties generalizing context with
  | nil => simp [contextOf]
  | cons p ps ih =>
    rw [contextOf, ih, List.find?_cons]
    by_cases hname : p.name = name
    · subst hname
      rw [beq_self_eq_true]
      cases hget : context.get? p.name with
      | none => simp [IdMap.contains, hget, IdMap.get?_insert]
      | some value => simp [IdMap.contains, hget]
    · rw [beq_eq_false_iff_ne.2 hname]
      by_cases hin : context.contains p.name = true
      · rw [if_pos hin]
      · rw [if_neg hin, IdMap.get?_insert, if_neg (Ne.symm hname)]

theorem Document.get?_rowContext (d : Document) (row : Row) (columns : ColumnValues) (name : String) :
    (d.rowContext row columns).get? name
      = (d.propertyNamed? name).map fun p => p.seenValue row columns :=
  get?_contextOf row columns .empty d.properties name

/-- Is the value of the formula column `q` there when `p` is evaluated? The name of a function is not
taken for a column, so `q` is then only there by the chance of coming first. -/
def FormulaValues.sees (values : FormulaValues) (p q : Property) : Bool :=
  !Function.isName q.name || decide (values.order.idxOf q.id < values.order.idxOf p.id)

section Settled

variable {d : Document} {columns : ColumnValues} {today : Date} {row : Row}

/-- Only formula columns have a place in the order. -/
theorem isSome_formula?_of_mem_order (hids : (d.properties.map (·.id)).Nodup) {q : Property}
    (hq : q ∈ d.properties) (hmem : q.id ∈ (FormulaPlan.ofProperties d.properties).order) :
    q.formula?.isSome = true := by
  obtain ⟨removed, order, failed, h⟩ := FormulaPlan.exists_planned hids
  obtain ⟨p, hp, text, htext, hid⟩ :=
    FormulaPlan.exists_formula_of_mem_formulas (h.mem_order_iff.1 hmem).1
  obtain rfl := List.inj_on_of_nodup_map hids hp hq hid
  rw [htext, Option.isSome_some]

/-- The formula columns whose steps come first are seen with the values that they keep. -/
theorem get?_before (hids : (d.properties.map (·.id)).Nodup)
    (hnames : (d.properties.map (·.name)).Nodup) (hrows : (d.rows.map (·.id)).Nodup)
    (hrow : row ∈ d.rows) {before after : List FormulaStep} {step : FormulaStep}
    (hsplit : (FormulaPlan.ofProperties d.properties).steps = before ++ step :: after)
    {p : Property} {expression : String} {e : Expr}
    (hcolumn : (p, expression) ∈ FormulaPlan.formulas d.properties) (hid : step.id = p.id)
    (hread : FormulaPlan.readFormula expression = .ok (some e)) {q : Property}
    (hq : q ∈ d.properties) (hname : q.name ∈ e.columns) :
    (before.foldl (FormulaPlan.evalStep d today)
        ((FormulaPlan.ofProperties d.properties).rowStart d columns row)).values.get? q.id
      = (d.formulaValues columns today).seen? row ((d.formulaValues columns today).sees p) q := by
  obtain ⟨removed, order, failed, h⟩ := FormulaPlan.exists_planned hids
  have horder : (d.formulaValues columns today).order = before.map (·.id) ++ p.id :: after.map (·.id) := by
    rw [Document.formulaValues, FormulaPlan.order_resolve, FormulaPlan.order, hsplit, List.map_append,
      List.map_cons, hid]
  have hnodup : (before.map (·.id) ++ p.id :: after.map (·.id)).Nodup := by
    rw [← horder, Document.formulaValues, FormulaPlan.order_resolve]
    exact h.nodup_order
  unfold FormulaValues.seen? FormulaValues.sees
  rw [Document.formulaValues, FormulaPlan.value?_resolve _ hrows hrow, ← Document.formulaValues, horder]
  simp only [idxOf_lt_idxOf_iff hnodup]
  by_cases hbefore : q.id ∈ before.map (·.id)
  · -- nothing behind writes the value again
    have hrest : q.id ∉ (step :: after).map (·.id) := by
      rw [List.map_cons, hid]
      exact fun hmem => (List.nodup_append.1 hnodup).2.2 _ hbefore _ hmem rfl
    have hformula : q.formula?.isSome = true := by
      refine isSome_formula?_of_mem_order hids hq ?_
      rw [FormulaPlan.order, hsplit, List.map_append]
      exact List.mem_append_left _ hbefore
    rw [FormulaPlan.evalRow_eq, hsplit, List.foldl_append, FormulaPlan.get?_values_foldl hrest]
    simp [hformula, hbefore]
  · -- no use: a name of a function, or no formula column at all
    rw [FormulaPlan.get?_values_foldl hbefore]
    have hnot : (q.formula?.isSome && (!Function.isName q.name || decide (q.id ∈ before.map (·.id)))) = false := by
      cases hformula : q.formula?.isSome with
      | false => rfl
      | true =>
        cases hplain : Function.isName q.name with
        | false =>
          exact absurd (h.mem_before hnames hsplit hcolumn hid hread hq hformula hname hplain) hbefore
        | true => simp [hbefore]
    rw [hnot]
    rfl

/-- The values of the formula columns settle. A column that has a value for a row has the value of its
formula in the context in which all formula columns are bound to their values, save those that are
named like a function and do not come before it; the formula sees these as null. If it names no such
column that has a value, its value is that in the context of all values. -/
theorem Document.formulaValues_settled (hids : (d.properties.map (·.id)).Nodup)
    (hrows : (d.rows.map (·.id)).Nodup) (hnames : (d.properties.map (·.name)).Nodup)
    (columns : ColumnValues) (today : Date) (hrow : row ∈ d.rows) {p : Property}
    (hp : p ∈ d.properties) {expression : String} (hformula : p.formula? = some expression)
    {value : Cell} (hvalue : (d.formulaValues columns today).value? row.id p.id = some value) :
    formulaValue today (d.settledContext row columns (d.formulaValues columns today)
        ((d.formulaValues columns today).sees p)) expression = .ok value ∧
    (∀ q ∈ d.properties, q.formula?.isSome = true →
      (d.formulaValues columns today).sees p q = false →
      (d.settledContext row columns (d.formulaValues columns today)
        ((d.formulaValues columns today).sees p)).get? q.name = some .null) ∧
    ((∀ e q, FormulaPlan.readFormula expression = .ok (some e) → q ∈ d.properties →
        q.name ∈ e.columns → ((d.formulaValues columns today).value? row.id q.id).isSome = true →
        (d.formulaValues columns today).sees p q = true) →
      formulaValue today (d.settledContext row columns (d.formulaValues columns today) fun _ => true)
        expression = .ok value) := by
  have hcolumn : (p, expression) ∈ FormulaPlan.formulas d.properties :=
    FormulaPlan.mem_formulas.2 ⟨hp, hformula⟩
  have hseen : formulaValue today (d.settledContext row columns (d.formulaValues columns today)
      ((d.formulaValues columns today).sees p)) expression = .ok value := by
    rw [Document.formulaValues, FormulaPlan.value?_resolve _ hrows hrow] at hvalue
    obtain ⟨removed, order, failed, h⟩ := FormulaPlan.exists_planned hids
    obtain ⟨before, step, after, hsplit, hid, heval⟩ :=
      FormulaPlan.exists_step_of_value h.nodup_order hvalue
    rw [h.eval_step hsplit hcolumn hid] at heval
    refine Eq.trans (formulaValue_congr today expression fun e hread name hname => ?_) heval
    rw [Document.get?_settledContext hnames,
      (FormulaPlan.filled_rowStart _).foldl hids hnames name]
    cases hnamed : d.propertyNamed? name with
    | none => rfl
    | some q =>
      obtain ⟨hq, rfl⟩ := (Document.propertyNamed?_eq_some_iff hnames).1 hnamed
      rw [Option.bind_some, Option.bind_some,
        get?_before hids hnames hrows hrow hsplit hcolumn hid hread hq hname]
  refine ⟨hseen, fun q hq hq' hnot => ?_, fun hall => ?_⟩
  · have hnull : q.seenValue row columns = .null := by
      unfold Property.formula? at hq'
      unfold Property.seenValue
      cases hkind : q.kind <;> simp_all
    rw [Document.get?_settledContext hnames, Document.get?_rowContext,
      (Document.propertyNamed?_eq_some_iff hnames).2 ⟨hq, rfl⟩, Option.bind_some, Option.map_some,
      FormulaValues.seen?, hnot, Bool.and_false, hnull]
    rfl
  · refine Eq.trans (formulaValue_congr today expression fun e hread name hname => ?_) hseen
    rw [Document.get?_settledContext hnames, Document.get?_settledContext hnames]
    cases hnamed : d.propertyNamed? name with
    | none => rfl
    | some q =>
      obtain ⟨hq, rfl⟩ := (Document.propertyNamed?_eq_some_iff hnames).1 hnamed
      rw [Option.bind_some, Option.bind_some, FormulaValues.seen?, FormulaValues.seen?]
      cases hget : (d.formulaValues columns today).value? row.id q.id with
      | none => simp
      | some held =>
        rw [hall e q hread hq hname (by rw [hget, Option.isSome_some])]

end Settled

/-! ### A column named like a function -/

section Named

def nowRow : Row := ⟨"r", .empty, default, default⟩

/-- A column that is named like a function, with a formula in front of it and one behind it that
refer to it. -/
def nowDocument : Document where
  properties := [.fresh "f" "F" (.formula "now"), .fresh "n" "now" (.formula "\"x\""),
    .fresh "g" "G" (.formula "now")]
  rows := [nowRow]
  views := []

/-- A formula of one name. -/
theorem readFormula_of_name {text name : String}
    (htokens : Formula.tokenize text = .ok [⟨.name name, 0⟩]) (hblank : Text.isAllBlank text = false) :
    FormulaPlan.readFormula text = .ok (some (.column name)) := by
  have hparse : Formula.parse text = .ok (.column name) := by
    simp [Formula.parse, htokens, Formula.parseTokens, Formula.parseLevel, Formula.parseChain,
      Formula.parseUnary, Formula.parsePrimary, Formula.unaryLevel, Formula.maxDepth,
      Formula.UnaryOp.ofToken?, Formula.after?]
  rw [FormulaPlan.readFormula, hblank, hparse]
  rfl

theorem readFormula_now : FormulaPlan.readFormula "now" = .ok (some (.column "now")) :=
  readFormula_of_name rfl rfl

theorem readFormula_quoted : FormulaPlan.readFormula "\"x\"" = .ok (some (.string "x")) := by
  have htokens : Formula.tokenize "\"x\"" = .ok [⟨.string "x", 0⟩] := by rfl
  have hparse : Formula.parse "\"x\"" = .ok (.string "x") := by
    simp [Formula.parse, htokens, Formula.parseTokens, Formula.parseLevel, Formula.parseChain,
      Formula.parseUnary, Formula.parsePrimary, Formula.unaryLevel, Formula.maxDepth,
      Formula.UnaryOp.ofToken?]
  rw [FormulaPlan.readFormula, hparse]
  rfl

/-- A text in quotes uses no column. -/
theorem usesOf_quoted (columns : List (Property × String)) :
    FormulaPlan.usesOf columns "\"x\"" = [] := by
  rw [FormulaPlan.usesOf, readFormula_quoted]
  rfl

theorem ofProperties_nowDocument :
    FormulaPlan.ofProperties nowDocument.properties
      = ⟨[⟨"f", some (.column "now"), []⟩, ⟨"n", some (.string "x"), []⟩,
          ⟨"g", some (.column "now"), []⟩], .empty⟩ := by
  have hformulas : FormulaPlan.formulas nowDocument.properties
      = [(.fresh "f" "F" (.formula "now"), "now"), (.fresh "n" "now" (.formula "\"x\""), "\"x\""),
          (.fresh "g" "G" (.formula "now"), "now")] := rfl
  have hnow : ∀ columns, FormulaPlan.usesOf columns "now" = [] := by
    intro columns
    rw [FormulaPlan.usesOf, readFormula_now]
    rfl
  have hgraph : FormulaPlan.graph (FormulaPlan.formulas nowDocument.properties)
      = [("f", []), ("n", []), ("g", [])] := by
    simp [hformulas, FormulaPlan.graph, hnow, usesOf_quoted, Property.fresh]
  have horder : DependencyGraph.order [("f", []), ("n", []), ("g", [])] = .ok ["f", "n", "g"] := by
    simp [DependencyGraph.order, DependencyGraph.visitAll, DependencyGraph.visit,
      DependencyGraph.nodes, DependencyGraph.dependencies, IdMap.lookup_entry]
  rw [FormulaPlan.ofProperties_of_order hgraph horder]
  simp [hformulas, FormulaPlan.unreadable, FormulaPlan.parsed, readFormula_now, readFormula_quoted,
    FormulaPlan.stepsOf, IdMap.ofList, DependencyGraph.dependencies, IdMap.lookup_entry,
    Property.fresh, IdMap.contains, IdMap.get?_insert]

/-- The formula in front of the column sees null, the one behind it the value. -/
theorem value?_nowDocument (today : Date) :
    (nowDocument.formulaValues .empty today).value? "r" "f" = some .null ∧
    (nowDocument.formulaValues .empty today).value? "r" "n" = some (.text "x") ∧
    (nowDocument.formulaValues .empty today).value? "r" "g" = some (.text "x") := by
  rw [Document.formulaValues, ofProperties_nowDocument]
  exact ⟨rfl, rfl, rfl⟩

theorem sees_nowDocument (today : Date) {q : Property} (hq : q ∈ nowDocument.properties)
    (hname : q.name = "now") :
    (nowDocument.formulaValues .empty today).sees (.fresh "g" "G" (.formula "now")) q = true := by
  have horder : (nowDocument.formulaValues .empty today).order = ["f", "n", "g"] := by
    rw [Document.formulaValues, FormulaPlan.order_resolve, ofProperties_nowDocument]
    rfl
  unfold FormulaValues.sees
  rw [horder]
  simp only [nowDocument, List.mem_cons, List.not_mem_nil, or_false] at hq
  rcases hq with rfl | rfl | rfl
  · exact absurd hname (by decide)
  · decide
  · exact absurd hname (by decide)

theorem formulaValues_settled_nowDocument :
    (nowDocument.formulaValues .empty default).value? nowRow.id "g" = some (.text "x") ∧
    formulaValue default (nowDocument.settledContext nowRow .empty
      (nowDocument.formulaValues .empty default) fun _ => true) "now" = .ok (.text "x") := by
  have hrow : nowRow ∈ nowDocument.rows := List.mem_cons_self
  have hp : Property.fresh "g" "G" (.formula "now") ∈ nowDocument.properties := by
    simp [nowDocument]
  have hvalue := (value?_nowDocument default).2.2
  refine ⟨hvalue, (Document.formulaValues_settled (by decide) (by decide) (by decide) .empty default
    hrow hp rfl hvalue).2.2 fun e q hread hq hname _ => sees_nowDocument default hq ?_⟩
  rw [readFormula_now] at hread
  cases hread
  exact List.mem_singleton.1 hname

/-- The formula in front of the column has another value than in the context of all values. -/
theorem formulaValues_unsettled :
    (nowDocument.formulaValues .empty default).value? nowRow.id "f" = some .null ∧
    formulaValue default (nowDocument.settledContext nowRow .empty
      (nowDocument.formulaValues .empty default) fun _ => true) "now" = .ok (.text "x") := by
  obtain ⟨hnull, hvalue, -⟩ := value?_nowDocument default
  refine ⟨hnull, ?_⟩
  have hget : (nowDocument.settledContext nowRow .empty (nowDocument.formulaValues .empty default)
      fun _ => true).get? "now" = some (.text "x") := by
    have hnamed : nowDocument.propertyNamed? "now" = some (.fresh "n" "now" (.formula "\"x\"")) := rfl
    rw [Document.get?_settledContext (by decide), hnamed, Option.bind_some, FormulaValues.seen?]
    exact congrArg (Option.or · _) hvalue
  rw [formulaValue, readFormula_now]
  simp only [Expr.eval, Context.column, hget]
  rfl

end Named

end Databook
