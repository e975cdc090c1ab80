import Databook.Proofs.Columns.FormulaOutcomes

/-!
# What formulas read for a name

A name may be that of several columns. What a formula reads for it is settled in two places. The name
stands for the first formula column that has it (`Document.usedAs?`); if that one has an error, so has
the formula. Otherwise the formula sees the value that was put into the context last, by whichever
column of the name (`Document.seenAs?`); without any, that of the first property of the name.

`Document.reading?` puts the two together, and it is all that counts for a formula
(`Document.shows_of_readings`, `Document.shows_error_of_reading`). It is what the first property of the
name shows as long as no other formula column has the name (`Document.reading?_eq_firstNamed?`).
-/

namespace Databook

open Formula (Expr Context Function)
open Calendar (Date)

namespace Document

/-- The value of the last of some columns that has a name and a value. -/
def lastNamed? (d : Document) (ids : List String) (value? : String → Option Cell) (name : String) :
    Option Cell :=
  ids.reverse.findSome? fun id =>
    if (d.property? id).any (·.name == name) then value? id else none

/-- The formula column that a name stands for. A name of a function does not stand for a column. -/
def usedAs? (d : Document) (name : String) : Option String :=
  if Function.isName name then none
  else FormulaPlan.columnNamed? (FormulaPlan.formulas d.properties) name

/-- The value under which a formula column sees a name: of the columns that come before it, the last
one of the name that has a value; without one, the first property of the name as rows show it. -/
def seenAs? (d : Document) (row : Row) (columns : ColumnValues) (values : FormulaValues) (p : Property)
    (name : String) : Option Cell :=
  (d.lastNamed? (values.order.takeWhile (· != p.id)) (values.value? row.id) name).or
    ((d.rowContext row columns).get? name)

/-- What a formula column reads for a name: a value, or the error of the column that it stands for. -/
def reading? (d : Document) (row : Row) (columns : ColumnValues) (values : FormulaValues) (p : Property)
    (name : String) : Option (Except Error Cell) :=
  match (d.usedAs? name).bind (values.error? row.id) with
  | some error => some (.error error)
  | none => (d.seenAs? row columns values p name).map .ok

/-- What the first property of a name shows: a value, or an error. -/
def firstNamed? (d : Document) (row : Row) (columns : ColumnValues) (values : FormulaValues)
    (name : String) : Option (Except Error Cell) :=
  (d.propertyNamed? name).bind fun p =>
    if p.formula?.isSome then
      match values.error? row.id p.id with
      | some error => some (.error error)
      | none => (values.value? row.id p.id).map .ok
    else some (.ok (p.seenValue row columns))

/-- Has a formula column a name only if it is the first property of the name, and the name is not that
of a function? -/
def FirstOnly (d : Document) (name : String) : Prop :=
  ∀ p ∈ d.properties, p.formula?.isSome = true → p.name = name →
    d.propertyNamed? name = some p ∧ Function.isName name = false

end Document

/-- A formula of one name has the value of the name, lists as their texts. -/
theorem formulaValue_of_name (today : Date) {text name : String} {context : Context} {value : Cell}
    (hread : FormulaPlan.readFormula text = .ok (some (.column name)))
    (hvalue : (context.get? name).map .ok = some (Except.ok value : Except Error Cell)) :
    formulaValue today context text = .ok value.flatten := by
  obtain ⟨held, hheld, hsame⟩ := Option.map_eq_some_iff.1 hvalue
  cases hsame
  rw [formulaValue, hread]
  simp only [Expr.eval, Context.column, hheld]
  rfl

namespace FormulaPlan

variable {d : Document} {today : Date} {columns : ColumnValues} {row : Row}

/-! ### The context of a formula -/

theorem get?_context_evalStep {s : RowState} {step : FormulaStep}
    (hfresh : s.values.get? step.id = none) (name : String) :
    (evalStep d today s step).context.get? name
      = (if (d.property? step.id).any (·.name == name) then
          (evalStep d today s step).values.get? step.id else none).or (s.context.get? name) := by
  rcases evalStep_cases d today s step with ⟨hvalues, hcontext⟩ | ⟨value, -, hvalues, hcontext⟩
  · rw [hvalues, hcontext, hfresh, ite_self, Option.none_or]
  · rw [hvalues, hcontext, IdMap.get?_insert, if_pos rfl]
    cases d.property? step.id with
    | none => rfl
    | some p =>
      rw [IdMap.get?_insert, Option.any_some]
      by_cases hname : name = p.name
      · simp [hname]
      · simp [hname, Ne.symm hname]

/-- The context holds the value of the last column of each name. -/
theorem get?_context_foldl {steps : List FormulaStep} (hnodup : (steps.map (·.id)).Nodup) {s : RowState}
    (hfresh : ∀ step ∈ steps, s.values.get? step.id = none) (name : String) :
    (steps.foldl (evalStep d today) s).context.get? name
      = (d.lastNamed? (steps.map (·.id)) (steps.foldl (evalStep d today) s).values.get? name).or
          (s.context.get? name) := by
  induction steps generalizing s with
  | nil => rfl
  | cons step steps ih =>
    obtain ⟨hstep, hnodup⟩ := List.nodup_cons.1 hnodup
    have hfresh' : ∀ other ∈ steps, (evalStep d today s step).values.get? other.id = none := by
      intro other hother
      have hne : other.id ≠ step.id := fun heq => hstep (List.mem_map.2 ⟨other, hother, heq⟩)
      rw [get?_values_evalStep hne, hfresh other (List.mem_cons_of_mem _ hother)]
    rw [List.foldl_cons, ih hnodup hfresh', get?_context_evalStep (hfresh step List.mem_cons_self),
      ← get?_values_foldl hstep, ← Option.or_assoc]
    unfold Document.lastNamed?
    rw [List.map_cons, List.reverse_cons, List.findSome?_append, List.findSome?_singleton]

theorem takeWhile_ne {before after : List String} {id : String} (hid : id ∉ before) :
    (before ++ id :: after).takeWhile (· != id) = before := by
  rw [List.takeWhile_append_of_pos fun other hother => ?_]
  · simp
  · rw [bne_iff_ne]
    rintro rfl
    exact hid hother

theorem idxOf_lt_of_mem_takeWhile {a b : String} {l : List String} (hb : b ∈ l.takeWhile (· != a)) :
    l.idxOf b < l.idxOf a := by
  induction l with
  | nil => cases hb
  | cons c l ih =>
    rw [List.takeWhile_cons] at hb
    split at hb
    · next hc =>
      rw [bne_iff_ne] at hc
      rw [List.idxOf_cons_ne _ hc]
      rcases List.mem_cons.1 hb with rfl | hb
      · rw [List.idxOf_cons_self]
        omega
      · by_cases hcb : c = b
        · rw [hcb, List.idxOf_cons_self]
          omega
        · rw [List.idxOf_cons_ne _ hcb]
          have := ih hb
          omega
    · cases hb

/-- A formula that cannot be evaluated although it can be read uses a column that cannot be evaluated,
with the same error. -/
theorem Planned.exists_failed_use {properties : List (Property × String)} {removed order : List String}
    {failed : IdMap Error} {plan : FormulaPlan} (h : Planned properties removed order failed plan)
    {p : Property} {expression : String} (hcolumn : (p, expression) ∈ properties) {e : Option Expr}
    (hread : readFormula expression = .ok e) {error : Error}
    (herror : plan.failed.get? p.id = some error) :
    ∃ used ∈ usesOf properties expression, plan.failed.get? used = some error := by
  have hreadable : ∀ error, ¬ Unreadable properties p.id error := by
    rintro error ⟨column, hmem, hid, hbad⟩
    obtain rfl := List.inj_on_of_nodup_map h.ids hmem hcolumn hid
    rw [hread] at hbad
    cases hbad
  rw [← dependencies_graph h.ids hcolumn]
  exact h.exists_same_failure herror hreadable

end FormulaPlan

namespace Document

variable {d : Document} {today : Date} {columns : ColumnValues} {row : Row} {p : Property}
  {expression name : String} {e : Expr}

theorem lastNamed?_congr {ids : List String} {value? value?' : String → Option Cell}
    (h : ∀ id ∈ ids, value? id = value?' id) (name : String) :
    d.lastNamed? ids value? name = d.lastNamed? ids value?' name :=
  FormulaPlan.findSome?_congr fun id hid => by rw [h id (List.mem_reverse.1 hid)]

theorem mem_usesOf_iff_usedAs? (hread : FormulaPlan.readFormula expression = .ok (some e))
    {used : String} :
    used ∈ FormulaPlan.usesOf (FormulaPlan.formulas d.properties) expression
      ↔ ∃ name ∈ e.columns, d.usedAs? name = some used := by
  rw [FormulaPlan.mem_usesOf_iff hread]
  refine exists_congr fun name => and_congr_right fun _ => ?_
  unfold usedAs?
  cases Function.isName name <;> simp

/-! ### What a formula comes to -/

/-- The columns in front of a step have shown before it what they show in the end. -/
theorem get?_of_before (hids : (d.properties.map (·.id)).Nodup) (hrows : (d.rows.map (·.id)).Nodup)
    (columns : ColumnValues) (today : Date) (hrow : row ∈ d.rows) {before after : List FormulaStep}
    {step : FormulaStep}
    (hsplit : (FormulaPlan.ofProperties d.properties).steps = before ++ step :: after) :
    ∀ id ∈ before.map (·.id),
      (before.foldl (FormulaPlan.evalStep d today)
          ((FormulaPlan.ofProperties d.properties).rowStart d columns row)).values.get? id
        = (d.formulaValues columns today).value? row.id id ∧
      (before.foldl (FormulaPlan.evalStep d today)
          ((FormulaPlan.ofProperties d.properties).rowStart d columns row)).errors.get? id
        = (d.formulaValues columns today).error? row.id id := by
  intro id hid
  obtain ⟨removed, order, failed, h⟩ := FormulaPlan.exists_planned hids
  have hnodup := h.nodup_order
  rw [FormulaPlan.order, hsplit, List.map_append] at hnodup
  have hlater : id ∉ (step :: after).map (·.id) :=
    fun hmem => (List.nodup_append.1 hnodup).2.2 _ hid _ hmem rfl
  unfold formulaValues
  rw [FormulaPlan.value?_resolve _ hrows hrow, FormulaPlan.error?_resolve _ hrows hrow,
    FormulaPlan.evalRow_eq, hsplit, List.foldl_append, FormulaPlan.get?_values_foldl hlater,
    FormulaPlan.get?_errors_foldl hlater]
  exact ⟨rfl, rfl⟩

/-- The columns in front of a step. -/
theorem takeWhile_order (hids : (d.properties.map (·.id)).Nodup) (columns : ColumnValues)
    (today : Date) {before after : List FormulaStep} {step : FormulaStep}
    (hsplit : (FormulaPlan.ofProperties d.properties).steps = before ++ step :: after) :
    (d.formulaValues columns today).order.takeWhile (· != step.id) = before.map (·.id) := by
  obtain ⟨removed, order, failed, h⟩ := FormulaPlan.exists_planned hids
  have hnodup := h.nodup_order
  rw [formulaValues, FormulaPlan.order_resolve]
  rw [FormulaPlan.order, hsplit, List.map_append, List.map_cons] at hnodup ⊢
  exact FormulaPlan.takeWhile_ne
    fun hmem => (List.nodup_append.1 hnodup).2.2 _ hmem _ List.mem_cons_self rfl

/-- A formula with a place in the order comes to the error of the first column that it uses and that
has one, or else to what it gives for the values under which it sees its names. -/
theorem shows_of_evaluated (hids : (d.properties.map (·.id)).Nodup)
    (hrows : (d.rows.map (·.id)).Nodup) (columns : ColumnValues) (today : Date) (hrow : row ∈ d.rows)
    (hp : p ∈ d.properties) (hformula : p.formula? = some expression)
    (hfine : (FormulaPlan.ofProperties d.properties).failed.get? p.id = none) :
    ∃ context : Context,
      (∀ name, context.get? name
        = d.seenAs? row columns (d.formulaValues columns today) p name) ∧
      (d.formulaValues columns today).Shows row.id p.id
        (match (FormulaPlan.usesOf (FormulaPlan.formulas d.properties) expression).findSome?
            ((d.formulaValues columns today).error? row.id) with
          | some error => .error error
          | none => formulaValue today context expression) := by
  obtain ⟨removed, order, failed, h⟩ := FormulaPlan.exists_planned hids
  have hcolumn := FormulaPlan.mem_formulas.2 ⟨hp, hformula⟩
  have hmem := h.mem_order_iff.2
    ⟨List.mem_map_of_mem (f := (·.1.id)) hcolumn, FormulaPlan.contains_eq_false_iff.2 hfine⟩
  obtain ⟨before, step, after, hsplit, hid⟩ := FormulaPlan.exists_split hmem
  obtain ⟨hstep, hbefore⟩ := h.steps_behind hsplit
  have hnodup := h.nodup_order
  rw [FormulaPlan.order, hsplit, List.map_append] at hnodup
  have hplaces := takeWhile_order hids columns today hsplit
  rw [hid] at hplaces
  have hsettled := get?_of_before hids hrows columns today hrow hsplit
  refine ⟨(before.foldl (FormulaPlan.evalStep d today)
    ((FormulaPlan.ofProperties d.properties).rowStart d columns row)).context, fun name => ?_, ?_⟩
  · rw [FormulaPlan.get?_context_foldl (List.nodup_append.1 hnodup).1 (fun _ _ => rfl), seenAs?,
      hplaces, lastNamed?_congr fun id hid => (hsettled id hid).1]
    rfl
  · have hshows := shows_of_split hids hrows columns today hrow hsplit
    have huses : step.uses = FormulaPlan.usesOf (FormulaPlan.formulas d.properties) expression := by
      rw [hstep, FormulaPlan.stepFor, hid, FormulaPlan.dependencies_graph h.ids hcolumn]
    have herrors := FormulaPlan.findSome?_congr fun used hused => (hsettled used (hbefore used hused)).2
    rw [FormulaStep.outcome, herrors, h.eval_step hsplit hcolumn hid, huses, hid] at hshows
    exact hshows

/-- A formula that cannot be read shows its error. -/
theorem shows_of_unreadable (hids : (d.properties.map (·.id)).Nodup)
    (hrows : (d.rows.map (·.id)).Nodup) (columns : ColumnValues) (today : Date) (hrow : row ∈ d.rows)
    (hp : p ∈ d.properties) (hformula : p.formula? = some expression) {error : Error}
    (hread : FormulaPlan.readFormula expression = .error error) :
    (d.formulaValues columns today).Shows row.id p.id (.error error) := by
  obtain ⟨removed, order, failed, h⟩ := FormulaPlan.exists_planned hids
  exact shows_of_failed hids hrows columns today hrow (h.get?_of_unreadable
    ⟨(p, expression), FormulaPlan.mem_formulas.2 ⟨hp, hformula⟩, rfl, hread⟩)

/-- A blank formula shows null. -/
theorem shows_of_blank (hids : (d.properties.map (·.id)).Nodup)
    (hrows : (d.rows.map (·.id)).Nodup) (columns : ColumnValues) (today : Date) (hrow : row ∈ d.rows)
    (hp : p ∈ d.properties) (hformula : p.formula? = some expression)
    (hread : FormulaPlan.readFormula expression = .ok none) :
    (d.formulaValues columns today).Shows row.id p.id (.ok .null) := by
  obtain ⟨removed, order, failed, h⟩ := FormulaPlan.exists_planned hids
  have huses : FormulaPlan.usesOf (FormulaPlan.formulas d.properties) expression = [] := by
    rw [FormulaPlan.usesOf, hread]
  have hplaced : (FormulaPlan.ofProperties d.properties).failed.get? p.id = none := by
    refine Option.eq_none_iff_forall_ne_some.2 fun error herror => ?_
    obtain ⟨used, hused, -⟩ :=
      h.exists_failed_use (FormulaPlan.mem_formulas.2 ⟨hp, hformula⟩) hread herror
    rw [huses] at hused
    cases hused
  obtain ⟨context, -, hshows⟩ := shows_of_evaluated hids hrows columns today hrow hp hformula hplaced
  rwa [huses, List.findSome?_nil, formulaValue, hread] at hshows

theorem reading?_eq_error_iff {values : FormulaValues} {error : Error} :
    d.reading? row columns values p name = some (.error error)
      ↔ ∃ used, d.usedAs? name = some used ∧ values.error? row.id used = some error := by
  rw [← Option.bind_eq_some_iff]
  unfold reading?
  cases (d.usedAs? name).bind (values.error? row.id) <;> simp

/-- If none of its names has an error, a formula shows what it gives for the values that it reads. -/
theorem shows_of_readings (hids : (d.properties.map (·.id)).Nodup) (hrows : (d.rows.map (·.id)).Nodup)
    (hrow : row ∈ d.rows) (hp : p ∈ d.properties) (hformula : p.formula? = some expression)
    (hread : FormulaPlan.readFormula expression = .ok (some e))
    (hfine : ∀ name ∈ e.columns, ∀ error,
      d.reading? row columns (d.formulaValues columns today) p name ≠ some (.error error)) :
    ∃ context : Context,
      (∀ name ∈ e.columns, (context.get? name).map .ok
        = d.reading? row columns (d.formulaValues columns today) p name) ∧
      (d.formulaValues columns today).Shows row.id p.id (formulaValue today context expression) := by
  obtain ⟨removed, order, failed, h⟩ := FormulaPlan.exists_planned hids
  have huses : ∀ used ∈ FormulaPlan.usesOf (FormulaPlan.formulas d.properties) expression,
      (d.formulaValues columns today).error? row.id used = none := by
    intro used hused
    obtain ⟨name, hname, hstands⟩ := (mem_usesOf_iff_usedAs? hread).1 hused
    refine Option.eq_none_iff_forall_ne_some.2 fun error herror => ?_
    exact hfine name hname error (reading?_eq_error_iff.2 ⟨used, hstands, herror⟩)
  have hplaced : (FormulaPlan.ofProperties d.properties).failed.get? p.id = none := by
    refine Option.eq_none_iff_forall_ne_some.2 fun error herror => ?_
    obtain ⟨used, hused, hsame⟩ :=
      h.exists_failed_use (FormulaPlan.mem_formulas.2 ⟨hp, hformula⟩) hread herror
    have hshown := (shows_of_failed hids hrows columns today hrow hsame).1
    rw [huses used hused] at hshown
    cases hshown
  obtain ⟨context, hcontext, hshows⟩ :=
    shows_of_evaluated hids hrows columns today hrow hp hformula hplaced
  rw [List.findSome?_eq_none_iff.2 huses] at hshows
  refine ⟨context, fun name hname => ?_, hshows⟩
  rw [hcontext, reading?]
  cases hbind : (d.usedAs? name).bind ((d.formulaValues columns today).error? row.id) with
  | none => rfl
  | some error =>
    exact absurd (reading?_eq_error_iff.2 (Option.bind_eq_some_iff.1 hbind)) (hfine name hname error)

/-- If one of its names has an error, a formula shows an error: one that it reads, unless it uses
itself. -/
theorem shows_error_of_reading (hids : (d.properties.map (·.id)).Nodup)
    (hrows : (d.rows.map (·.id)).Nodup) (hrow : row ∈ d.rows) (hp : p ∈ d.properties)
    (hformula : p.formula? = some expression)
    (hread : FormulaPlan.readFormula expression = .ok (some e)) (hname : name ∈ e.columns)
    {error : Error}
    (hreading : d.reading? row columns (d.formulaValues columns today) p name = some (.error error)) :
    ∃ error', (d.formulaValues columns today).Shows row.id p.id (.error error') ∧
      ((∃ name ∈ e.columns,
          d.reading? row columns (d.formulaValues columns today) p name = some (.error error')) ∨
        (FormulaPlan.graph (FormulaPlan.formulas d.properties)).DependsVia p.id p.id) := by
  obtain ⟨removed, order, failed, h⟩ := FormulaPlan.exists_planned hids
  cases hplaced : (FormulaPlan.ofProperties d.properties).failed.get? p.id with
  | some error' =>
    refine ⟨error', shows_of_failed hids hrows columns today hrow hplaced, ?_⟩
    obtain ⟨used, hused, hsame⟩ :=
      h.exists_failed_use (FormulaPlan.mem_formulas.2 ⟨hp, hformula⟩) hread hplaced
    obtain ⟨name', hname', hstands⟩ := (mem_usesOf_iff_usedAs? hread).1 hused
    have hshown := (shows_of_failed hids hrows columns today hrow hsame).1
    exact .inl ⟨name', hname', reading?_eq_error_iff.2 ⟨used, hstands, hshown⟩⟩
  | none =>
    obtain ⟨context, -, hshows⟩ :=
      shows_of_evaluated hids hrows columns today hrow hp hformula hplaced
    obtain ⟨used, hstands, herror⟩ := reading?_eq_error_iff.1 hreading
    have hused := (mem_usesOf_iff_usedAs? (d := d) hread).2 ⟨name, hname, hstands⟩
    cases hfirst : (FormulaPlan.usesOf (FormulaPlan.formulas d.properties) expression).findSome?
        ((d.formulaValues columns today).error? row.id) with
    | none =>
      rw [List.findSome?_eq_none_iff.1 hfirst used hused] at herror
      cases herror
    | some error' =>
      rw [hfirst] at hshows
      obtain ⟨used', hused', herror'⟩ := List.exists_of_findSome?_eq_some hfirst
      obtain ⟨name', hname', hstands'⟩ := (mem_usesOf_iff_usedAs? hread).1 hused'
      exact ⟨error', hshows, .inl ⟨name', hname', reading?_eq_error_iff.2 ⟨used', hstands', herror'⟩⟩⟩

/-! ### Names of one formula column -/

/-- The columns of the order are formula columns. -/
theorem exists_formula_of_mem_order (hids : (d.properties.map (·.id)).Nodup) {id : String}
    (hid : id ∈ (d.formulaValues columns today).order) :
    ∃ q ∈ d.properties, q.id = id ∧ q.formula?.isSome = true := by
  obtain ⟨removed, order, failed, h⟩ := FormulaPlan.exists_planned hids
  rw [formulaValues, FormulaPlan.order_resolve] at hid
  obtain ⟨q, hq, text, htext, rfl⟩ :=
    FormulaPlan.exists_formula_of_mem_formulas (h.mem_order_iff.1 hid).1
  exact ⟨q, hq, rfl, by rw [htext, Option.isSome_some]⟩

/-- If a single one of some columns has a name, its value is that of the name. -/
theorem lastNamed?_of_unique {ids : List String} {value? : String → Option Cell} {q : Property}
    (hq : d.property? q.id = some q) (hmem : q.id ∈ ids)
    (hunique : ∀ id ∈ ids, (d.property? id).any (·.name == q.name) = true → id = q.id) {value : Cell}
    (hvalue : value? q.id = some value) : d.lastNamed? ids value? q.name = some value := by
  have hsome : (d.lastNamed? ids value? q.name).isSome = true := by
    refine List.findSome?_isSome_iff.2 ⟨q.id, List.mem_reverse.2 hmem, ?_⟩
    rw [hq, Option.any_some, beq_self_eq_true, if_pos rfl, hvalue, Option.isSome_some]
  obtain ⟨held, hheld⟩ := Option.isSome_iff_exists.1 hsome
  obtain ⟨id, hid, hsame⟩ := List.exists_of_findSome?_eq_some hheld
  split at hsame
  · next hnamed =>
    rw [hunique id (List.mem_reverse.1 hid) hnamed, hvalue] at hsame
    rw [hheld, hsame]
  · cases hsame

/-- A name that only its first property has as a formula column stands for it. -/
theorem usedAs?_of_firstOnly {q : Property} (hq : q ∈ d.properties)
    (hformula : q.formula?.isSome = true) (hfirst : d.FirstOnly q.name) :
    d.usedAs? q.name = some q.id := by
  obtain ⟨hnamed, hplain⟩ := hfirst q hq hformula rfl
  obtain ⟨text, htext⟩ := Option.isSome_iff_exists.1 hformula
  have hsome : ((FormulaPlan.formulas d.properties).find? (·.1.name == q.name)).isSome = true :=
    List.find?_isSome.2 ⟨(q, text), FormulaPlan.mem_formulas.2 ⟨hq, htext⟩, beq_self_eq_true _⟩
  obtain ⟨⟨q', text'⟩, hfind⟩ := Option.isSome_iff_exists.1 hsome
  obtain ⟨hq', htext'⟩ := FormulaPlan.mem_formulas.1 (List.mem_of_find?_eq_some hfind)
  have hq'named := (hfirst q' hq' (by rw [htext', Option.isSome_some])
    (by simpa using List.find?_some hfind)).1
  rw [hnamed, Option.some_inj] at hq'named
  rw [usedAs?, hplain, FormulaPlan.columnNamed?, hfind, hq'named]
  rfl

/-- The formula columns that a formula uses and that have a value come before it. -/
theorem mem_takeWhile_order (hids : (d.properties.map (·.id)).Nodup)
    (hrows : (d.rows.map (·.id)).Nodup) (hrow : row ∈ d.rows) (hp : p ∈ d.properties)
    (hformula : p.formula? = some expression) {used : String}
    (hused : used ∈ FormulaPlan.usesOf (FormulaPlan.formulas d.properties) expression) {value : Cell}
    (hvalue : (d.formulaValues columns today).value? row.id used = some value) :
    used ∈ (d.formulaValues columns today).order.takeWhile (· != p.id) := by
  obtain ⟨removed, order, failed, h⟩ := FormulaPlan.exists_planned hids
  by_cases hmem : p.id ∈ (FormulaPlan.ofProperties d.properties).order
  · obtain ⟨before, step, after, hsplit, hid⟩ := FormulaPlan.exists_split hmem
    rw [← hid, takeWhile_order hids columns today hsplit]
    refine (h.steps_behind hsplit).2 used ?_
    rwa [(h.steps_behind hsplit).1, FormulaPlan.stepFor, hid,
      FormulaPlan.dependencies_graph h.ids (FormulaPlan.mem_formulas.2 ⟨hp, hformula⟩)]
  · rw [formulaValues, FormulaPlan.value?_resolve _ hrows hrow] at hvalue
    obtain ⟨before, step, after, hsplit, rfl, -⟩ :=
      FormulaPlan.exists_step_of_value h.nodup_order hvalue
    rw [formulaValues, FormulaPlan.order_resolve, List.takeWhile_eq_self_iff.2 fun id hid => ?_,
      FormulaPlan.order, hsplit]
    · exact List.mem_map_of_mem (List.mem_append_right _ List.mem_cons_self)
    · rw [bne_iff_ne]
      rintro rfl
      exact hmem hid

/-- A name that no formula column has does not stand for any. -/
theorem usedAs?_eq_none (hnone : ∀ q ∈ d.properties, q.formula?.isSome = true → q.name ≠ name) :
    d.usedAs? name = none := by
  have hfind : (FormulaPlan.formulas d.properties).find? (·.1.name == name) = none := by
    rw [List.find?_eq_none]
    rintro ⟨q, text⟩ hcolumn
    obtain ⟨hq, htext⟩ := FormulaPlan.mem_formulas.1 hcolumn
    simpa using hnone q hq (by rw [htext, Option.isSome_some])
  rw [usedAs?, FormulaPlan.columnNamed?, hfind, Option.map_none, ite_self]

theorem lastNamed?_order_eq_none (hids : (d.properties.map (·.id)).Nodup)
    (hnone : ∀ q ∈ d.properties, q.formula?.isSome = true → q.name ≠ name) (id : String)
    (value? : String → Option Cell) :
    d.lastNamed? ((d.formulaValues columns today).order.takeWhile (· != id)) value? name = none := by
  refine List.findSome?_eq_none_iff.2 fun id hid => ?_
  obtain ⟨q, hq, rfl, hformula⟩ :=
    exists_formula_of_mem_order hids ((List.takeWhile_sublist _).mem (List.mem_reverse.1 hid))
  rw [(property?_eq_some_iff hids).2 ⟨hq, rfl⟩, Option.any_some,
    beq_eq_false_iff_ne.2 (hnone q hq hformula)]
  rfl

/-- A name that no formula column has is read as the row shows it. -/
theorem reading?_of_stored (hids : (d.properties.map (·.id)).Nodup)
    (hnone : ∀ q ∈ d.properties, q.formula?.isSome = true → q.name ≠ name) :
    d.reading? row columns (d.formulaValues columns today) p name
      = (d.propertyNamed? name).map fun q => .ok (q.seenValue row columns) := by
  rw [reading?, usedAs?_eq_none hnone, Option.bind_none]
  simp only [seenAs?]
  rw [lastNamed?_order_eq_none hids hnone, Option.none_or, Document.get?_rowContext,
    Option.map_map]
  rfl

/-- A name that only its first property has as a formula column is read as that property shows it. -/
theorem reading?_eq_firstNamed? (hids : (d.properties.map (·.id)).Nodup)
    (hrows : (d.rows.map (·.id)).Nodup) (hrow : row ∈ d.rows) (hp : p ∈ d.properties)
    (hformula : p.formula? = some expression)
    (hread : FormulaPlan.readFormula expression = .ok (some e)) (hname : name ∈ e.columns)
    (hfirst : d.FirstOnly name) :
    d.reading? row columns (d.formulaValues columns today) p name
      = d.firstNamed? row columns (d.formulaValues columns today) name := by
  by_cases hnone : ∀ q ∈ d.properties, q.formula?.isSome = true → q.name ≠ name
  · rw [reading?_of_stored hids hnone, firstNamed?]
    cases hnamed : d.propertyNamed? name with
    | none => rfl
    | some q =>
      have hq := List.mem_of_find?_eq_some hnamed
      have hqname : q.name = name := by simpa using List.find?_some hnamed
      rw [Option.map_some, Option.bind_some, if_neg fun hqformula => hnone q hq hqformula hqname]
  push Not at hnone
  obtain ⟨q, hq, hqformula, rfl⟩ := hnone
  obtain ⟨hnamed, hplain⟩ := hfirst q hq hqformula rfl
  have hstands := usedAs?_of_firstOnly hq hqformula hfirst
  rw [reading?, hstands, firstNamed?, hnamed, Option.bind_some, Option.bind_some, if_pos hqformula]
  obtain ⟨shown, hshows⟩ := exists_shows hids hrows columns today hrow hq hqformula
  cases shown with
  | error error => rw [hshows.1]
  | ok value =>
    -- the value is there when the formula is evaluated, and no other column writes under the name
    have hused := (mem_usesOf_iff_usedAs? hread).2 ⟨q.name, hname, hstands⟩
    have hplace := mem_takeWhile_order hids hrows hrow hp hformula hused hshows.1
    rw [hshows.2]
    simp only [seenAs?]
    have hunique : ∀ id ∈ (d.formulaValues columns today).order.takeWhile (· != p.id),
        (d.property? id).any (·.name == q.name) = true → id = q.id := by
      intro id hid hsame
      obtain ⟨q', hq', rfl, hq'formula⟩ :=
        exists_formula_of_mem_order hids ((List.takeWhile_sublist _).mem hid)
      rw [(property?_eq_some_iff hids).2 ⟨hq', rfl⟩, Option.any_some, beq_iff_eq] at hsame
      have hq'named := (hfirst q' hq' hq'formula hsame).1
      rw [hnamed, Option.some_inj] at hq'named
      rw [hq'named]
    rw [lastNamed?_of_unique ((property?_eq_some_iff hids).2 ⟨hq, rfl⟩) hplace hunique hshows.1,
      hshows.1, Option.some_or]

/-- What a formula column shows rests on what it reads for its names. If it reads an error, it shows an
error: one of those that it reads, unless it uses itself. Otherwise it shows what its formula gives for
the values that it reads. A name that only its first property has as a formula column is read as that
property shows it. -/
theorem formulaValues_readings (hids : (d.properties.map (·.id)).Nodup)
    (hrows : (d.rows.map (·.id)).Nodup) (columns : ColumnValues) (today : Date) (hrow : row ∈ d.rows)
    (hp : p ∈ d.properties) (hformula : p.formula? = some expression)
    (hread : FormulaPlan.readFormula expression = .ok (some e)) :
    ((∃ name ∈ e.columns, ∃ error,
        d.reading? row columns (d.formulaValues columns today) p name = some (.error error)) →
      ∃ error, (d.formulaValues columns today).Shows row.id p.id (.error error) ∧
        ((∃ name ∈ e.columns,
            d.reading? row columns (d.formulaValues columns today) p name = some (.error error)) ∨
          (FormulaPlan.graph (FormulaPlan.formulas d.properties)).DependsVia p.id p.id)) ∧
    ((∀ name ∈ e.columns, ∀ error,
        d.reading? row columns (d.formulaValues columns today) p name ≠ some (.error error)) →
      ∃ context : Context,
        (∀ name ∈ e.columns, (context.get? name).map .ok
          = d.reading? row columns (d.formulaValues columns today) p name) ∧
        (d.formulaValues columns today).Shows row.id p.id (formulaValue today context expression)) ∧
    ∀ name ∈ e.columns, d.FirstOnly name →
      d.reading? row columns (d.formulaValues columns today) p name
        = d.firstNamed? row columns (d.formulaValues columns today) name := by
  refine ⟨?_, shows_of_readings hids hrows hrow hp hformula hread, fun name hname hfirst =>
    reading?_eq_firstNamed? hids hrows hrow hp hformula hread hname hfirst⟩
  rintro ⟨name, hname, error, hreading⟩
  exact shows_error_of_reading hids hrows hrow hp hformula hread hname hreading

end Document

/-! ### Two columns of one name -/

section TwoNamed

def namesakeRow : Row := ⟨"r", .ofList [("s", .text "y")], default, default⟩

/-- A stored column, a formula column of the same name, and a formula that refers to the name. -/
def namesakeDocument : Document where
  properties := [.fresh "s" "N" .text, .fresh "g" "N" (.formula "\"x\""), .fresh "f" "F" (.formula "N")]
  rows := [namesakeRow]
  views := []

theorem readFormula_name : FormulaPlan.readFormula "N" = .ok (some (.column "N")) :=
  readFormula_of_name rfl rfl

theorem ofProperties_namesakeDocument :
    FormulaPlan.ofProperties namesakeDocument.properties
      = ⟨[⟨"g", some (.string "x"), []⟩, ⟨"f", some (.column "N"), ["g"]⟩], .empty⟩ := by
  have hformulas : FormulaPlan.formulas namesakeDocument.properties
      = [(.fresh "g" "N" (.formula "\"x\""), "\"x\""), (.fresh "f" "F" (.formula "N"), "N")] := rfl
  have hname : FormulaPlan.usesOf (FormulaPlan.formulas namesakeDocument.properties) "N" = ["g"] := by
    rw [FormulaPlan.usesOf, readFormula_name]
    rfl
  have hgraph : FormulaPlan.graph (FormulaPlan.formulas namesakeDocument.properties)
      = [("g", []), ("f", ["g"])] := by
    rw [FormulaPlan.graph, hformulas, List.map_cons, List.map_cons, ← hformulas, hname, usesOf_quoted]
    rfl
  have horder : DependencyGraph.order [("g", []), ("f", ["g"])] = .ok ["g", "f"] := by
    simp [DependencyGraph.order, DependencyGraph.visitAll, DependencyGraph.visit,
      DependencyGraph.nodes, DependencyGraph.dependencies, IdMap.lookup_entry]
  rw [FormulaPlan.ofProperties_of_order hgraph horder]
  simp [hformulas, FormulaPlan.unreadable, FormulaPlan.parsed, readFormula_name, readFormula_quoted,
    FormulaPlan.stepsOf, IdMap.ofList, DependencyGraph.dependencies, IdMap.lookup_entry,
    Property.fresh, IdMap.contains, IdMap.get?_insert]

/-- The formula reads the value of the second column of the name, not what the first one shows. -/
theorem reading?_namesakeDocument (today : Date) :
    namesakeDocument.firstNamed? namesakeRow .empty (namesakeDocument.formulaValues .empty today) "N"
      = some (.ok (.text "y")) ∧
    namesakeDocument.reading? namesakeRow .empty (namesakeDocument.formulaValues .empty today)
      (.fresh "f" "F" (.formula "N")) "N" = some (.ok (.text "x")) := by
  rw [Document.formulaValues, ofProperties_namesakeDocument]
  exact ⟨rfl, rfl⟩

theorem formulaValues_readings_namesakeDocument :
    namesakeDocument.firstNamed? namesakeRow .empty (namesakeDocument.formulaValues .empty default) "N"
      = some (.ok (.text "y")) ∧
    (namesakeDocument.formulaValues .empty default).Shows namesakeRow.id "f" (.ok (.text "x")) := by
  obtain ⟨hfirst, hreading⟩ := reading?_namesakeDocument default
  have hp : Property.fresh "f" "F" (.formula "N") ∈ namesakeDocument.properties := by
    simp [namesakeDocument]
  obtain ⟨context, hcontext, hshows⟩ :=
    (Document.formulaValues_readings (by decide) (by decide) .empty default List.mem_cons_self hp rfl
      readFormula_name).2.1 (by
        intro name hname error herror
        rw [List.mem_singleton.1 hname, hreading] at herror
        cases herror)
  rw [formulaValue_of_name default readFormula_name ((hcontext "N" List.mem_cons_self).trans hreading)]
    at hshows
  exact ⟨hfirst, hshows⟩

end TwoNamed

end Databook
