import Databook.Validation.Report
import Databook.Proofs.Columns.FormulaOutcomes

/-!
# Columns that formulas refer to

The strict check wants every column to be there that a formula refers to. It takes the name of a
function for the function even where the formula uses it as a column, and evaluation does not: such a
column is looked up and may be unknown. With all other names a document that passes the check has no
formula that fails for an unknown column (`Document.takenForFunction_of_message`).

The errors of a row are followed through its evaluation. `FormulaPlan.RowState.Covered` holds before
the first formula, is kept by each one, and so holds of the row in the end.
-/

namespace Databook

open Formula (Expr Context Function EvalError)
open Calendar (Date)

/-! ### What the strict check finds -/

theorem nodup_of_repeated [BEq α] [LawfulBEq α] {before l : List α} (h : repeated before l = []) :
    l.Nodup ∧ ∀ a ∈ l, a ∉ before := by
  induction l generalizing before with
  | nil => exact ⟨List.nodup_nil, fun _ ha => absurd ha List.not_mem_nil⟩
  | cons a as ih =>
    unfold repeated at h
    split at h
    · cases h
    · next hnew =>
      obtain ⟨hnodup, hapart⟩ := ih h
      have ha : a ∉ before := by simpa using hnew
      refine ⟨List.nodup_cons.2 ⟨fun hmem => ?_, hnodup⟩, fun b hb => ?_⟩
      · exact hapart a hmem List.mem_cons_self
      · rcases List.mem_cons.1 hb with rfl | hb
        · exact ha
        · exact fun hmem => hapart b hb (List.mem_cons_of_mem _ hmem)

theorem nodup_of_idProblems {scope : IdScope} {ids : List String} (h : idProblems scope ids = []) :
    ids.Nodup :=
  (nodup_of_repeated (List.map_eq_nil_iff.1 h)).1

namespace Document

variable {d : Document}

/-- In a strict check every problem is an error. -/
theorem problems_eq_nil_of_strict (h : (d.validate true).isOk = true) : d.problems = [] := by
  simpa [validate, Report.isOk, List.partition_eq_filter_filter] using h

theorem kindProblems_eq_nil {names : List String} {properties : List Property}
    (h : d.propertyProblems names properties = []) : ∀ p ∈ properties, d.kindProblems p = [] := by
  induction properties generalizing names with
  | nil => exact fun _ hp => absurd hp List.not_mem_nil
  | cons q qs ih =>
    unfold propertyProblems at h
    obtain ⟨hfirst, hrest⟩ := List.append_eq_nil_iff.1 h
    intro p hp
    rcases List.mem_cons.1 hp with rfl | hp
    · exact (List.append_eq_nil_iff.1 hfirst).2
    · exact ih hrest p hp

/-- A formula without problems can be read, and the columns that it refers to are there. -/
theorem read_of_formulaProblems {name expression : String}
    (h : d.formulaProblems name expression = []) :
    ∃ read, FormulaPlan.readFormula expression = .ok read ∧ ∀ e, read = some e →
      ∀ column ∈ e.references, (d.propertyNamed? column).isSome = true := by
  unfold FormulaPlan.readFormula
  unfold formulaProblems references at h
  split at h
  · next hblank => exact ⟨none, by rw [if_pos hblank], fun e he => by cases he⟩
  · next hblank =>
    rw [if_neg hblank]
    cases hparse : Formula.parse expression with
    | error error =>
      rw [hparse] at h
      cases h
    | ok e =>
      rw [hparse] at h
      refine ⟨some e, rfl, ?_⟩
      rintro _ ⟨⟩ column hcolumn
      have hnone := List.filter_eq_nil_iff.1 (List.map_eq_nil_iff.1 h) column hcolumn
      simpa [Option.isSome_iff_ne_none] using hnone

/-- What a strict check makes sure of: ids are used once, and formulas can be read and have columns
for all names that are not those of functions. -/
structure Referable (d : Document) : Prop where
  ids : (d.properties.map (·.id)).Nodup
  read : ∀ p ∈ d.properties, ∀ expression, p.formula? = some expression →
    ∃ read, FormulaPlan.readFormula expression = .ok read ∧ ∀ e, read = some e →
      ∀ name ∈ e.columns, Function.isName name = true ∨ (d.propertyNamed? name).isSome = true

theorem referable_of_strict (h : (d.validate true).isOk = true) : d.Referable := by
  have hproblems := problems_eq_nil_of_strict h
  simp only [problems, List.append_eq_nil_iff] at hproblems
  obtain ⟨⟨⟨⟨⟨hids, -⟩, -⟩, hproperties⟩, -⟩, -⟩ := hproblems
  refine ⟨nodup_of_idProblems hids, ?_⟩
  intro p hp expression hformula
  have hkind := kindProblems_eq_nil hproperties p hp
  have hexpression : d.formulaProblems p.name expression = [] := by
    unfold Property.formula? at hformula
    unfold kindProblems at hkind
    split at hformula
    · next heq =>
      cases hformula
      rwa [heq] at hkind
    · cases hformula
  obtain ⟨read, hread, hthere⟩ := read_of_formulaProblems hexpression
  refine ⟨read, hread, ?_⟩
  intro e he name hname
  -- the check passes over names of functions
  cases hfunction : Function.isName name with
  | true => exact .inl rfl
  | false => exact .inr (hthere e he name (FormulaPlan.mem_references.2 ⟨hname, hfunction⟩))

/-- A formula uses the name of a function as a column, and no property has the name. -/
def TakenForFunction (d : Document) (name : String) : Prop :=
  Function.isName name = true ∧ d.propertyNamed? name = none ∧
    ∃ p ∈ d.properties, ∃ expression e, p.formula? = some expression ∧
      FormulaPlan.readFormula expression = .ok (some e) ∧ name ∈ e.columns

end Document

/-! ### Errors of formulas -/

/-- The ninth letter tells the text from the error of an unknown column. -/
def WordedOtherwise (s : String) : Prop := ∃ c, s.toList[8]? = some c ∧ c ≠ 'c'

theorem WordedOtherwise.append {s : String} (h : WordedOtherwise s) (t : String) :
    WordedOtherwise (s ++ t) := by
  obtain ⟨c, hc, hne⟩ := h
  refine ⟨c, ?_, hne⟩
  rw [String.toList_append, List.getElem?_append_left (List.getElem?_eq_some_iff.1 hc).1]
  exact hc

theorem WordedOtherwise.ne {s : String} (h : WordedOtherwise s) (name : String) :
    s ≠ "Unknown column: " ++ name := by
  rintro rfl
  obtain ⟨c, hc, hne⟩ := h
  rw [String.toList_append, List.getElem?_append_left (by decide)] at hc
  cases hc
  exact hne rfl

theorem worded_evalError (e : EvalError) (hne : ∀ name, e ≠ .unknownColumn name) :
    WordedOtherwise e.message := by
  cases e with
  | unknownColumn name => exact absurd rfl (hne name)
  | unknownFunction name => exact .append ⟨_, rfl, by decide⟩ _
  | wrongArity function arity given =>
    have hstart : WordedOtherwise "Function " := ⟨_, rfl, by decide⟩
    exact ((((hstart.append _).append _).append _).append _).append _
  | divisionByZero | amountNotANumber | dateOutOfRange => exact ⟨_, rfl, by decide⟩
  | invalidDate text | unknownDateUnit text =>
    exact .append (.append ⟨_, rfl, by decide⟩ _) _

/-- Of the errors that formulas show, only that of an unknown column is worded like it. -/
theorem worded_error {error : Error} (hformula : error.isFormulaError = true)
    (hne : ∀ name, error ≠ .evaluation (.unknownColumn name)) : WordedOtherwise error.message := by
  cases error with
  | formula e =>
    cases e with
    | lexical e position | grammatical e position =>
      exact .append (.append (.append ⟨_, rfl, by decide⟩ _) _) _
  | evaluation e => exact worded_evalError e fun name h => hne name (congrArg Error.evaluation h)
  | circular path => exact .append ⟨_, rfl, by decide⟩ _
  | _ => cases hformula

theorem eq_unknownColumn_of_message {error : Error} {name : String}
    (hformula : error.isFormulaError = true) (h : error.message = "Unknown column: " ++ name) :
    error = .evaluation (.unknownColumn name) := by
  by_contra hother
  refine (worded_error hformula fun other heq => hother ?_).ne name h
  subst heq
  have hsame : "Unknown column: " ++ other = "Unknown column: " ++ name := h
  rw [(String.append_right_inj _).1 hsame]

namespace FormulaPlan

/-- A column fails because it, or one that it uses, cannot be read or is on a circle. -/
theorem Planned.reason_of_get? {columns : List (Property × String)} {removed order : List String}
    {failed : IdMap Error} {plan : FormulaPlan} (h : Planned columns removed order failed plan)
    {id : String} {error : Error} (hid : plan.failed.get? id = some error) :
    (∃ e, error = .formula e) ∨ ∃ path, error = .circular path := by
  induction hplace : order.idxOf id using Nat.strongRecOn generalizing id with
  | _ place ih =>
    rcases h.reasons_of_get? hid with
      ⟨column, -, -, hread⟩ | ⟨circle, -, -, rfl⟩ | ⟨horder, used, hused, hget⟩
    · unfold readFormula at hread
      split at hread
      · cases hread
      split at hread
      all_goals cases hread
      exact .inl ⟨_, rfl⟩
    · exact .inr ⟨_, rfl⟩
    · by_cases hr : used ∈ removed
      · obtain ⟨circle, -, -, hcircle⟩ := h.get?_of_mem_removed hr
        rw [hget, Option.some_inj] at hcircle
        exact .inr ⟨_, hcircle⟩
      · have hdep := (dependsOn_graph h.ids).2 hused
        have hstep := dependsOn_without.2 ⟨hdep, ((h.peeled.complete id).1 horder).2, hr⟩
        exact ih _ (hplace ▸ h.peeled.placed.idxOf_lt horder hstep) hget rfl

end FormulaPlan

/-- The error is one of formulas, and a column that it calls unknown has been taken for a function. -/
structure Document.Explains (d : Document) (error : Error) : Prop where
  formula : error.isFormulaError = true
  column : ∀ name, error = .evaluation (.unknownColumn name) → d.TakenForFunction name

/-- The formula of a step is one of the document. -/
def FormulaStep.IsOf (d : Document) (step : FormulaStep) : Prop :=
  ∀ e, step.expr = some e → ∃ p ∈ d.properties, ∃ expression, p.formula? = some expression ∧
    FormulaPlan.readFormula expression = .ok (some e)

namespace FormulaPlan

section Row

variable {d : Document} {columns : ColumnValues} {today : Date} {row : Row} {s : RowState}
  {step : FormulaStep} {removed order : List String} {failed : IdMap Error} {plan : FormulaPlan}

/-! ### One row -/

/-- While a row is evaluated, the context has the names of all properties, and the document explains
the errors. -/
structure RowState.Covered (d : Document) (s : RowState) : Prop where
  context : ∀ name, (d.propertyNamed? name).isSome = true → (s.context.get? name).isSome = true
  errors : ∀ id error, s.errors.get? id = some error → d.Explains error

theorem explains_of_eval (hd : d.Referable) (hstep : step.IsOf d) (h : s.Covered d) {error : Error}
    (heval : step.eval today s.context = .error error) : d.Explains error := by
  unfold FormulaStep.eval at heval
  split at heval
  · cases heval
  · next e he =>
    obtain ⟨p, hp, expression, hformula, hread⟩ := hstep e he
    cases hvalue : e.eval today s.context with
    | ok value =>
      rw [hvalue] at heval
      cases heval
    | error cause =>
      rw [hvalue] at heval
      cases heval
      refine ⟨rfl, fun name hname => ?_⟩
      cases hname
      obtain ⟨hcolumn, hget⟩ := Expr.missesOnly_eval today e name hvalue
      have hnone : ¬ (d.propertyNamed? name).isSome = true := by
        intro hsome
        have := h.context name hsome
        rw [hget] at this
        cases this
      -- what is read of the formula is `e`, and the check has looked at the columns of `e`
      obtain ⟨read, hread', hthere⟩ := hd.read p hp expression hformula
      rw [hread] at hread'
      cases hread'
      refine ⟨(hthere e rfl name hcolumn).resolve_right hnone, ?_, p, hp, expression, e, hformula, hread,
        hcolumn⟩
      simpa using hnone

theorem RowState.Covered.fail (h : s.Covered d) {id : String} {error : Error}
    (herror : d.Explains error) : RowState.Covered d { s with errors := s.errors.insert id error } := by
  refine ⟨h.context, ?_⟩
  intro other error' hget
  rw [IdMap.get?_insert] at hget
  split at hget
  · cases hget
    exact herror
  · exact h.errors other error' hget

/-- One formula keeps it so. -/
theorem RowState.Covered.evalStep (hd : d.Referable) (hstep : step.IsOf d) (h : s.Covered d) :
    (evalStep d today s step).Covered d := by
  unfold FormulaPlan.evalStep
  split
  · next error hused =>
    obtain ⟨used, -, hget⟩ := List.exists_of_findSome?_eq_some hused
    exact h.fail (h.errors used error hget)
  split
  · next error heval => exact h.fail (explains_of_eval hd hstep h heval)
  · next value heval =>
    refine ⟨?_, h.errors⟩
    intro name hname
    dsimp only
    -- a value that is put in hides another one at most
    split
    · rw [IdMap.get?_insert]
      split
      · rfl
      · exact h.context name hname
    · exact h.context name hname

theorem RowState.Covered.foldl (hd : d.Referable) {steps : List FormulaStep}
    (hsteps : ∀ step ∈ steps, step.IsOf d) (h : s.Covered d) :
    (steps.foldl (FormulaPlan.evalStep d today) s).Covered d := by
  induction steps generalizing s with
  | nil => exact h
  | cons step steps ih =>
    obtain ⟨hstep, hrest⟩ := List.forall_mem_cons.1 hsteps
    exact ih hrest (h.evalStep hd hstep)

theorem Planned.isOf (h : Planned (formulas d.properties) removed order failed plan)
    (hstep : step ∈ plan.steps) : step.IsOf d := by
  obtain ⟨before, after, hsplit⟩ := List.append_of_mem hstep
  obtain ⟨hstep, -⟩ := h.steps_behind hsplit
  intro e he
  rw [hstep, stepFor] at he
  simp only at he
  cases hparsed : (parsed (formulas d.properties)).get? step.id with
  | none =>
    rw [hparsed] at he
    cases he
  | some read =>
    rw [hparsed] at he
    obtain ⟨⟨p, expression⟩, hcolumn, -, hread⟩ := (get?_parsed h.ids).1 hparsed
    obtain ⟨hp, hformula⟩ := mem_formulas.1 hcolumn
    exact ⟨p, hp, expression, hformula, by rw [hread]; exact congrArg Except.ok he⟩

theorem covered_rowStart (h : Planned (formulas d.properties) removed order failed plan) :
    (plan.rowStart d columns row).Covered d := by
  refine ⟨fun name hname => ?_, fun id error hget => ?_⟩
  · show ((d.rowContext row columns).get? name).isSome = true
    rw [Document.get?_rowContext, Option.isSome_map]
    exact hname
  · rcases h.reason_of_get? hget with ⟨e, rfl⟩ | ⟨path, rfl⟩
    · exact ⟨rfl, fun name hname => by cases hname⟩
    · exact ⟨rfl, fun name hname => by cases hname⟩

end Row

end FormulaPlan

/-! ### All rows -/

namespace Document

variable {d : Document}

/-- An error of a document is one of a row. -/
theorem exists_row_of_error? {columns : ColumnValues} {today : Date} {row id : String} {error : Error}
    (h : (d.formulaValues columns today).error? row id = some error) :
    ∃ r ∈ d.rows, ((FormulaPlan.ofProperties d.properties).evalRow d columns today r).errors.get? id
      = some error := by
  obtain ⟨errors, hrow, herror⟩ := Option.bind_eq_some_iff.1 h
  obtain ⟨r, hr, -, rfl, -⟩ := FormulaPlan.exists_row_of_errors_resolve hrow
  exact ⟨r, hr, herror⟩

/-- In a document that passes the strict check, the names that formulas have as columns are those of
properties or of functions. A formula that fails because a column is unknown, or passes on such a
failure, comes to a name that the check has taken for a function. -/
theorem takenForFunction_of_message (hok : (d.validate true).isOk = true) :
    (∀ p ∈ d.properties, ∀ expression, p.formula? = some expression →
      ∃ read, FormulaPlan.readFormula expression = .ok read ∧ ∀ e, read = some e →
        ∀ name ∈ e.columns, Function.isName name = true ∨ (d.propertyNamed? name).isSome = true) ∧
    ∀ (columns : ColumnValues) (today : Date) row id error name,
      (d.formulaValues columns today).error? row id = some error →
      error.message = "Unknown column: " ++ name → d.TakenForFunction name := by
  have hd := referable_of_strict hok
  refine ⟨hd.read, ?_⟩
  intro columns today row id error name herror hmessage
  obtain ⟨removed, order, failed, h⟩ := FormulaPlan.exists_planned hd.ids
  obtain ⟨r, -, hget⟩ := exists_row_of_error? herror
  have hcovered : ((FormulaPlan.ofProperties d.properties).evalRow d columns today r).Covered d :=
    (FormulaPlan.covered_rowStart h).foldl hd fun _ hstep => h.isOf hstep
  have hexplains := hcovered.errors id error hget
  exact hexplains.column name (eq_unknownColumn_of_message hexplains.formula hmessage)

end Document

/-! ### A column named like a function -/

section Round

/-- A document with a formula for a column that is not there and has the name of a function. -/
def roundDocument : Document where
  properties := [.fresh "f" "F" (.formula "round")]
  rows := [⟨"r", .empty, default, default⟩]
  views := [.fresh "v" "All" .table]

theorem readFormula_round : FormulaPlan.readFormula "round" = .ok (some (.column "round")) :=
  readFormula_of_name rfl rfl

theorem parse_of_readFormula {expression : String} {e : Expr}
    (h : FormulaPlan.readFormula expression = .ok (some e)) : Formula.parse expression = .ok e := by
  unfold FormulaPlan.readFormula at h
  split at h
  · cases h
  split at h
  · next e' hparse =>
    cases h
    exact hparse
  · cases h

theorem isOk_roundDocument : (roundDocument.validate true).isOk = true := by
  have hreferences : references "round" = .ok [] := by
    rw [references, parse_of_readFormula readFormula_round]
    rfl
  have hformula : roundDocument.formulaProblems "F" "round" = [] := by
    rw [Document.formulaProblems, hreferences]
    rfl
  have hproblems : roundDocument.problems = roundDocument.formulaProblems "F" "round" := by
    simp [Document.problems, Document.propertyProblems, Document.kindProblems, idProblems, repeated,
      Document.viewProblems, Document.roleProblems, Document.rowProblems, roundDocument,
      Property.fresh, View.fresh, ViewSettings.none, IdMap.empty]
  rw [Document.validate, hproblems, hformula]
  rfl

theorem ofProperties_roundDocument :
    FormulaPlan.ofProperties roundDocument.properties
      = ⟨[⟨"f", some (.column "round"), []⟩], .empty⟩ := by
  have hformulas : FormulaPlan.formulas roundDocument.properties
      = [(.fresh "f" "F" (.formula "round"), "round")] := rfl
  have huses : ∀ columns, FormulaPlan.usesOf columns "round" = [] := by
    intro columns
    rw [FormulaPlan.usesOf, readFormula_round]
    rfl
  have hgraph : FormulaPlan.graph (FormulaPlan.formulas roundDocument.properties) = [("f", [])] := by
    simp [hformulas, FormulaPlan.graph, huses, Property.fresh]
  have horder : DependencyGraph.order [("f", [])] = .ok ["f"] := by
    simp [DependencyGraph.order, DependencyGraph.visitAll, DependencyGraph.visit,
      DependencyGraph.nodes, DependencyGraph.dependencies]
  rw [FormulaPlan.ofProperties_of_order hgraph horder]
  simp [hformulas, FormulaPlan.unreadable, FormulaPlan.parsed, readFormula_round,
    FormulaPlan.stepsOf, IdMap.ofList, DependencyGraph.dependencies, Property.fresh,
    IdMap.contains, IdMap.get?_insert]

/-- The document passes the strict check, and its formula fails because the column is unknown. -/
theorem takenForFunction_roundDocument :
    (roundDocument.validate true).isOk = true ∧
    ((roundDocument.formulaValues .empty default).error? "r" "f").map (·.message)
      = some "Unknown column: round" ∧
    roundDocument.TakenForFunction "round" := by
  have herror : (roundDocument.formulaValues .empty default).error? "r" "f"
      = some (.evaluation (.unknownColumn "round")) := by
    rw [Document.formulaValues, ofProperties_roundDocument]
    rfl
  refine ⟨isOk_roundDocument, by rw [herror]; rfl, ?_⟩
  exact (Document.takenForFunction_of_message isOk_roundDocument).2 .empty default "r" "f" _ "round"
    herror rfl

end Round

end Databook
