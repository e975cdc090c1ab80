import Databook.Validation.Problem
import Databook.Summary

/-!
# Checking documents

`Document.problems` lists what is wrong with a document: first ids that are used twice, then the
problems of properties, views and rows. `Document.validate` turns the list into a `Report` of errors
and warnings; a strict check takes every problem for an error, any other only the severe ones.
-/

namespace Databook

/-- The members of a list that stand in it before, in order. -/
def repeated [BEq α] (before : List α) : List α → List α
  | [] => []
  | a :: as => if before.contains a then a :: repeated before as else repeated (a :: before) as

/-- The problems of ids that have to be unique. -/
def idProblems (scope : IdScope) (ids : List String) : List Problem :=
  (repeated [] ids).map (.repeatedId scope)

/-! ### Properties -/

/-- The problems of a formula. -/
def Document.formulaProblems (d : Document) (name expression : String) : List Problem :=
  if Text.isAllBlank expression then []
  else match references expression with
    | .error cause => [.brokenFormula name cause]
    | .ok columns =>
      (columns.filter fun column => (d.propertyNamed? column).isNone).map (.unknownColumn name)

/-- The problems of a rollup. -/
def Document.rollupProblems (d : Document) (name : String) (r : Rollup) : List Problem :=
  match d.property? r.relation with
  | none => [.rollupOverUnknown name r.relation]
  | some p => if p.relation?.isSome then [] else [.rollupOverOther name p.name]

/-- The problems of the settings of a property. -/
def Document.kindProblems (d : Document) (p : Property) : List Problem :=
  match p.kind with
  | .select options | .multiSelect options => idProblems (.options p.name) (options.map (·.id))
  | .rollup r => d.rollupProblems p.name r
  | .formula expression => d.formulaProblems p.name expression
  | _ => []

/-- The problems of properties, in front of which there are properties of some names. -/
def Document.propertyProblems (d : Document) (names : List String) : List Property → List Problem
  | [] => []
  | p :: ps =>
    (if names.contains p.name then [.repeatedName p.name] else []) ++ d.kindProblems p ++
      d.propertyProblems (p.name :: names) ps

/-! ### Views -/

/-- The problems of a view that uses properties in a role. -/
def Document.roleProblems (d : Document) (v : View) (role : ViewRole) (properties : List String) :
    List Problem :=
  (properties.filter fun property => (d.property? property).isNone).map (.unknownInView v.name role)

/-- The problems of a summary of a view. -/
def Document.summaryProblems (d : Document) (v : View) (property : String) (a : Aggregation) :
    List Problem :=
  match d.property? property with
  | none => [.unknownInView v.name .summary property]
  | some p =>
    if (Aggregation.forType p.type).contains a then []
    else [.unavailableSummary v.name a p.type p.name]

/-- The problems of a view. -/
def Document.viewProblems (d : Document) (v : View) : List Problem :=
  d.roleProblems v .filter (v.filters.map (·.property)) ++
    d.roleProblems v .sort (v.sorts.map (·.property)) ++
    d.roleProblems v .group v.settings.groupBy.toList ++
    d.roleProblems v .date v.settings.dateProperty.toList ++
    v.summaries.entries.flatMap fun (property, a) => d.summaryProblems v property a

/-! ### Rows -/

/-- What a property takes for a value, if the cell is not of that kind. -/
def Property.expectation? (p : Property) (c : Cell) : Option Expectation :=
  match p.kind, c with
  | .number _, c => if c.number?.isNone && !c.isEmpty then some .number else none
  | .checkbox, .bool _ => none
  | .checkbox, _ => some .boolean
  | .select _, .text _ => none
  | .select _, _ => some .optionId
  | .multiSelect _, .list _ => none
  | .multiSelect _, _ => some .optionIds
  | .relation _, .list _ => none
  | .relation _, _ => some .rowIds
  | .text, .list _ | .date, .list _ | .url, .list _ | .pageLink, .list _ => some .string
  | _, _ => none

/-- The options that a cell names; the empty text names none. -/
def Property.namedOptions (p : Property) (c : Cell) : List String :=
  match p.kind, c with
  | .select _, .text id => if id.isEmpty then [] else [id]
  | .multiSelect _, .list ids => ids
  | _, _ => []

/-- The problems of a stored cell of a property. -/
def Property.cellProblems (p : Property) (row : String) (c : Cell) : List Problem :=
  if c.isNull then []
  else if p.isComputed then [.storedComputed row p.name p.type]
  else match p.expectation? c with
    | some expected => [.unexpectedValue row p.name expected c]
    | none =>
      ((p.namedOptions c).filter fun id => (p.optionLabel? id).isNone).map
        (.unknownOption row p.name)

/-- The problems of a row. -/
def Document.rowProblems (d : Document) (row : Row) : List Problem :=
  row.cells.entries.flatMap fun (property, c) =>
    match d.property? property with
    | none => [.unknownInRow row.id property]
    | some p => p.cellProblems row.id c

/-! ### Reports -/

/-- Everything that is wrong with a document. -/
def Document.problems (d : Document) : List Problem :=
  idProblems .properties (d.properties.map (·.id)) ++
    idProblems .rows (d.rows.map (·.id)) ++
    idProblems .views (d.views.map (·.id)) ++
    d.propertyProblems [] d.properties ++
    (if d.views.isEmpty then [.noViews] else d.views.flatMap d.viewProblems) ++
    d.rows.flatMap d.rowProblems

/-- The outcome of a check. -/
structure Report where
  errors : List Problem
  warnings : List Problem
deriving Inhabited

namespace Report

def isOk (r : Report) : Bool := r.errors.isEmpty

def hasWarnings (r : Report) : Bool := !r.warnings.isEmpty

def errorTexts (r : Report) : List String := r.errors.map (·.message)

def warningTexts (r : Report) : List String := r.warnings.map (·.message)

end Report

/-- Check a document. -/
def Document.validate (d : Document) (strict : Bool) : Report :=
  let (errors, warnings) := d.problems.partition fun problem => strict || problem.isSevere
  ⟨errors, warnings⟩

/-- Check a document that is to be stored: the warnings, or an error if there are errors. -/
def Document.checked (d : Document) (strict : Bool) : Except Error (List String) :=
  let report := d.validate strict
  if report.isOk then .ok report.warningTexts else .error (.invalidDocument report.errorTexts)

end Databook
