import Databook.Graph.TopologicalOrder
import Databook.Columns.RowContext

/-!
# Formula columns

The formulas of a document may use each other's values. A `FormulaPlan` puts them in an order in
which each comes after those that it uses. Formulas that cannot be read, that use each other in a
circle, or that use such a formula have no place in the order; they fail, each with its error, on
every row.

`FormulaPlan.resolve` then evaluates the formulas for every row. An error stays with its cell and
the cells of the formulas that use it.
-/

namespace Databook

open Formula (Expr Context)
open Calendar (Date)

/-- The columns that a formula refers to, in the order of their names. A name of a built-in function
is not taken for a column. -/
def Formula.Expr.references (e : Expr) : List String :=
  (IdMap.ofList ((e.columns.filter (!Formula.Function.isName ·)).map (·, ()))).keys

/-- The columns that the text of a formula refers to. -/
def references (expression : String) : Except Error (List String) :=
  match Formula.parse expression with
  | .ok e => .ok e.references
  | .error e => .error (.formula e)

/-- A formula column that can be evaluated. -/
structure FormulaStep where
  id : String
  /-- None for a formula that is left blank. -/
  expr : Option Expr
  /-- The formula columns whose values are used. -/
  uses : List String
deriving Inhabited

/-- The value of a formula column in a context. -/
def FormulaStep.eval (today : Date) (context : Context) (step : FormulaStep) : Except Error Cell :=
  match step.expr with
  | none => .ok .null
  | some e => (e.eval today context).mapError .evaluation

/-- The formula columns of a document in the order in which to evaluate them. -/
structure FormulaPlan where
  steps : List FormulaStep
  failed : IdMap Error
deriving Inhabited

namespace FormulaPlan

/-- The formula columns with their texts. -/
def formulas (properties : List Property) : List (Property × String) :=
  properties.filterMap fun p => p.formula?.map (p, ·)

/-- The formula of a column: none if it is blank. -/
def readFormula (expression : String) : Except Error (Option Expr) :=
  if Text.isAllBlank expression then .ok none
  else match Formula.parse expression with
    | .ok e => .ok (some e)
    | .error e => .error (.formula e)

/-- The first formula column of a name. -/
def columnNamed? (columns : List (Property × String)) (name : String) : Option String :=
  (columns.find? fun column => column.1.name == name).map fun column => column.1.id

/-- The name of a formula column, as errors give it. -/
def nameOf (columns : List (Property × String)) (id : String) : String :=
  ((columns.reverse.find? fun column => column.1.id == id).map fun column => column.1.name).getD id

/-- The formula columns that a formula uses. -/
def usesOf (columns : List (Property × String)) (expression : String) : List String :=
  match readFormula expression with
  | .ok (some e) => e.references.filterMap (columnNamed? columns)
  | _ => []

/-- The formula columns with those that they use. -/
def graph (columns : List (Property × String)) : DependencyGraph :=
  columns.map fun column => (column.1.id, usesOf columns column.2)

/-- The formulas that can be read, by column. -/
def parsed (columns : List (Property × String)) : IdMap (Option Expr) :=
  .ofList <| columns.filterMap fun column =>
    match readFormula column.2 with
    | .ok e => some (column.1.id, e)
    | .error _ => none

/-- The errors of the formulas that cannot be read. -/
def unreadable (columns : List (Property × String)) : IdMap Error :=
  .ofList <| columns.filterMap fun column =>
    match readFormula column.2 with
    | .ok _ => none
    | .error e => some (column.1.id, e)

/-- The graph without the nodes of a circle. -/
def without (g : DependencyGraph) (circle : List String) : DependencyGraph :=
  g.filter fun node => !circle.contains node.1

/-- Take circles out of the graph until the rest can be put in order: the order, and the failures
with those of the circles added. Every circle has a node of the graph, so each turn leaves fewer. -/
def peel (columns : List (Property × String)) (g : DependencyGraph) (failed : IdMap Error) :
    List String × IdMap Error :=
  match g.order with
  | .ok order => (order, failed)
  | .error circle =>
    let error := Error.circular (circle.map (nameOf columns))
    let failed := circle.foldl (fun failed id => failed.insert id error) failed
    if _shorter : (without g circle).length < g.length then peel columns (without g circle) failed
    else ([], failed)
termination_by g.length

/-- Make steps of columns in their order; a column that uses a failed one fails with its error. -/
def stepsOf (g : DependencyGraph) (exprs : IdMap (Option Expr)) :
    List String → List FormulaStep → IdMap Error → FormulaPlan
  | [], steps, failed => ⟨steps.reverse, failed⟩
  | id :: ids, steps, failed =>
    if failed.contains id then stepsOf g exprs ids steps failed
    else
      let uses := g.dependencies id
      match uses.findSome? failed.get? with
      | some error => stepsOf g exprs ids steps (failed.insert id error)
      | none => stepsOf g exprs ids (⟨id, (exprs.get? id).getD none, uses⟩ :: steps) failed

/-- The plan for the formulas among some properties. -/
def ofProperties (properties : List Property) : FormulaPlan :=
  let columns := formulas properties
  let g := graph columns
  let (order, failed) := peel columns g (unreadable columns)
  stepsOf g (parsed columns) order [] failed

/-- The columns that can be evaluated, in order. -/
def order (plan : FormulaPlan) : List String := plan.steps.map (·.id)

end FormulaPlan

/-- The values and errors of formula columns: row id, then property id. -/
structure FormulaValues where
  order : List String
  values : IdMap (IdMap Cell)
  errors : IdMap (IdMap Error)
deriving Inhabited

namespace FormulaValues

def value? (v : FormulaValues) (row property : String) : Option Cell :=
  (v.values.get? row).bind (·.get? property)

end FormulaValues

namespace FormulaPlan

/-- The state of a row while its formulas are evaluated. -/
structure RowState where
  context : Context
  values : IdMap Cell
  errors : IdMap Error

/-- Evaluate one formula for a row. -/
def evalStep (d : Document) (today : Date) (s : RowState) (step : FormulaStep) : RowState :=
  match step.uses.findSome? s.errors.get? with
  | some error => { s with errors := s.errors.insert step.id error }
  | none =>
    match step.eval today s.context with
    | .error e => { s with errors := s.errors.insert step.id e }
    | .ok value =>
      { s with
        values := s.values.insert step.id value
        context := match d.property? step.id with
          | some p => s.context.insert p.name value
          | none => s.context }

/-- Evaluate the formulas for a row. -/
def evalRow (plan : FormulaPlan) (d : Document) (columns : ColumnValues) (today : Date) (row : Row) :
    RowState :=
  plan.steps.foldl (evalStep d today) ⟨d.rowContext row columns, .empty, plan.failed⟩

/-- Evaluate the formulas for all rows. `columns` holds the values of relations and rollups. -/
def resolve (plan : FormulaPlan) (d : Document) (columns : ColumnValues) (today : Date) :
    FormulaValues :=
  d.rows.foldl (fun result row =>
      let s := plan.evalRow d columns today row
      { result with
        values := result.values.insert row.id s.values
        errors := if s.errors.isEmpty then result.errors else result.errors.insert row.id s.errors })
    ⟨plan.order, .empty, .empty⟩

end FormulaPlan

/-- The values of all formula columns of a document. -/
def Document.formulaValues (d : Document) (columns : ColumnValues) (today : Date) : FormulaValues :=
  (FormulaPlan.ofProperties d.properties).resolve d columns today

end Databook
