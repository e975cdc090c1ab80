import Databook.Columns.Links
import Databook.Columns.FormulaPlan
import Databook.Summary
import Databook.Display.Option

/-!
# Rollup columns

A rollup sums up a property of the rows that a row is linked to. Of the other document only the
formulas are computed, over what is stored there: its own relations and rollups are not followed.

A rollup is null for a row without linked rows, and for every row if its relation, the other document
or the property there is missing. Links to rows that are not there count for nothing.

`Document.rollupValues` looks the other documents up in `related`, and `Document.resolveRollups`
takes them from a cache.
-/

namespace Databook

open Calendar

/-- The value of a property for a row of its document, of which only the formulas are computed. -/
def Property.rolledValue (p : Property) (formulas : FormulaValues) (row : Row) : Cell :=
  match p.kind with
  | .formula _ => (formulas.value? row.id p.id).getD .null
  | _ => row.cell p.id

/-- Sum up the values of linked rows. Where they are shown one after the other, options are shown by
their labels. -/
def Property.rollUp (p : Property) (a : Aggregation) (cells : List Cell) : Cell :=
  if cells.isEmpty then .null
  else
    let cells := match a with
      | .showValues => cells.map fun c => .text (p.shownText c)
      | _ => cells
    a.apply (p.type = .date) cells

/-- The value of a rollup for linked rows of another document. -/
def Document.rollUp (d : Document) (formulas : FormulaValues) (p : Property) (a : Aggregation)
    (linked : List String) : Cell :=
  p.rollUp a ((linked.filterMap d.row?).map (p.rolledValue formulas))

/-- The document and property that a rollup sums up. -/
def Document.rollupTarget? (d : Document) (related : String → Option Document) (r : Rollup) :
    Option (Document × Property) := do
  let relation ← (← d.property? r.relation).relation?
  let target ← related relation.page
  let p ← target.property? r.target
  return (target, p)

/-- The values of a rollup by row. -/
def Document.rollupColumn (d : Document) (links : Links) (related : String → Option Document)
    (today : Date) (r : Rollup) : IdMap Cell :=
  match d.rollupTarget? related r with
  | none => .ofList (d.rows.map fun row => (row.id, .null))
  | some (target, p) =>
    let formulas := target.formulaValues .empty today
    .ofList <| d.rows.map fun row =>
      (row.id, target.rollUp formulas p r.aggregation (links.linked r.relation row.id))

/-- The rollups of a document with their properties. -/
def Document.rollups (d : Document) : List (Property × Rollup) :=
  d.properties.filterMap fun p => p.rollup?.map (p, ·)

/-- The values of all rollups of a document. -/
def Document.rollupValues (d : Document) (links : Links) (related : String → Option Document)
    (today : Date) : ColumnValues :=
  .ofList (d.rollups.map fun (p, r) => (p.id, d.rollupColumn links related today r))

/-- The pages whose rows are summed up: those of the relations that rollups go through. -/
def Document.rollupPages (d : Document) : List String :=
  d.rollups.filterMap fun (_, r) =>
    ((d.property? r.relation).bind (·.relation?)).map (·.page)

/-- The values of all rollups of a document, with the other documents from a cache. Those that are
not in it are loaded from the store. -/
def Document.resolveRollups [PageStore σ] (d : Document) (links : Links) (store : σ)
    (cache : DocumentCache) (today : Date) : ColumnValues × DocumentCache :=
  let cache := cache.loadAll store d.rollupPages
  (d.rollupValues links cache.find? today, cache)

end Databook
