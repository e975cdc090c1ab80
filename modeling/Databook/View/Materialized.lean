import Databook.Columns.Computed
import Databook.Query.Filter
import Databook.Query.Order
import Databook.Query.Group
import Databook.Settings

/-!
# Materialized views

A `MaterializedView` is everything that is needed to show a view: the rows that pass its filters, in
its order, the groups that they are in, the footers of its columns, the looks of its cells, and the
computed columns of the document.

`ComputedColumns.materialize` makes it from the computed columns; `Document.materialize` computes
these first. The other documents are taken from a cache, into which they are loaded from a store.
-/

namespace Databook

open Calendar

/-- A view with the rows and values to show. -/
structure MaterializedView where
  view : View
  rowIds : List String
  groups : Option (List RowGroup)
  columns : ComputedColumns
  /-- The texts of the footers by property. -/
  summaries : IdMap String
  /-- The looks of cells by row and property, for those that have one. -/
  styles : IdMap (IdMap CellStyle)
deriving Inhabited

namespace ComputedColumns

/-- The rows of a document that pass the filters of a view. -/
def kept (c : ComputedColumns) (d : Document) (v : View) : List Row :=
  d.rows.filter fun row => passesAll v.filters d.properties (c.cellOf d row)

/-- The rows of a view in their order. -/
def rowsOf (c : ComputedColumns) (d : Document) (v : View) : List Row :=
  sortRows (c.cellOf d) v.sorts (c.kept d v)

/-- The footers of a view over its rows. -/
def footers (c : ComputedColumns) (d : Document) (v : View) (rows : List Row) : IdMap String :=
  .ofList <| v.summaries.entries.filterMap fun (property, a) =>
    (d.property? property).map fun p => (property, p.summaryText a (rows.map (c.cell p)))

/-- The groups of the rows of a view, if it is grouped by a property that there is. -/
def groups (c : ComputedColumns) (d : Document) (v : View) (noValueLabel : String)
    (rows : List Row) : Option (List RowGroup) := do
  let p ← d.property? (← v.settings.groupBy)
  return groupRows p noValueLabel (c.cell p) rows

/-- The looks of the cells of some rows. The looks of rows with one id are put together. -/
def styles (c : ComputedColumns) (d : Document) (rows : List Row) : IdMap (IdMap CellStyle) :=
  d.properties.foldl (fun styles p =>
      rows.foldl (fun styles row =>
          match p.styleOf? (c.cell p row) with
          | some style =>
            styles.insert row.id (((styles.get? row.id).getD .empty).insert p.id style)
          | none => styles)
        styles)
    .empty

/-- A view with some rows of a document whose columns have been computed. -/
def arrange (c : ComputedColumns) (d : Document) (v : View) (noValueLabel : String)
    (rows : List Row) : MaterializedView where
  view := v
  rowIds := rows.map (·.id)
  groups := c.groups d v noValueLabel rows
  columns := c
  summaries := c.footers d v rows
  styles := c.styles d rows

/-- A view of a document whose columns have been computed. -/
def materialize (c : ComputedColumns) (d : Document) (v : View) (noValueLabel : String) :
    MaterializedView :=
  c.arrange d v noValueLabel (c.rowsOf d v)

end ComputedColumns

namespace Document

/-- Compute the columns of a document, with other documents from a store unless they are in the
cache. -/
def computeWith [PageStore σ] (d : Document) (store : σ) (cache : DocumentCache) (today : Date) :
    ComputedColumns × DocumentCache :=
  let (links, cache) := d.resolveLinks store cache
  let (rollups, cache) := d.resolveRollups links store cache today
  (⟨links, rollups, d.formulaValues (links.columns.merge rollups) today⟩, cache)

/-- Materialize a view; `current` is the current date. -/
def materialize [PageStore σ] (d : Document) (view : String) (store : σ) (cache : DocumentCache)
    (settings : Settings) (current : Date) : Except Error (MaterializedView × DocumentCache) :=
  match d.view? view with
  | none => .error (.viewNotFound view)
  | some v =>
    let (columns, cache) := d.computeWith store cache (settings.date current)
    .ok (columns.materialize d v settings.noValueLabel, cache)

/-- Materialize all views. -/
def materializeAll [PageStore σ] (d : Document) (store : σ) (cache : DocumentCache)
    (settings : Settings) (current : Date) : List MaterializedView × DocumentCache :=
  let (columns, cache) := d.computeWith store cache (settings.date current)
  (d.views.map (columns.materialize d · settings.noValueLabel), cache)

/-- Materialize a view after documents have changed: nothing that is in the cache is used. On an
unknown view, too, the cache is emptied. -/
def rematerialize [PageStore σ] (d : Document) (view : String) (store : σ)
    (settings : Settings) (current : Date) : Except Error MaterializedView × DocumentCache :=
  match d.materialize view store .empty settings current with
  | .ok (result, cache) => (.ok result, cache)
  | .error e => (.error e, .empty)

end Document

end Databook
