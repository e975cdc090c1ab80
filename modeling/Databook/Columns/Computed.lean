import Databook.Columns.Rollup

/-!
# Computed columns

The columns of a document are computed in an order in which each kind can use the ones before:
relations, rollups, formulas. `ComputedColumns.cell` is then the value of a cell as filters, sorts,
groups and summaries see it.
-/

namespace Databook

open Calendar

/-- The values of the computed columns of a document. -/
structure ComputedColumns where
  links : Links
  rollups : ColumnValues
  formulas : FormulaValues
deriving Inhabited

/-- Compute the columns of a document. -/
def Document.computed (d : Document) (related : String → Option Document) (today : Date) :
    ComputedColumns :=
  let links := d.links related
  let rollups := d.rollupValues links related today
  ⟨links, rollups, d.formulaValues (links.columns.merge rollups) today⟩

namespace ComputedColumns

/-- The value of a property for a row. A formula without a value is null. -/
def cell (c : ComputedColumns) (p : Property) (row : Row) : Cell :=
  match p.kind with
  | .formula _ => (c.formulas.value? row.id p.id).getD .null
  | .rollup _ => (computed? c.rollups p.id row.id).getD .null
  | .relation _ =>
    match c.links.values.get? p.id with
    | some rows => .list ((rows.get? row.id).getD [])
    | none => row.cell p.id
  | _ => row.cell p.id

/-- The value of a property for a row, by the id of the property. -/
def cellOf (c : ComputedColumns) (d : Document) (row : Row) (property : String) : Cell :=
  match d.property? property with
  | some p => c.cell p row
  | none => row.cell property

end ComputedColumns

end Databook
