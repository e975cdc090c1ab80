import Databook.Document.Basic
import Databook.Display.Option
import Databook.Formula.Eval

/-!
# What formulas see of a row

`Document.rowContext` gives the values of a row by the names of its properties. Options are seen by
their labels, checkboxes as truth values, and relations and rollups with their computed values.
Formulas are null at first; their values are added as they become known. If a name is used by
several properties, the first of them is seen.
-/

namespace Databook

/-- A computed value of a property for a row. -/
def computed? (columns : ColumnValues) (property row : String) : Option Cell :=
  (columns.get? property).bind (·.get? row)

/-- The value of a property as formulas see it, before formulas have values. -/
def Property.seenValue (p : Property) (row : Row) (columns : ColumnValues) : Cell :=
  let stored := row.cell p.id
  match p.kind with
  | .select _ =>
    match stored with
    | .text id => .text (p.labelOf id)
    | c => c
  | .multiSelect _ => .list (stored.ids.map p.labelOf)
  | .checkbox => .bool stored.isTruthy
  | .relation _ | .rollup _ => (computed? columns p.id row.id).getD stored
  | .formula _ => .null
  | .text | .number _ | .date | .url | .pageLink => stored

/-- The values of the properties by name. A name that is there already is left as it is. -/
def contextOf (row : Row) (columns : ColumnValues) (context : Formula.Context) :
    List Property → Formula.Context
  | [] => context
  | p :: ps =>
    contextOf row columns
      (if context.contains p.name then context
        else context.insert p.name (p.seenValue row columns)) ps

/-- The values of a row by the names of the properties. -/
def Document.rowContext (d : Document) (row : Row) (columns : ColumnValues) : Formula.Context :=
  contextOf row columns .empty d.properties

end Databook
