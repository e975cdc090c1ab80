import Databook.Document.Basic
import Databook.Display.Option

/-!
# Documents as markdown tables

`Document.markdown` writes a document as a table with one line per row, below a few lines about it.
A bar inside a cell is escaped.
-/

namespace Databook

open Text

/-- The cells of a line of a table. -/
def tableLine (cells : List String) : String := "| " ++ join " | " cells ++ " |"

/-- The text of a cell with its bars escaped. -/
def escapeBars (s : String) : String := replaceAll s "|" "\\|"

/-- The lines above the table. -/
def Document.frontMatter (d : Document) (title : String) : List String :=
  let columns := d.properties.map fun p => p.name ++ " (" ++ p.type.name ++ ")"
  ["---", "title: " ++ title, "properties: " ++ join ", " columns,
    "rows: " ++ toString d.rows.length, "---", ""]

/-- The table of a document. -/
def Document.tableLines (d : Document) : List String :=
  if d.properties.isEmpty then ["(no properties defined)"]
  else
    [tableLine (d.properties.map (·.name)),
      "|" ++ join "|" (d.properties.map fun _ => "---") ++ "|"] ++
    d.rows.map fun row =>
      tableLine (d.properties.map fun p => escapeBars (p.shownText (row.cell p.id)))

/-- A document as text. -/
def Document.markdown (d : Document) (title : String) : String :=
  join "\n" (d.frontMatter title ++ d.tableLines)

end Databook
