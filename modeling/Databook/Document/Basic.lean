import Databook.Document.Property
import Databook.Calendar.Instant
import Databook.Error

/-!
# Documents

A document is the content of a database page: its properties, its rows and its views. Rows hold the
stored cells by property id; a cell that is not there reads as null.

The edits are `setCell`, `addRow` and `deleteRow`. Ids and times of day are not made up here: an
edit that needs one takes it as an argument.
-/

namespace Databook

open Calendar

/-- A row with its stored cells. -/
structure Row where
  id : String
  cells : IdMap Cell
  createdAt : Instant
  updatedAt : Instant
deriving BEq, Inhabited

namespace Row

/-- The stored value of a cell. -/
def cell (r : Row) (property : String) : Cell := (r.cells.get? property).getD .null

/-- Write a cell at a point in time. Null is written by removing the cell. -/
def setCell (r : Row) (property : String) (value : Cell) (now : Instant) : Row :=
  { r with
    cells := if value.isNull then r.cells.erase property else r.cells.insert property value
    updatedAt := now }

end Row

/-- The ways to show a view. -/
inductive ViewType where
  | table | board | gallery | list | calendar
deriving DecidableEq, Inhabited

namespace ViewType

/-- The ways with their names. -/
def names : List (String × ViewType) :=
  [("table", table), ("board", board), ("gallery", gallery), ("list", list),
   ("calendar", calendar)]

def name : ViewType → String
  | table => "table"
  | board => "board"
  | gallery => "gallery"
  | list => "list"
  | calendar => "calendar"

end ViewType

/-- The directions to sort in. -/
inductive SortDirection where
  | asc | desc
deriving DecidableEq, Inhabited

namespace SortDirection

def table : List (String × SortDirection) := [("asc", asc), ("desc", desc)]

def name : SortDirection → String
  | asc => "asc"
  | desc => "desc"

end SortDirection

/-- Sorting by a property. -/
structure SortKey where
  property : String
  direction : SortDirection
deriving DecidableEq, Inhabited

/-- A test of the cells of a property. -/
structure Filter where
  property : String
  operator : FilterOperator
  value : Cell
deriving BEq, Inhabited

/-- How a view is shown. Nothing of this changes which rows are in it. -/
structure ViewSettings where
  groupBy : Option String
  collapsedGroups : List String
  hiddenProperties : List String
  pinnedProperties : List String
  propertyWidths : IdMap Float
  cardSize : Option String
  /-- The date that places a row in a calendar. -/
  dateProperty : Option String
  extra : IdMap Json
deriving BEq

namespace ViewSettings

/-- Nothing set. -/
def none : ViewSettings := ⟨.none, [], [], [], .empty, .none, .none, .empty⟩

instance : Inhabited ViewSettings := ⟨none⟩

end ViewSettings

/-- A selection of the rows in an order, with summaries of columns. -/
structure View where
  id : String
  name : String
  type : ViewType
  sorts : List SortKey
  filters : List Filter
  settings : ViewSettings
  summaries : IdMap Aggregation
deriving BEq, Inhabited

/-- A view of all rows as they are. -/
def View.fresh (id name : String) (type : ViewType) : View :=
  ⟨id, name, type, [], [], .none, .empty⟩

/-- The content of a database page. -/
structure Document where
  properties : List Property
  rows : List Row
  views : List View
deriving BEq, Inhabited

namespace Document

/-- A new document: a column for titles and a table. -/
def fresh (propertyId viewId : String) : Document where
  properties := [.fresh propertyId "Name" .text]
  rows := []
  views := [.fresh viewId "Table" .table]

/-! ### Looking up -/

def property? (d : Document) (id : String) : Option Property := d.properties.find? (·.id == id)

def propertyNamed? (d : Document) (name : String) : Option Property :=
  d.properties.find? (·.name == name)

/-- The first text property, which holds the titles of the rows. -/
def titleProperty? (d : Document) : Option Property := d.properties.find? (·.type == .text)

def row? (d : Document) (id : String) : Option Row := d.rows.find? (·.id == id)

def view? (d : Document) (id : String) : Option View := d.views.find? (·.id == id)

/-! ### Edits -/

/-- Change the first item that passes a test. -/
def modifyFirst (p : α → Bool) (f : α → α) : List α → List α
  | [] => []
  | a :: as => if p a then f a :: as else a :: modifyFirst p f as

/-- Put a property in place of the one with its id. -/
def replaceProperty (d : Document) (p : Property) : Document :=
  { d with properties := modifyFirst (·.id == p.id) (fun _ => p) d.properties }

/-- Change a row. -/
def modifyRow (d : Document) (id : String) (f : Row → Row) : Document :=
  { d with rows := modifyFirst (·.id == id) f d.rows }

/-- Write a stored cell. There have to be such a row and such a property, and the values of the
property must not be computed. -/
def setCell (d : Document) (row property : String) (value : Cell) (now : Instant) :
    Except Error Document :=
  match d.property? property with
  | none => .error (.propertyNotFound property)
  | some p =>
    if p.isComputed then .error (.invalidProperty p.name (.computedValues p.type.name))
    else if (d.row? row).isNone then .error (.rowNotFound row)
    else .ok (d.modifyRow row (·.setCell property value now))

/-- Add a row without cells at the end. -/
def addRow (d : Document) (id : String) (now : Instant) : Document :=
  { d with rows := d.rows ++ [⟨id, .empty, now, now⟩] }

/-- Take a row out of the document. -/
def deleteRow (d : Document) (id : String) : Except Error (Row × Document) :=
  match d.row? id with
  | none => .error (.rowNotFound id)
  | some row => .ok (row, { d with rows := d.rows.eraseP (·.id == id) })

end Document

end Databook
