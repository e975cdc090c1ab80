import Databook.Document.Basic
import Databook.Text.Casing

/-!
# Filters and conditional formats

`FilterOperator.passes` puts a cell to a test. A row passes a list of filters if the cells that they
ask for pass their tests; a filter on a property that is no longer there asks for nothing. The look
of a cell is that of the first conditional format whose test it passes.
-/

namespace Databook

open Text

/-- A truth value as users write it: any text but `true`, in any case, is false. -/
def Cell.toBool : Cell → Bool
  | .text s => s.map Char.toLower == "true"
  | c => c.isTruthy

/-- Does the text of a cell hold the text of another, whatever their case? -/
def Cell.containsText (c needle : Cell) : Bool :=
  Text.contains (toLower c.display) (toLower needle.display)

/-- Is the cell the one asked for? Checkboxes compare truth values, a multiple select looks for an
option, and all other properties compare texts. -/
def PropertyKind.matchesCell (kind : PropertyKind) (c value : Cell) : Bool :=
  match kind with
  | .checkbox => c.isTruthy == value.toBool
  | .multiSelect _ => c.ids.contains value.display
  | _ => c.display == value.display

/-- Does a cell of a property pass a test? -/
def FilterOperator.passes (op : FilterOperator) (kind : PropertyKind) (c value : Cell) : Bool :=
  match op with
  | isEmpty => c.isEmpty
  | isNotEmpty => !c.isEmpty
  | equals => kind.matchesCell c value
  | notEquals => !kind.matchesCell c value
  | contains => c.containsText value
  | doesNotContain => !c.containsText value
  | gt => value.toNumber < c.toNumber
  | gte => value.toNumber ≤ c.toNumber
  | lt => c.toNumber < value.toNumber
  | lte => c.toNumber ≤ value.toNumber
  | before => !c.isEmpty && c.display < value.display
  | after => !c.isEmpty && value.display < c.display
  | unknown _ => true

/-- Does a row pass a filter? `valueOf` gives its cells by property id. -/
def Filter.passes (f : Filter) (properties : List Property) (valueOf : String → Cell) : Bool :=
  match properties.find? (·.id == f.property) with
  | some p => f.operator.passes p.kind (valueOf f.property) f.value
  | none => true

/-- Does a row pass all filters? -/
def passesAll (filters : List Filter) (properties : List Property) (valueOf : String → Cell) : Bool :=
  filters.all (·.passes properties valueOf)

/-- The look of a cell of a property. -/
def Property.styleOf? (p : Property) (c : Cell) : Option CellStyle :=
  (p.formats.find? fun f => f.operator.passes p.kind c f.value).map (·.style)

end Databook
