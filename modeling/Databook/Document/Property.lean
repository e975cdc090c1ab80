import Databook.Cell

/-!
# Properties

A property is a typed column of a document. Its `PropertyKind` carries the settings that its type
needs and no others: a text column cannot have a formula, and a back relation always names the
forward relation whose links it shows.

The values of formulas, rollups and back relations are computed and never stored
(`Property.isComputed`).
-/

namespace Databook

/-- The colours given in turn to new options. -/
def optionColors : List String :=
  ["#ef4444", "#f97316", "#eab308", "#22c55e", "#06b6d4", "#3b82f6", "#8b5cf6", "#ec4899",
   "#6b7280", "#a855f7"]

/-- The colour of the option at a place. -/
def optionColor (index : Nat) : String := optionColors.getD (index % optionColors.length) ""

/-- The types of properties. -/
inductive PropertyType where
  | text | number | select | multiSelect | checkbox | date | url | pageLink | relation | rollup
  | formula
deriving DecidableEq, Inhabited

namespace PropertyType

/-- The types with their names. -/
def table : List (String × PropertyType) :=
  [("text", text), ("number", number), ("select", select), ("multiSelect", multiSelect),
   ("checkbox", checkbox), ("date", date), ("url", url), ("pageLink", pageLink),
   ("relation", relation), ("rollup", rollup), ("formula", formula)]

def name : PropertyType → String
  | text => "text"
  | number => "number"
  | select => "select"
  | multiSelect => "multiSelect"
  | checkbox => "checkbox"
  | date => "date"
  | url => "url"
  | pageLink => "pageLink"
  | relation => "relation"
  | rollup => "rollup"
  | formula => "formula"

end PropertyType

/-- A choice of a select or multiple select property. -/
structure SelectOption where
  id : String
  label : String
  color : String
deriving DecidableEq, Inhabited

/-- The option that takes the place `index` in a list, coloured by it. -/
def SelectOption.fresh (id label : String) (index : Nat) : SelectOption :=
  ⟨id, label, optionColor index⟩

/-- What a number is shown as. -/
inductive NumberStyle where
  | plain | currency | percent
deriving DecidableEq, Inhabited

namespace NumberStyle

def table : List (String × NumberStyle) :=
  [("plain", plain), ("currency", currency), ("percent", percent)]

def name : NumberStyle → String
  | plain => "plain"
  | currency => "currency"
  | percent => "percent"

end NumberStyle

/-- How the numbers of a property are shown. -/
structure NumberFormat where
  style : NumberStyle
  decimals : Option Nat
  thousandsSeparator : Bool
  currencySymbol : Option String
deriving DecidableEq, Inhabited

/-- The sides of a relation. -/
inductive RelationSide where
  /-- Links are stored here. The property that shows them on the other side may be noted. -/
  | forward (shownBy : Option String)
  /-- Links are those that a forward relation of the other document stores. -/
  | back (forwardProperty : String)
deriving DecidableEq, Inhabited

/-- A link to the rows of another document. -/
structure Relation where
  page : String
  side : RelationSide
deriving DecidableEq, Inhabited

def Relation.isBack (r : Relation) : Bool :=
  match r.side with
  | .back _ => true
  | .forward _ => false

/-- The ways to sum up a column. -/
inductive Aggregation where
  | count | countValues | countUnique | sum | average | min | max | range | percentEmpty
  | percentNotEmpty
  /-- The values one after the other; for rollups only. -/
  | showValues
deriving DecidableEq, Inhabited

namespace Aggregation

def table : List (String × Aggregation) :=
  [("count", count), ("countValues", countValues), ("countUnique", countUnique), ("sum", sum),
   ("average", average), ("min", min), ("max", max), ("range", range),
   ("percent_empty", percentEmpty), ("percent_not_empty", percentNotEmpty),
   ("show_original", showValues)]

def name : Aggregation → String
  | count => "count"
  | countValues => "countValues"
  | countUnique => "countUnique"
  | sum => "sum"
  | average => "average"
  | min => "min"
  | max => "max"
  | range => "range"
  | percentEmpty => "percent_empty"
  | percentNotEmpty => "percent_not_empty"
  | showValues => "show_original"

/-- The name as a heading. -/
def title : Aggregation → String
  | count => "Count"
  | countValues => "CountValues"
  | countUnique => "CountUnique"
  | sum => "Sum"
  | average => "Average"
  | min => "Min"
  | max => "Max"
  | range => "Range"
  | percentEmpty => "PercentEmpty"
  | percentNotEmpty => "PercentNotEmpty"
  | showValues => "ShowOriginal"

end Aggregation

/-- A column of linked rows, summed up: the relation that links them, the property of the other
document that is summed up, and the way to do it. -/
structure Rollup where
  relation : String
  target : String
  aggregation : Aggregation
deriving DecidableEq, Inhabited

/-- The tests that filters and conditional formats put cells to. -/
inductive FilterOperator where
  | isEmpty | isNotEmpty | equals | notEquals | contains | doesNotContain | gt | gte | lt | lte
  | before | after
  /-- A name that stands for no test: kept as it is, and passed by every cell. -/
  | unknown (name : String)
deriving DecidableEq, Inhabited

namespace FilterOperator

def table : List (String × FilterOperator) :=
  [("isEmpty", isEmpty), ("isNotEmpty", isNotEmpty), ("equals", equals), ("notEquals", notEquals),
   ("contains", contains), ("doesNotContain", doesNotContain), ("gt", gt), ("gte", gte),
   ("lt", lt), ("lte", lte), ("before", before), ("after", after)]

def ofName (name : String) : FilterOperator := (table.lookup name).getD (unknown name)

def name : FilterOperator → String
  | isEmpty => "isEmpty"
  | isNotEmpty => "isNotEmpty"
  | equals => "equals"
  | notEquals => "notEquals"
  | contains => "contains"
  | doesNotContain => "doesNotContain"
  | gt => "gt"
  | gte => "gte"
  | lt => "lt"
  | lte => "lte"
  | before => "before"
  | after => "after"
  | unknown name => name

end FilterOperator

/-- The look of a cell that passes a test, with settings that only its readers understand. -/
structure CellStyle where
  backgroundColor : Option String
  textColor : Option String
  bold : Bool
  extra : IdMap Json
deriving BEq, Inhabited

/-- A look for the cells that pass a test. -/
structure ConditionalFormat where
  operator : FilterOperator
  value : Cell
  style : CellStyle
deriving BEq, Inhabited

/-- The type of a property with the settings that it needs. -/
inductive PropertyKind where
  | text
  | number (format : Option NumberFormat)
  | select (options : List SelectOption)
  | multiSelect (options : List SelectOption)
  | checkbox
  | date
  | url
  | pageLink
  | relation (relation : Relation)
  | rollup (rollup : Rollup)
  | formula (expression : String)
deriving DecidableEq, Inhabited

def PropertyKind.type : PropertyKind → PropertyType
  | text => .text
  | number _ => .number
  | select _ => .select
  | multiSelect _ => .multiSelect
  | checkbox => .checkbox
  | date => .date
  | url => .url
  | pageLink => .pageLink
  | relation _ => .relation
  | rollup _ => .rollup
  | formula _ => .formula

/-- A column of a document. -/
structure Property where
  id : String
  name : String
  kind : PropertyKind
  /-- The first that applies to a cell counts. -/
  formats : List ConditionalFormat
  /-- Settings that only the host of the document understands. -/
  extra : IdMap Json
deriving BEq, Inhabited

namespace Property

/-- A property without formats and further settings. -/
def fresh (id name : String) (kind : PropertyKind) : Property := ⟨id, name, kind, [], .empty⟩

def type (p : Property) : PropertyType := p.kind.type

/-- The options of a property; only selects have any. -/
def options (p : Property) : List SelectOption :=
  match p.kind with
  | .select options | .multiSelect options => options
  | _ => []

/-- The label of an option. -/
def optionLabel? (p : Property) (id : String) : Option String :=
  (p.options.find? (·.id == id)).map (·.label)

def numberFormat? (p : Property) : Option NumberFormat :=
  match p.kind with
  | .number format => format
  | _ => none

def relation? (p : Property) : Option Relation :=
  match p.kind with
  | .relation relation => some relation
  | _ => none

def rollup? (p : Property) : Option Rollup :=
  match p.kind with
  | .rollup rollup => some rollup
  | _ => none

def formula? (p : Property) : Option String :=
  match p.kind with
  | .formula expression => some expression
  | _ => none

def isBackRelation (p : Property) : Bool := p.relation?.any Relation.isBack

/-- Are the values of the property computed, and never stored? -/
def isComputed (p : Property) : Bool :=
  match p.kind with
  | .formula _ | .rollup _ => true
  | .relation relation => relation.isBack
  | _ => false

/-- A select property, for one choice or several, with options of the given labels. `freshId` gives
the id of the option at each place, and the colours start from the place `color` of the palette. -/
def ofLabels (id name : String) (labels : List String) (multi : Bool) (color : Nat)
    (freshId : Nat → String) : Property :=
  let options := labels.zipIdx.map fun (label, i) =>
    SelectOption.fresh (freshId i) label (color + i)
  fresh id name (if multi then .multiSelect options else .select options)

end Property

end Databook
