import Databook.Document.Basic

/-!
# The stored form of documents

A document is stored as JSON text. `Document.toJson` writes every part of it with its fields in a
fixed order, leaving out what is empty by default, and the decoders below read it back. Keys that
the library does not know are kept for properties, looks and view settings, and passed over
elsewhere. A setting that belongs to another type of property is dropped.

`Document.parse` and `Document.toText` go from and to text.
-/

namespace Databook

open Json (Decoder Record)
open Calendar

/-! ### Values with names -/

/-- A text that names a variant. -/
def named (known : List (String × α)) : Decoder α := Decoder.variant known

/-- A cell is any JSON value. -/
def Cell.decoder : Decoder Cell := fun room d => (Decoder.any room d).map Cell.ofJson

/-- A point in time is a string. -/
def Calendar.Instant.decoder : Decoder Instant := fun room d => do
  match Instant.read? (← Decoder.string room d) with
  | some t => return t
  | none => throw .wrongKind

/-- The entries of a map of further settings. -/
def extraFields (extra : IdMap Json) : List (String × Json) := extra.entries

/-! ### Properties -/

namespace SelectOption

def decoder : Decoder SelectOption :=
  (mk <$> Record.required "id" Decoder.string
    <*> Record.required "label" Decoder.string
    <*> Record.optional "color" Decoder.string "").decode

def toJson (o : SelectOption) : Json :=
  .object [("id", .string o.id), ("label", .string o.label), ("color", .string o.color)]

end SelectOption

namespace NumberFormat

def decoder : Decoder NumberFormat :=
  (mk <$> Record.optional "style" (named NumberStyle.table) .plain
    <*> Record.nullable "decimals" Decoder.nat32
    <*> Record.optional "thousandsSeparator" Decoder.bool false
    <*> Record.nullable "currencySymbol" Decoder.string).decode

def toJson (f : NumberFormat) : Json :=
  .object <| [("style", .string f.style.name)] ++ Json.field? "decimals" .ofNat f.decimals ++
    [("thousandsSeparator", .bool f.thousandsSeparator)] ++
    Json.field? "currencySymbol" .string f.currencySymbol

end NumberFormat

/-- A relation as it is stored, before it is known whether it is complete. -/
structure StoredRelation where
  page : String
  isBack : Bool
  counterpart : Option String

namespace StoredRelation

def decoder : Decoder StoredRelation :=
  (mk <$> Record.required "databasePageId" Decoder.string
    <*> Record.optional "direction" (named [("forward", false), ("back", true)]) false
    <*> Record.nullable "backRelationPropertyId" Decoder.string).decode

/-- The relation, if it is complete: a back relation has to name its counterpart. -/
def complete? (r : StoredRelation) : Option Relation :=
  match r.isBack, r.counterpart with
  | false, shownBy => some ⟨r.page, .forward shownBy⟩
  | true, some property => some ⟨r.page, .back property⟩
  | true, none => none

end StoredRelation

def Relation.toJson (r : Relation) : Json :=
  .object <| [("databasePageId", .string r.page),
      ("direction", .string (if r.isBack then "back" else "forward"))] ++
    Json.field? "backRelationPropertyId" .string (match r.side with
      | .forward shownBy => shownBy
      | .back property => some property)

namespace Rollup

def decoder : Decoder Rollup :=
  (mk <$> Record.required "relationPropertyId" Decoder.string
    <*> Record.required "targetPropertyId" Decoder.string
    <*> Record.required "aggregation" (named Aggregation.table)).decode

def toJson (r : Rollup) : Json :=
  .object [("relationPropertyId", .string r.relation), ("targetPropertyId", .string r.target),
    ("aggregation", .string r.aggregation.name)]

end Rollup

/-- An operator is stored by its name. -/
def FilterOperator.decoder : Decoder FilterOperator :=
  fun room d => (Decoder.string room d).map FilterOperator.ofName

namespace CellStyle

def fields : Record (IdMap Json → CellStyle) :=
  mk <$> Record.nullable "backgroundColor" Decoder.string
    <*> Record.nullable "textColor" Decoder.string
    <*> Record.optional "bold" Decoder.bool false

def decoder : Decoder CellStyle := fun room d => do
  let (style, extra) ← fields.decodeExtra room d
  return style extra

def toJson (s : CellStyle) : Json :=
  .object <| Json.field? "backgroundColor" .string s.backgroundColor ++
    Json.field? "textColor" .string s.textColor ++
    (if s.bold then [("bold", .bool true)] else []) ++ extraFields s.extra

end CellStyle

namespace ConditionalFormat

def decoder : Decoder ConditionalFormat :=
  (mk <$> Record.required "operator" FilterOperator.decoder
    <*> Record.optional "value" Cell.decoder .null
    <*> Record.required "style" CellStyle.decoder).decode

def toJson (f : ConditionalFormat) : Json :=
  .object [("operator", .string f.operator.name), ("value", f.value.toJson),
    ("style", f.style.toJson)]

end ConditionalFormat

/-- A property as it is stored: every setting may be there, whatever the type. -/
structure StoredProperty where
  id : String
  name : String
  type : PropertyType
  options : Option (List SelectOption)
  numberFormat : Option NumberFormat
  relation : Option StoredRelation
  rollup : Option Rollup
  formula : Option String
  formats : List ConditionalFormat

namespace StoredProperty

def fields : Record StoredProperty :=
  mk <$> Record.required "id" Decoder.string
    <*> Record.required "name" Decoder.string
    <*> Record.required "type" (named PropertyType.table)
    <*> Record.nullable "options" (Decoder.list SelectOption.decoder)
    <*> Record.nullable "numberFormat" NumberFormat.decoder
    <*> Record.nullable "relationConfig" StoredRelation.decoder
    <*> Record.nullable "rollupConfig" Rollup.decoder
    <*> Record.nullable "formulaExpression" Decoder.string
    <*> Record.optional "conditionalFormats" (Decoder.list ConditionalFormat.decoder) []

/-- The kind of the property, or the setting that its type misses. -/
def kind (p : StoredProperty) : Except String PropertyKind :=
  match p.type with
  | .text => .ok .text
  | .number => .ok (.number p.numberFormat)
  | .select => .ok (.select (p.options.getD []))
  | .multiSelect => .ok (.multiSelect (p.options.getD []))
  | .checkbox => .ok .checkbox
  | .date => .ok .date
  | .url => .ok .url
  | .pageLink => .ok .pageLink
  | .relation =>
    match p.relation with
    | none => .error "relationConfig"
    | some stored =>
      match stored.complete? with
      | none => .error "backRelationPropertyId"
      | some relation => .ok (.relation relation)
  | .rollup =>
    match p.rollup with
    | none => .error "rollupConfig"
    | some rollup => .ok (.rollup rollup)
  | .formula =>
    match p.formula with
    | none => .error "formulaExpression"
    | some expression => .ok (.formula expression)

end StoredProperty

namespace Property

def decoder : Decoder Property := fun room d => do
  let (stored, extra) ← StoredProperty.fields.decodeExtra room d
  match stored.kind with
  | .ok kind => return ⟨stored.id, stored.name, kind, stored.formats, extra⟩
  | .error setting =>
    let error := Error.invalidProperty stored.name (.missingSetting stored.type.name setting)
    throw (.refused error.message)

/-- The fields of the settings that belong to a type. -/
def kindFields : PropertyKind → List (String × Json)
  | .number format => Json.field? "numberFormat" NumberFormat.toJson format
  | .select options | .multiSelect options => [("options", .ofList SelectOption.toJson options)]
  | .relation relation => [("relationConfig", relation.toJson)]
  | .rollup rollup => [("rollupConfig", rollup.toJson)]
  | .formula expression => [("formulaExpression", .string expression)]
  | .text | .checkbox | .date | .url | .pageLink => []

def toJson (p : Property) : Json :=
  .object <| [("id", .string p.id), ("name", .string p.name), ("type", .string p.type.name)] ++
    kindFields p.kind ++ Json.listField? "conditionalFormats" ConditionalFormat.toJson p.formats ++
    extraFields p.extra

end Property

/-! ### Rows -/

namespace Row

def decoder : Decoder Row :=
  (mk <$> Record.required "id" Decoder.string
    <*> Record.optional "cells" (Decoder.map Cell.decoder) .empty
    <*> Record.optional "createdAt" Instant.decoder .epoch
    <*> Record.optional "updatedAt" Instant.decoder .epoch).decode

/-- The cells of a row. -/
def cellsJson (r : Row) : Json := .ofMap Cell.toJson r.cells

def toJson (r : Row) : Json :=
  .object [("id", .string r.id), ("cells", r.cellsJson),
    ("createdAt", .string r.createdAt.toText), ("updatedAt", .string r.updatedAt.toText)]

end Row

/-! ### Views -/

namespace SortKey

def decoder : Decoder SortKey :=
  (mk <$> Record.required "propertyId" Decoder.string
    <*> Record.optional "direction" (named SortDirection.table) .asc).decode

def toJson (s : SortKey) : Json :=
  .object [("propertyId", .string s.property), ("direction", .string s.direction.name)]

end SortKey

namespace Filter

def decoder : Decoder Filter :=
  (mk <$> Record.required "propertyId" Decoder.string
    <*> Record.required "operator" FilterOperator.decoder
    <*> Record.optional "value" Cell.decoder .null).decode

def toJson (f : Filter) : Json :=
  .object [("propertyId", .string f.property), ("operator", .string f.operator.name),
    ("value", f.value.toJson)]

end Filter

namespace ViewSettings

def fields : Record (IdMap Json → ViewSettings) :=
  mk <$> Record.nullable "groupByPropertyId" Decoder.string
    <*> Record.optional "collapsedGroups" (Decoder.list Decoder.string) []
    <*> Record.optional "hiddenProperties" (Decoder.list Decoder.string) []
    <*> Record.optional "pinnedProperties" (Decoder.list Decoder.string) []
    <*> Record.optional "propertyWidths" (Decoder.map Decoder.float) .empty
    <*> Record.nullable "cardSize" Decoder.string
    <*> Record.nullable "datePropertyId" Decoder.string

def decoder : Decoder ViewSettings := fun room d => do
  let (settings, extra) ← fields.decodeExtra room d
  return settings extra

/-- A width is written as a double, `120.0`. -/
def widthJson (x : Float) : Json := if x.isFinite then .number (.double x) else .null

def toJson (s : ViewSettings) : Json :=
  .object <| Json.field? "groupByPropertyId" .string s.groupBy ++
    Json.listField? "collapsedGroups" .string s.collapsedGroups ++
    Json.listField? "hiddenProperties" .string s.hiddenProperties ++
    Json.listField? "pinnedProperties" .string s.pinnedProperties ++
    (if s.propertyWidths.isEmpty then []
      else [("propertyWidths", .ofMap widthJson s.propertyWidths)]) ++
    Json.field? "cardSize" .string s.cardSize ++
    Json.field? "datePropertyId" .string s.dateProperty ++ extraFields s.extra

end ViewSettings

namespace View

def decoder : Decoder View :=
  (mk <$> Record.required "id" Decoder.string
    <*> Record.required "name" Decoder.string
    <*> Record.optional "type" (named ViewType.names) .table
    <*> Record.optional "sorts" (Decoder.list SortKey.decoder) []
    <*> Record.optional "filters" (Decoder.list Filter.decoder) []
    <*> Record.optional "config" ViewSettings.decoder .none
    <*> Record.optional "propertySummaries" (Decoder.map (named Aggregation.table)) .empty).decode

def toJson (v : View) : Json :=
  .object [("id", .string v.id), ("name", .string v.name), ("type", .string v.type.name),
    ("sorts", .ofList SortKey.toJson v.sorts), ("filters", .ofList Filter.toJson v.filters),
    ("config", v.settings.toJson),
    ("propertySummaries", .ofMap (fun a => .string (Aggregation.name a)) v.summaries)]

end View

/-! ### Documents -/

namespace Document

def decoder : Decoder Document :=
  (mk <$> Record.required "properties" (Decoder.list Property.decoder)
    <*> Record.optional "rows" (Decoder.list Row.decoder) []
    <*> Record.optional "views" (Decoder.list View.decoder) []).decode

def toJson (d : Document) : Json :=
  .object [("properties", .ofList Property.toJson d.properties),
    ("rows", .ofList Row.toJson d.rows), ("views", .ofList View.toJson d.views)]

/-- The document that a text holds. -/
def parse (s : String) : Except Error Document := (Decoder.decode decoder s).mapError .json

/-- The document as text. -/
def toText (d : Document) : String := d.toJson.pretty

end Document

end Databook
