import Databook.Proofs.Document.Storable

/-!
# What documents are after they have been stored

A cell is read back as `Cell.stored`: the same cell, but that zero loses its sign. All else comes
back as it was, so a document that can be stored is equal to its stored one
(`Document.stored_beq`), and both are stored alike (`Document.toJson_stored`).
-/

namespace Databook

open Json (Record)
open Decimal

/-! ### Stored forms -/

/-- What a cell is read as after it has been stored. -/
def Cell.stored (c : Cell) : Cell := ofJson c.toJson

def ConditionalFormat.stored (f : ConditionalFormat) : ConditionalFormat :=
  { f with value := f.value.stored }

def Property.stored (p : Property) : Property := { p with formats := p.formats.map (·.stored) }

def Row.stored (r : Row) : Row := { r with cells := r.cells.map Cell.stored }

def Filter.stored (f : Filter) : Filter := { f with value := f.value.stored }

def View.stored (v : View) : View := { v with filters := v.filters.map (·.stored) }

/-- What a document is read as after it has been stored. -/
def Document.stored (d : Document) : Document :=
  ⟨d.properties.map (·.stored), d.rows.map (·.stored), d.views.map (·.stored)⟩

/-! ### Cells -/

namespace Cell

theorem filterMap_itemOfJson? (items : List String) :
    (items.map Json.string).filterMap itemOfJson? = items := by
  induction items with
  | nil => rfl
  | cons item items ih => simp [itemOfJson?, ih]

theorem stored_list (items : List String) : (list items).stored = list items := by
  rw [stored, toJson, Json.ofTexts, Json.ofList, ofJson, filterMap_itemOfJson?]

/-- A number is stored as an integer, as itself or not at all. -/
theorem numberJson_cases (x : Float) :
    (∃ n, isWhole x = true ∧ truncate? x = some n ∧ numberJson x = .number (.integer n)) ∨
      x.isFinite = true ∧ numberJson x = .number (.double x) ∨
      x.isFinite = false ∧ numberJson x = .null := by
  unfold numberJson
  split
  · next n hwhole hn => exact .inl ⟨n, hwhole, hn, rfl⟩
  · split
    · next h => exact .inr (.inl ⟨h, rfl⟩)
    · next h => exact .inr (.inr ⟨Bool.not_eq_true _ ▸ h, rfl⟩)

theorem stored_number (x : Float) : (number x).stored = ofJson (numberJson x) := rfl

/-- A stored cell is equal to the cell. -/
theorem stored_beq {c : Cell} (h : c.IsFinite) : (c.stored == c) = true := by
  cases c with
  | text s => exact beq_self_eq_true s
  | bool b => exact beq_self_eq_true b
  | null => rfl
  | list items =>
    rw [stored_list]
    exact beq_self_eq_true items
  | number x =>
    rw [stored_number]
    rcases numberJson_cases x with ⟨n, hwhole, hn, hjson⟩ | ⟨-, hjson⟩ | ⟨hinfinite, -⟩
    · rw [hjson]
      exact ofInt_beq_of_isWhole hwhole hn
    · rw [hjson]
      exact beq_self h
    · rw [IsFinite, hinfinite] at h
      cases h

theorem beq_self {c : Cell} (h : c.IsFinite) : (c == c) = true := by
  cases c with
  | text s => exact beq_self_eq_true s
  | bool b => exact beq_self_eq_true b
  | null => rfl
  | list items => exact beq_self_eq_true items
  | number x => exact Decimal.beq_self h

/-- A stored cell is stored alike. -/
theorem toJson_stored (c : Cell) : c.stored.toJson = c.toJson := by
  cases c with
  | text s => rfl
  | bool b => rfl
  | null => rfl
  | list items => rw [stored_list]
  | number x =>
    rw [stored_number]
    have htoJson : (number x).toJson = numberJson x := rfl
    rcases numberJson_cases x with ⟨n, hwhole, hn, hjson⟩ | ⟨-, hjson⟩ | ⟨-, hjson⟩
    · obtain ⟨hwhole, hn⟩ := isWhole_ofInt hwhole hn
      have hinteger : (number (Float.ofInt n)).toJson = numberJson (Float.ofInt n) := rfl
      rw [htoJson, hjson, ofJson, Json.Number.toFloat, hinteger, numberJson, hwhole, hn]
    · rw [htoJson, hjson, ofJson, Json.Number.toFloat, htoJson, hjson]
    · rw [htoJson, hjson]
      rfl

theorem stored_stored (c : Cell) : c.stored.stored = c.stored := by
  rw [stored, toJson_stored, stored]

end Cell

/-! ### Equality -/

theorem list_map_beq [BEq α] {f : α → α} {as : List α} (h : ∀ a ∈ as, (f a == a) = true) :
    (as.map f == as) = true := by
  induction as with
  | nil => rfl
  | cons a as ih =>
    rw [List.map_cons, List.cons_beq_cons, h a List.mem_cons_self,
      ih fun a ha => h a (List.mem_cons_of_mem _ ha)]
    rfl

theorem list_beq_self [BEq α] {as : List α} (h : ∀ a ∈ as, (a == a) = true) :
    (as == as) = true := by
  have hmap := list_map_beq (f := id) h
  rwa [List.map_id] at hmap

theorem idMap_map_beq [BEq α] {f : α → α} {m : IdMap α}
    (h : ∀ entry ∈ m.entries, (f entry.2 == entry.2) = true) : (m.map f == m) = true := by
  refine list_map_beq fun entry hentry => ?_
  have hpair : ((entry.1, f entry.2) == entry) = (entry.1 == entry.1 && f entry.2 == entry.2) := rfl
  rw [hpair, h entry hentry, beq_self_eq_true]
  rfl

theorem idMap_beq_self [BEq α] {m : IdMap α}
    (h : ∀ entry ∈ m.entries, (entry.2 == entry.2) = true) : (m == m) = true := by
  refine list_beq_self fun entry hentry => ?_
  have hpair : (entry == entry) = (entry.1 == entry.1 && entry.2 == entry.2) := rfl
  rw [hpair, h entry hentry, beq_self_eq_true]
  rfl

namespace Json

theorem Number.beq_self {n : Number} (h : n.ReadsBack) : (n == n) = true := by
  cases n with
  | integer n => exact beq_self_eq_true n
  | double x =>
    obtain ⟨m, -, hvalue⟩ := h
    have hx := isFinite_of_value? hvalue
    rw [Number.toFloat] at hx
    exact Decimal.beq_self hx

mutual

/-- A value is equal to itself if its numbers are read back, and so are not NaN. -/
theorem beq_self (j : Json) (h : ReadBack j.numbers) : beq j j = true := by
  cases j with
  | null => rw [beq]
  | bool b => rw [beq, beq_self_eq_true]
  | number n =>
    rw [beq]
    exact Number.beq_self (h n List.mem_cons_self)
  | string s => rw [beq, beq_self_eq_true]
  | array items =>
    rw [beq]
    exact beqItems_self items h
  | object fields =>
    rw [beq]
    exact beqFields_self fields h

theorem beqItems_self (items : List Json) (h : ReadBack (numbersOfItems items)) :
    beqItems items items = true := by
  match items with
  | [] => rw [beqItems]
  | item :: items =>
    obtain ⟨hitem, hitems⟩ := readBack_append.1 h
    rw [beqItems, beq_self item hitem, beqItems_self items hitems]
    rfl

theorem beqFields_self (fields : List (String × Json)) (h : ReadBack (numbersOfFields fields)) :
    beqFields fields fields = true := by
  match fields with
  | [] => rw [beqFields]
  | (name, value) :: fields =>
    obtain ⟨hvalue, hfields⟩ := readBack_append.1 h
    rw [beqFields, beq_self value hvalue, beqFields_self fields hfields, beq_self_eq_true]
    rfl

end

theorem extra_beq_self {extra : IdMap Json} (h : ReadBack (Json.object extra.entries).numbers) :
    (extra == extra) = true :=
  idMap_beq_self fun entry hentry =>
    beq_self entry.2 fun n hn => h n (mem_numbers_object.2 ⟨entry, hentry, hn⟩)

end Json

/-- The numbers of a field are numbers of the object. -/
theorem Json.readBack_field {fields : List (String × Json)} (name : String) {j : Json}
    (h : ReadBack (Json.object fields).numbers) (hfield : (name, j) ∈ fields) :
    ReadBack j.numbers :=
  fun n hn => h n (mem_numbers_object.2 ⟨(name, j), hfield, hn⟩)

theorem Json.readBack_extra {known : List (String × Json)} {extra : IdMap Json}
    (h : ReadBack (Json.object (known ++ extraFields extra)).numbers) :
    ReadBack (Json.object extra.entries).numbers := by
  intro n hn
  obtain ⟨entry, hentry, hn⟩ := mem_numbers_object.1 hn
  exact readBack_field entry.1 h (List.mem_append_right known hentry) n hn

theorem CellStyle.beq_self {s : CellStyle} (h : Json.ReadBack s.toJson.numbers) :
    (s == s) = true := by
  have hextra := Json.extra_beq_self (Json.readBack_extra h)
  have hstyle : (s == s) = (s.backgroundColor == s.backgroundColor &&
      (s.textColor == s.textColor && (s.bold == s.bold && s.extra == s.extra))) := rfl
  rw [hstyle, hextra]
  simp

theorem ConditionalFormat.beq_of_value {f : ConditionalFormat} {c : Cell}
    (h : Json.ReadBack f.toJson.numbers) (hc : (c == f.value) = true) :
    ({ f with value := c } == f) = true := by
  have hnumbers : Json.ReadBack f.style.toJson.numbers := Json.readBack_field "style" h (by simp)
  have hstyle := CellStyle.beq_self hnumbers
  have hformat : ({ f with value := c } == f) = (f.operator == f.operator &&
      (c == f.value && f.style == f.style)) := rfl
  rw [hformat, hstyle, hc]
  simp

theorem Json.mem_listField? {own : String} {toJson : α → Json} {items : List α} (h : items ≠ []) :
    (own, Json.ofList toJson items) ∈ Json.listField? own toJson items := by
  cases items with
  | nil => exact absurd rfl h
  | cons a items => exact List.mem_cons_self

theorem Json.readBack_item {toJson : α → Json} {items : List α} {a : α}
    (h : ReadBack (Json.ofList toJson items).numbers) (ha : a ∈ items) :
    ReadBack (toJson a).numbers :=
  fun n hn => h n (mem_numbers_ofList.2 ⟨a, ha, hn⟩)

theorem Property.readBack_format {p : Property} (h : Json.ReadBack p.toJson.numbers)
    {f : ConditionalFormat} (hf : f ∈ p.formats) : Json.ReadBack f.toJson.numbers := by
  refine Json.readBack_item (Json.readBack_field _ h (List.mem_append_left _
    (List.mem_append_right _ (Json.mem_listField? ?_)))) hf
  rintro hnil
  rw [hnil] at hf
  cases hf

theorem Property.beq_of_formats {p : Property} {formats : List ConditionalFormat}
    (h : Json.ReadBack p.toJson.numbers) (hformats : (formats == p.formats) = true) :
    ({ p with formats } == p) = true := by
  have hextra := Json.extra_beq_self (Json.readBack_extra h)
  have hproperty : ({ p with formats } == p) = (p.id == p.id && (p.name == p.name &&
      (p.kind == p.kind && (formats == p.formats && p.extra == p.extra)))) := rfl
  rw [hproperty, hformats, hextra]
  simp

theorem Property.Storable.stored_beq {room : Nat} {p : Property} (hp : p.Storable room)
    (h : Json.ReadBack p.toJson.numbers) : (p.stored == p) = true :=
  Property.beq_of_formats h (list_map_beq fun f hf =>
    ConditionalFormat.beq_of_value (Property.readBack_format h hf)
      (Cell.stored_beq (hp.formats f hf).value))

theorem Property.Storable.beq_self {room : Nat} {p : Property} (hp : p.Storable room)
    (h : Json.ReadBack p.toJson.numbers) : (p == p) = true :=
  Property.beq_of_formats h (list_beq_self fun f hf =>
    ConditionalFormat.beq_of_value (Property.readBack_format h hf)
      (Cell.beq_self (hp.formats f hf).value))

theorem Row.beq_of_cells {r : Row} {cells : IdMap Cell} (hcells : (cells == r.cells) = true) :
    ({ r with cells } == r) = true := by
  have hrow : ({ r with cells } == r) = (r.id == r.id && (cells == r.cells &&
      (r.createdAt == r.createdAt && r.updatedAt == r.updatedAt))) := rfl
  rw [hrow, hcells]
  simp

theorem Row.Storable.stored_beq {r : Row} (hr : r.Storable) : (r.stored == r) = true :=
  Row.beq_of_cells (idMap_map_beq fun entry hentry => Cell.stored_beq (hr.cells entry hentry))

theorem Row.Storable.beq_self {r : Row} (hr : r.Storable) : (r == r) = true :=
  Row.beq_of_cells (idMap_beq_self fun entry hentry => Cell.beq_self (hr.cells entry hentry))

theorem Filter.beq_of_value {f : Filter} {c : Cell} (hc : (c == f.value) = true) :
    ({ f with value := c } == f) = true := by
  have hfilter : ({ f with value := c } == f) = (f.property == f.property &&
      (f.operator == f.operator && c == f.value)) := rfl
  rw [hfilter, hc]
  simp

theorem ViewSettings.Storable.beq_self {room : Nat} {s : ViewSettings} (hs : s.Storable room)
    (h : Json.ReadBack s.toJson.numbers) : (s == s) = true := by
  have hwidths : (s.propertyWidths == s.propertyWidths) = true :=
    idMap_beq_self fun entry hentry => Decimal.beq_self (hs.widths entry hentry)
  have hextra := Json.extra_beq_self (Json.readBack_extra h)
  have hsettings : (s == s) = (s.groupBy == s.groupBy && (s.collapsedGroups == s.collapsedGroups &&
      (s.hiddenProperties == s.hiddenProperties && (s.pinnedProperties == s.pinnedProperties &&
      (s.propertyWidths == s.propertyWidths && (s.cardSize == s.cardSize &&
      (s.dateProperty == s.dateProperty && s.extra == s.extra))))))) := rfl
  rw [hsettings, hwidths, hextra]
  simp

theorem View.Storable.beq_of_filters {room : Nat} {v : View} {filters : List Filter}
    (hv : v.Storable room) (h : Json.ReadBack v.toJson.numbers)
    (hfilters : (filters == v.filters) = true) : ({ v with filters } == v) = true := by
  have hnumbers : Json.ReadBack v.settings.toJson.numbers :=
    Json.readBack_field "config" h (by simp)
  have hsettings := hv.settings.beq_self hnumbers
  have hsummaries : (v.summaries == v.summaries) = true := idMap_beq_self fun _ _ => beq_self_eq_true _
  have hview : ({ v with filters } == v) = (v.id == v.id && (v.name == v.name &&
      (v.type == v.type && (v.sorts == v.sorts && (filters == v.filters &&
      (v.settings == v.settings && v.summaries == v.summaries)))))) := rfl
  rw [hview, hfilters, hsettings, hsummaries]
  simp

theorem View.Storable.stored_beq {room : Nat} {v : View} (hv : v.Storable room)
    (h : Json.ReadBack v.toJson.numbers) : (v.stored == v) = true :=
  hv.beq_of_filters h (list_map_beq fun f hf =>
    Filter.beq_of_value (Cell.stored_beq (hv.filters f hf).value))

theorem View.Storable.beq_self {room : Nat} {v : View} (hv : v.Storable room)
    (h : Json.ReadBack v.toJson.numbers) : (v == v) = true :=
  hv.beq_of_filters h (list_beq_self fun f hf =>
    Filter.beq_of_value (Cell.beq_self (hv.filters f hf).value))

namespace Document

/-- The numbers of the parts of a document are read back if those of the document are. -/
theorem readBack_property {d : Document} (h : Json.ReadBack d.toJson.numbers) {p : Property}
    (hp : p ∈ d.properties) : Json.ReadBack p.toJson.numbers :=
  Json.readBack_item (Json.readBack_field "properties" h List.mem_cons_self) hp

theorem readBack_row {d : Document} (h : Json.ReadBack d.toJson.numbers) {r : Row}
    (hr : r ∈ d.rows) : Json.ReadBack r.toJson.numbers :=
  Json.readBack_item (Json.readBack_field "rows" h (List.mem_cons_of_mem _ List.mem_cons_self)) hr

theorem readBack_view {d : Document} (h : Json.ReadBack d.toJson.numbers) {v : View}
    (hv : v ∈ d.views) : Json.ReadBack v.toJson.numbers :=
  Json.readBack_item (Json.readBack_field "views" h (by simp)) hv

/-- The stored document is equal to the document. -/
theorem stored_beq {d : Document} (hd : d.Storable) (h : Json.ReadBack d.toJson.numbers) :
    (d.stored == d) = true := by
  have hproperties : (d.properties.map (·.stored) == d.properties) = true :=
    list_map_beq fun p hp => (hd.properties p hp).stored_beq (readBack_property h hp)
  have hrows : (d.rows.map (·.stored) == d.rows) = true :=
    list_map_beq fun r hr => (hd.rows r hr).stored_beq
  have hviews : (d.views.map (·.stored) == d.views) = true :=
    list_map_beq fun v hv => (hd.views v hv).stored_beq (readBack_view h hv)
  have hdocument : (d.stored == d) = (d.properties.map (·.stored) == d.properties &&
      (d.rows.map (·.stored) == d.rows && d.views.map (·.stored) == d.views)) := rfl
  rw [hdocument, hproperties, hrows, hviews]
  rfl

end Document

/-! ### Storing again -/

/-- The rows and options that a cell names are stored with it. -/
theorem Cell.ids_stored (c : Cell) : c.stored.ids = c.ids := by
  cases c with
  | text s => rfl
  | bool b => rfl
  | null => rfl
  | list items => rw [stored_list]
  | number x =>
    rw [stored_number]
    rcases numberJson_cases x with ⟨n, -, -, hjson⟩ | ⟨-, hjson⟩ | ⟨-, hjson⟩
    · rw [hjson]
      rfl
    · rw [hjson]
      rfl
    · rw [hjson]
      rfl

theorem Json.ofList_map {toJson : α → Json} {f : α → α} (items : List α)
    (h : ∀ a ∈ items, toJson (f a) = toJson a) : ofList toJson (items.map f) = ofList toJson items := by
  rw [ofList, ofList, List.map_map]
  exact congrArg array (List.map_congr_left h)

theorem ConditionalFormat.toJson_stored (f : ConditionalFormat) : f.stored.toJson = f.toJson := by
  rw [toJson, stored, Cell.toJson_stored, toJson]

theorem Property.toJson_stored (p : Property) : p.stored.toJson = p.toJson := by
  have hformats : Json.listField? "conditionalFormats" ConditionalFormat.toJson
      (p.formats.map (·.stored))
      = Json.listField? "conditionalFormats" ConditionalFormat.toJson p.formats := by
    rw [Json.listField?, Json.listField?, List.isEmpty_map,
      Json.ofList_map p.formats fun f _ => f.toJson_stored]
  rw [toJson, stored, hformats, toJson]
  rfl

theorem Row.toJson_stored (r : Row) : r.stored.toJson = r.toJson := by
  have hcells : r.stored.cellsJson = r.cellsJson := by
    simp [cellsJson, stored, Json.ofMap, IdMap.map, Cell.toJson_stored]
  rw [toJson, hcells]
  rfl

theorem Filter.toJson_stored (f : Filter) : f.stored.toJson = f.toJson := by
  rw [toJson, stored, Cell.toJson_stored, toJson]

theorem View.toJson_stored (v : View) : v.stored.toJson = v.toJson := by
  rw [toJson, stored, Json.ofList_map v.filters fun f _ => f.toJson_stored, toJson]

theorem ConditionalFormat.stored_stored (f : ConditionalFormat) : f.stored.stored = f.stored := by
  simp [stored, Cell.stored_stored]

theorem Property.stored_stored (p : Property) : p.stored.stored = p.stored := by
  simp [stored, Function.comp_def, ConditionalFormat.stored_stored]

theorem Filter.stored_stored (f : Filter) : f.stored.stored = f.stored := by
  simp [stored, Cell.stored_stored]

theorem View.stored_stored (v : View) : v.stored.stored = v.stored := by
  simp [stored, Function.comp_def, Filter.stored_stored]

namespace Document

/-- A stored document is stored alike. -/
theorem toJson_stored (d : Document) : d.stored.toJson = d.toJson := by
  rw [toJson, stored, Json.ofList_map d.properties fun p _ => p.toJson_stored,
    Json.ofList_map d.rows fun r _ => r.toJson_stored,
    Json.ofList_map d.views fun v _ => v.toJson_stored, toJson]

end Document

end Databook
