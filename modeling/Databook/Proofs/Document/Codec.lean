import Databook.Proofs.Document.Stored

/-!
# Reading documents back

Each decoder reads what is written for a value: `Document.reads_toJson` says so of documents, which
come back as they are stored. Settings that are left out when they are not set are read as not set,
and further settings are told apart from the known ones by their names.
-/

namespace Databook

open Json (Decoder Record)
open Calendar

variable {room : Nat}

/-! ### Values -/

theorem reads_named {table : List (String × α)} {name : String} {a : α}
    (h : table.lookup name = some a) : (named table).Reads room (.string name) a :=
  Decoder.reads_variant h

theorem PropertyType.lookup_name (t : PropertyType) : table.lookup t.name = some t := by
  cases t <;> rfl

theorem NumberStyle.lookup_name (s : NumberStyle) : table.lookup s.name = some s := by
  cases s <;> rfl

theorem Aggregation.lookup_name (a : Aggregation) : table.lookup a.name = some a := by
  cases a <;> rfl

theorem ViewType.lookup_name (t : ViewType) : names.lookup t.name = some t := by cases t <;> rfl

theorem SortDirection.lookup_name (d : SortDirection) : table.lookup d.name = some d := by
  cases d <;> rfl

theorem FilterOperator.reads_name {o : FilterOperator} (h : o.IsNamed) :
    FilterOperator.decoder.Reads room (.string o.name) o := by
  have hread : FilterOperator.decoder room (Json.draft (.string o.name)) = .ok (ofName o.name) := rfl
  rw [Decoder.Reads, hread, h]

/-- A cell is nested one level deep at most, and its integers are small. -/
theorem Cell.settled_toJson (hroom : 2 ≤ room) (c : Cell) : Json.Settled room c.toJson := by
  cases c with
  | text s => trivial
  | bool b => trivial
  | null => trivial
  | list items =>
    refine ⟨hroom, ?_⟩
    induction items with
    | nil => trivial
    | cons item items ih => exact ⟨trivial, ih⟩
  | number x =>
    have htoJson : (number x).toJson = numberJson x := rfl
    rw [htoJson]
    rcases numberJson_cases x with ⟨n, hwhole, hn, hjson⟩ | ⟨hfinite, hjson⟩ | ⟨-, hjson⟩
    · have hsmall := Decimal.natAbs_lt_of_isWhole hwhole hn
      rw [hjson, Json.Settled, Json.Number.Fits, Json.FitsInt64]
      omega
    · rw [hjson]
      exact hfinite
    · rw [hjson]
      trivial

theorem Cell.reads_toJson {c : Cell} (hroom : 2 ≤ room) (h : Json.ReadBack c.toJson.numbers) :
    Cell.decoder.Reads room c.toJson c.stored := by
  unfold Decoder.Reads Cell.decoder
  rw [Json.any_draft c.toJson (c.settled_toJson hroom) h]
  rfl

theorem Calendar.Instant.reads_toText {t : Instant} (h : t.IsValid) :
    Instant.decoder.Reads room (.string t.toText) t := by
  have hstring : Decoder.string room (Json.draft (.string t.toText)) = .ok t.toText := rfl
  unfold Decoder.Reads Instant.decoder
  rw [Json.bind_ok hstring, read?_toText h]
  rfl

/-! ### Properties -/

theorem SelectOption.reads_toJson (hroom : 2 ≤ room) (o : SelectOption) :
    SelectOption.decoder.Reads room o.toJson o := by
  obtain ⟨id, label, color⟩ := o
  unfold SelectOption.decoder toJson
  refine Record.reads_decode hroom (by simp) fun hnames =>
    (((Record.Reads.map ?_ mk).field ?_ (by simp)).field ?_ (by simp))
  · exact Record.reads_present hnames (by simp) (Decoder.reads_string id)
  · exact Record.reads_present hnames (by simp [IdMap.lookup_entry]) (Decoder.reads_string label)
  · exact Record.reads_present hnames (by simp [IdMap.lookup_entry]) (Decoder.reads_string color)

theorem NumberFormat.reads_toJson (hroom : 2 ≤ room) {f : NumberFormat} (hf : f.Storable) :
    NumberFormat.decoder.Reads room f.toJson f := by
  obtain ⟨style, decimals, separator, symbol⟩ := f
  unfold NumberFormat.decoder toJson
  refine Record.reads_decode hroom ?_ fun hnames =>
    ((((Record.Reads.map ?_ mk).field ?_ (by simp)).field ?_ (by simp)).field ?_ (by simp))
  · cases decimals <;> cases symbol <;> simp [Json.field?]
  · exact Record.reads_present hnames (by simp) (reads_named style.lookup_name)
  · refine Record.reads_nullable hnames (?_ : _ = decimals.map Json.ofNat)
      fun n hn => ⟨Json.noConfusion, Decoder.reads_nat32 (hf n hn)⟩
    simp [List.lookup_append, IdMap.lookup_entry, Record.lookup_field?]
  · refine Record.reads_present hnames ?_ (Decoder.reads_bool separator)
    simp [List.lookup_append, IdMap.lookup_entry, Record.lookup_field?]
  · refine Record.reads_text? hnames ?_
    simp [List.lookup_append, IdMap.lookup_entry, Record.lookup_field?]

/-- A relation as it is written. -/
def Relation.toStored (r : Relation) : StoredRelation :=
  ⟨r.page, r.isBack, match r.side with
    | .forward shownBy => shownBy
    | .back property => some property⟩

theorem Relation.complete?_toStored (r : Relation) : r.toStored.complete? = some r := by
  obtain ⟨page, _ | _⟩ := r <;> rfl

theorem Relation.reads_toJson (hroom : 2 ≤ room) (r : Relation) :
    StoredRelation.decoder.Reads room r.toJson r.toStored := by
  unfold StoredRelation.decoder toJson toStored
  refine Record.reads_decode hroom ?_ fun hnames =>
    (((Record.Reads.map ?_ StoredRelation.mk).field ?_ (by simp)).field ?_ (by simp))
  · cases r.side with
    | forward shownBy => cases shownBy <;> simp [Json.field?]
    | back property => simp [Json.field?]
  · exact Record.reads_present hnames (by simp) (Decoder.reads_string r.page)
  · refine Record.reads_field hnames ?_
    simp only [List.lookup_append, IdMap.lookup_entry, Record.lookup_field?]
    cases r.isBack
    · exact reads_named rfl
    · exact reads_named rfl
  · refine Record.reads_text? hnames ?_
    cases r.side <;> simp [IdMap.lookup_entry, Record.lookup_field?]

theorem Rollup.reads_toJson (hroom : 2 ≤ room) (r : Rollup) :
    Rollup.decoder.Reads room r.toJson r := by
  obtain ⟨relation, target, aggregation⟩ := r
  unfold Rollup.decoder toJson
  refine Record.reads_decode hroom (by simp) fun hnames =>
    (((Record.Reads.map ?_ mk).field ?_ (by simp)).field ?_ (by simp))
  · exact Record.reads_present hnames (by simp) (Decoder.reads_string relation)
  · exact Record.reads_present hnames (by simp [IdMap.lookup_entry]) (Decoder.reads_string target)
  · exact Record.reads_present hnames (by simp [IdMap.lookup_entry])
      (reads_named aggregation.lookup_name)

theorem CellStyle.reads_toJson (hroom : 2 ≤ room) {s : CellStyle} (hs : s.Storable room)
    (hnumbers : Json.ReadBack s.toJson.numbers) : CellStyle.decoder.Reads room s.toJson s := by
  have hextra := Json.readBack_extra hnumbers
  obtain ⟨background, text, bold, extra⟩ := s
  have hfields : fields.decodeExtra.Reads room (toJson ⟨background, text, bold, extra⟩)
      (mk background text bold, extra) := by
    unfold toJson
    refine Record.reads_decodeExtra hroom hasNames_fields (by decide) ?_ hs hextra fun hnames =>
      (((Record.Reads.map ?_ mk).field ?_ (by simp)).field ?_ (by simp))
    · cases background <;> cases text <;> cases bold <;> simp [Json.field?, fieldNames]
    · refine Record.reads_text? hnames ?_
      rw [Record.Extra.lookup_append hs (by decide)]
      cases bold <;> simp [List.lookup_append, IdMap.lookup_entry, Record.lookup_field?]
    · refine Record.reads_text? hnames ?_
      rw [Record.Extra.lookup_append hs (by decide)]
      cases bold <;> simp [List.lookup_append, IdMap.lookup_entry, Record.lookup_field?]
    · refine Record.reads_field hnames ?_
      rw [Record.Extra.lookup_append hs (by decide)]
      cases bold <;> simp [List.lookup_append, Record.lookup_field?]
      exact Decoder.reads_bool true
  unfold Decoder.Reads CellStyle.decoder
  rw [Json.bind_ok hfields]
  rfl

theorem ConditionalFormat.reads_toJson (hroom : 3 ≤ room) {f : ConditionalFormat}
    (hf : f.Storable room) (hnumbers : Json.ReadBack f.toJson.numbers) :
    ConditionalFormat.decoder.Reads room f.toJson f.stored := by
  have hvalue : Json.ReadBack f.value.toJson.numbers := Json.readBack_field "value" hnumbers (by simp)
  have hstyle : Json.ReadBack f.style.toJson.numbers := Json.readBack_field "style" hnumbers (by simp)
  unfold ConditionalFormat.decoder toJson
  refine Record.reads_decode (by omega) (by simp) fun hnames =>
    (((Record.Reads.map ?_ mk).field ?_ (by simp)).field ?_ (by simp))
  · exact Record.reads_present hnames (by simp) (FilterOperator.reads_name hf.operator)
  · exact Record.reads_present hnames (by simp [IdMap.lookup_entry])
      (Cell.reads_toJson (by omega) hvalue)
  · exact Record.reads_present hnames (by simp [IdMap.lookup_entry])
      (CellStyle.reads_toJson (by omega) hf.style hstyle)

/-- The options of a property that has any. -/
def PropertyKind.options? : PropertyKind → Option (List SelectOption)
  | .select options | .multiSelect options => some options
  | _ => none

/-- A property as it is written. -/
def Property.toStored (p : Property) : StoredProperty where
  id := p.id
  name := p.name
  type := p.type
  options := p.kind.options?
  numberFormat := p.numberFormat?
  relation := p.relation?.map Relation.toStored
  rollup := p.rollup?
  formula := p.formula?
  formats := p.formats.map (·.stored)

theorem Property.kind_toStored (p : Property) : p.toStored.kind = .ok p.kind := by
  obtain ⟨id, name, kind, formats, extra⟩ := p
  cases kind with
  | relation relation =>
    simp [StoredProperty.kind, toStored, type, PropertyKind.type, relation?,
      Relation.complete?_toStored]
  | _ => rfl

/-- The fields of the settings of a type stand in the order of the record. -/
theorem Property.names_kindFields (k : PropertyKind) :
    ((kindFields k).map (·.1)).Sublist
      ["options", "numberFormat", "relationConfig", "rollupConfig", "formulaExpression"] := by
  cases k with
  | number format => cases format <;> simp [kindFields, Json.field?]
  | _ => simp [kindFields]

theorem Property.lookup_options (k : PropertyKind) :
    (kindFields k).lookup "options" = k.options?.map (.ofList SelectOption.toJson) := by
  cases k <;> simp [kindFields, PropertyKind.options?, Record.lookup_field?]

theorem Property.lookup_numberFormat (p : Property) :
    (kindFields p.kind).lookup "numberFormat" = p.numberFormat?.map NumberFormat.toJson := by
  obtain ⟨id, name, kind, formats, extra⟩ := p
  cases kind <;> simp [kindFields, numberFormat?, Record.lookup_field?]

theorem Property.lookup_relation (p : Property) :
    (kindFields p.kind).lookup "relationConfig" = p.relation?.map Relation.toJson := by
  obtain ⟨id, name, kind, formats, extra⟩ := p
  cases kind <;> simp [kindFields, relation?, Record.lookup_field?]

theorem Property.lookup_rollup (p : Property) :
    (kindFields p.kind).lookup "rollupConfig" = p.rollup?.map Rollup.toJson := by
  obtain ⟨id, name, kind, formats, extra⟩ := p
  cases kind <;> simp [kindFields, rollup?, Record.lookup_field?]

theorem Property.lookup_formula (p : Property) :
    (kindFields p.kind).lookup "formulaExpression" = p.formula?.map .string := by
  obtain ⟨id, name, kind, formats, extra⟩ := p
  cases kind <;> simp [kindFields, formula?, Record.lookup_field?]

theorem Property.lookup_conditionalFormats (k : PropertyKind) :
    (kindFields k).lookup "conditionalFormats" = none := by
  cases k <;> simp [kindFields, Record.lookup_field?]

theorem Property.kind_of_numberFormat? {p : Property} {format : NumberFormat}
    (h : p.numberFormat? = some format) : p.kind = .number (some format) := by
  unfold numberFormat? at h
  split at h
  · next hkind => rw [hkind, h]
  · cases h

theorem Property.reads_toJson (hroom : 6 ≤ room) {p : Property} (hp : p.Storable room)
    (hnumbers : Json.ReadBack p.toJson.numbers) : Property.decoder.Reads room p.toJson p.stored := by
  have hextra := Json.readBack_extra hnumbers
  have hfields : StoredProperty.fields.decodeExtra.Reads room p.toJson (p.toStored, p.extra) := by
    refine Record.reads_decodeExtra (by omega) StoredProperty.hasNames_fields (by decide) ?_ hp.extra
      hextra fun hnames => (((((((((Record.Reads.map ?_ StoredProperty.mk).field ?_ (by simp)).field
        ?_ (by simp)).field ?_ (by simp)).field ?_ (by simp)).field ?_ (by simp)).field
        ?_ (by simp)).field ?_ (by simp)).field ?_ (by simp))
    · simp only [List.map_append]
      exact ((List.Sublist.refl ["id", "name", "type"]).append (names_kindFields p.kind)).append
        (Record.names_listField? _ _ _)
    · refine Record.reads_present hnames ?_ (Decoder.reads_string p.id)
      rw [Record.Extra.lookup_append hp.extra (by decide)]
      simp
    · refine Record.reads_present hnames ?_ (Decoder.reads_string p.name)
      rw [Record.Extra.lookup_append hp.extra (by decide)]
      simp [IdMap.lookup_entry]
    · refine Record.reads_present hnames ?_ (reads_named p.type.lookup_name)
      rw [Record.Extra.lookup_append hp.extra (by decide)]
      simp [IdMap.lookup_entry]
    · refine Record.reads_nullable hnames (?_ : _ = p.kind.options?.map (.ofList SelectOption.toJson))
        fun options _ => ⟨Json.noConfusion, ?_⟩
      · rw [Record.Extra.lookup_append hp.extra (by decide)]
        simp [List.lookup_append, IdMap.lookup_entry, Record.lookup_listField?, lookup_options]
      · exact Decoder.reads_list_self (by omega) fun o _ => o.reads_toJson (by omega)
    · refine Record.reads_nullable hnames (?_ : _ = p.numberFormat?.map NumberFormat.toJson)
        fun format hformat => ⟨Json.noConfusion, NumberFormat.reads_toJson (by omega) ?_⟩
      · rw [Record.Extra.lookup_append hp.extra (by decide)]
        simp [List.lookup_append, IdMap.lookup_entry, Record.lookup_listField?, lookup_numberFormat]
      · exact hp.kind format (kind_of_numberFormat? hformat)
    · refine Record.reads_field hnames ?_
      rw [Record.Extra.lookup_append hp.extra (by decide)]
      simp only [List.lookup_append, IdMap.lookup_entry, Record.lookup_listField?, lookup_relation]
      cases hrelation : p.relation? with
      | none => simp
      | some relation => exact Decoder.reads_nullable Json.noConfusion (relation.reads_toJson (by omega))
    · refine Record.reads_nullable hnames (?_ : _ = p.rollup?.map Rollup.toJson)
        fun rollup _ => ⟨Json.noConfusion, rollup.reads_toJson (by omega)⟩
      rw [Record.Extra.lookup_append hp.extra (by decide)]
      simp [List.lookup_append, IdMap.lookup_entry, Record.lookup_listField?, lookup_rollup]
    · refine Record.reads_text? hnames ?_
      rw [Record.Extra.lookup_append hp.extra (by decide)]
      simp [List.lookup_append, IdMap.lookup_entry, Record.lookup_listField?, lookup_formula]
    · refine Record.reads_listField hnames
        (?_ : _ = if p.formats = [] then none else some (Json.ofList ConditionalFormat.toJson p.formats))
        (Decoder.reads_list (by omega) fun f hf => ConditionalFormat.reads_toJson (by omega)
          (hp.formats f hf) (readBack_format hnumbers hf)) (fun h => by rw [h]; rfl)
      rw [Record.Extra.lookup_append hp.extra (by decide)]
      simp [List.lookup_append, IdMap.lookup_entry, Record.lookup_listField?,
        lookup_conditionalFormats]
  unfold Decoder.Reads Property.decoder
  rw [Json.bind_ok hfields]
  simp only [kind_toStored]
  rfl

/-! ### Rows and views -/

theorem Row.reads_toJson (hroom : 4 ≤ room) {r : Row} (hr : r.Storable)
    (hnumbers : Json.ReadBack r.toJson.numbers) : Row.decoder.Reads room r.toJson r.stored := by
  have hcells : Json.ReadBack r.cellsJson.numbers := Json.readBack_field "cells" hnumbers (by simp)
  unfold Row.decoder toJson
  refine Record.reads_decode (by omega) (by simp) fun hnames =>
    ((((Record.Reads.map ?_ mk).field ?_ (by simp)).field ?_ (by simp)).field ?_ (by simp))
  · exact Record.reads_present hnames (by simp) (Decoder.reads_string r.id)
  · refine Record.reads_present hnames (by simp [IdMap.lookup_entry, cellsJson])
      (Decoder.reads_map (by omega) fun entry hentry => Cell.reads_toJson (by omega) ?_)
    exact fun n hn => hcells n (Json.mem_numbers_ofMap.2 ⟨entry, hentry, hn⟩)
  · exact Record.reads_present hnames (by simp [IdMap.lookup_entry])
      (Instant.reads_toText hr.createdAt)
  · exact Record.reads_present hnames (by simp [IdMap.lookup_entry])
      (Instant.reads_toText hr.updatedAt)

theorem SortKey.reads_toJson (hroom : 2 ≤ room) (s : SortKey) :
    SortKey.decoder.Reads room s.toJson s := by
  obtain ⟨property, direction⟩ := s
  unfold SortKey.decoder toJson
  refine Record.reads_decode hroom (by simp) fun hnames =>
    ((Record.Reads.map ?_ mk).field ?_ (by simp))
  · exact Record.reads_present hnames (by simp) (Decoder.reads_string property)
  · exact Record.reads_present hnames (by simp [IdMap.lookup_entry])
      (reads_named direction.lookup_name)

theorem Filter.reads_toJson (hroom : 3 ≤ room) {f : Filter} (hf : f.Storable)
    (hnumbers : Json.ReadBack f.toJson.numbers) : Filter.decoder.Reads room f.toJson f.stored := by
  have hvalue : Json.ReadBack f.value.toJson.numbers := Json.readBack_field "value" hnumbers (by simp)
  unfold Filter.decoder toJson
  refine Record.reads_decode (by omega) (by simp) fun hnames =>
    (((Record.Reads.map ?_ mk).field ?_ (by simp)).field ?_ (by simp))
  · exact Record.reads_present hnames (by simp) (Decoder.reads_string f.property)
  · exact Record.reads_present hnames (by simp [IdMap.lookup_entry])
      (FilterOperator.reads_name hf.operator)
  · exact Record.reads_present hnames (by simp [IdMap.lookup_entry])
      (Cell.reads_toJson (by omega) hvalue)

/-- The field of the widths of a view. -/
def ViewSettings.widthsField (widths : IdMap Float) : List (String × Json) :=
  if widths.isEmpty then [] else [("propertyWidths", .ofMap widthJson widths)]

theorem ViewSettings.names_widthsField (widths : IdMap Float) :
    ((widthsField widths).map (·.1)).Sublist ["propertyWidths"] := by
  unfold widthsField
  split
  · exact List.nil_sublist _
  · exact List.Sublist.refl _

theorem ViewSettings.lookup_widthsField (widths : IdMap Float) (name : String) :
    (widthsField widths).lookup name
      = if name = "propertyWidths" ∧ widths.isEmpty = false then some (.ofMap widthJson widths)
        else Option.none := by
  unfold widthsField
  cases widths.isEmpty <;> simp [IdMap.lookup_entry]

theorem ViewSettings.reads_width {x : Float} (hfinite : x.isFinite = true)
    (hnumbers : Json.ReadBack (widthJson x).numbers) : Decoder.float.Reads room (widthJson x) x := by
  unfold widthJson at hnumbers ⊢
  rw [if_pos hfinite] at hnumbers ⊢
  exact Decoder.reads_float (hnumbers _ List.mem_cons_self)

/-- The known fields of the settings of a view. -/
def ViewSettings.knownFields (s : ViewSettings) : List (String × Json) :=
  Json.field? "groupByPropertyId" .string s.groupBy ++
    Json.listField? "collapsedGroups" .string s.collapsedGroups ++
    Json.listField? "hiddenProperties" .string s.hiddenProperties ++
    Json.listField? "pinnedProperties" .string s.pinnedProperties ++
    widthsField s.propertyWidths ++ Json.field? "cardSize" .string s.cardSize ++
    Json.field? "datePropertyId" .string s.dateProperty

theorem ViewSettings.toJson_eq (s : ViewSettings) :
    s.toJson = .object (s.knownFields ++ s.extra.entries) := rfl

theorem ViewSettings.names_knownFields (s : ViewSettings) :
    (s.knownFields.map (·.1)).Sublist fieldNames := by
  simp only [knownFields, List.map_append]
  exact ((((((Record.names_field? _ _ _).append (Record.names_listField? _ _ _)).append
    (Record.names_listField? _ _ _)).append (Record.names_listField? _ _ _)).append
    (names_widthsField _)).append (Record.names_field? _ _ _)).append (Record.names_field? _ _ _)

theorem ViewSettings.readBack_width {s : ViewSettings} (h : Json.ReadBack s.toJson.numbers)
    {entry : String × Float} (hentry : entry ∈ s.propertyWidths.entries) :
    Json.ReadBack (widthJson entry.2).numbers := by
  have hne : s.propertyWidths.isEmpty = false := by
    simpa [IdMap.isEmpty] using List.ne_nil_of_mem hentry
  have hmem : ("propertyWidths", .ofMap widthJson s.propertyWidths) ∈ s.knownFields := by
    simp [knownFields, widthsField, hne]
  have hfield := Json.readBack_field _ h (List.mem_append_left s.extra.entries hmem)
  exact fun n hn => hfield n (Json.mem_numbers_ofMap.2 ⟨entry, hentry, hn⟩)

theorem ViewSettings.reads_toJson (hroom : 4 ≤ room) {s : ViewSettings} (hs : s.Storable room)
    (hnumbers : Json.ReadBack s.toJson.numbers) :
    ViewSettings.decoder.Reads room s.toJson s := by
  have htexts : ∀ texts : List String, (Decoder.list Decoder.string).Reads (room - 1)
      (.ofList .string texts) texts := fun texts =>
    Decoder.reads_list_self (by omega) fun s _ => Decoder.reads_string s
  have hlookup : ∀ name ∈ fieldNames, (s.knownFields ++ s.extra.entries).lookup name
      = s.knownFields.lookup name := fun name hname => hs.extra.lookup_append hname _
  have hfields : fields.decodeExtra.Reads room s.toJson (mk s.groupBy s.collapsedGroups
      s.hiddenProperties s.pinnedProperties s.propertyWidths s.cardSize s.dateProperty, s.extra) := by
    have hextra := Json.readBack_extra hnumbers
    rw [toJson_eq]
    refine Record.reads_decodeExtra (by omega) hasNames_fields (by decide) s.names_knownFields hs.extra
      hextra fun hnames => (((((((Record.Reads.map ?_ mk).field ?_ (by simp)).field ?_ (by simp)).field
        ?_ (by simp)).field ?_ (by simp)).field ?_ (by simp)).field ?_ (by simp))
    · refine Record.reads_text? hnames ((hlookup _ (by decide)).trans ?_)
      simp [knownFields, List.lookup_append, Record.lookup_field?, Record.lookup_listField?,
        lookup_widthsField]
    · refine Record.reads_listField hnames ((hlookup _ (by decide)).trans ?_) (htexts s.collapsedGroups) id
      simp [knownFields, List.lookup_append, Record.lookup_field?, Record.lookup_listField?,
        lookup_widthsField]
    · refine Record.reads_listField hnames ((hlookup _ (by decide)).trans ?_) (htexts s.hiddenProperties) id
      simp [knownFields, List.lookup_append, Record.lookup_field?, Record.lookup_listField?,
        lookup_widthsField]
    · refine Record.reads_listField hnames ((hlookup _ (by decide)).trans ?_) (htexts s.pinnedProperties) id
      simp [knownFields, List.lookup_append, Record.lookup_field?, Record.lookup_listField?,
        lookup_widthsField]
    · refine Record.reads_field hnames ?_
      rw [hlookup _ (by decide)]
      cases hempty : s.propertyWidths.isEmpty with
      | true =>
        simp only [knownFields, List.lookup_append, Record.lookup_field?, Record.lookup_listField?,
          lookup_widthsField, hempty]
        exact congrArg Except.ok (IdMap.eq_empty_of_isEmpty hempty).symm
      | false =>
        simp only [knownFields, List.lookup_append, Record.lookup_field?, Record.lookup_listField?,
          lookup_widthsField, hempty]
        exact Decoder.reads_map_self (by omega) fun entry hentry =>
          reads_width (hs.widths entry hentry) (readBack_width hnumbers hentry)
    · refine Record.reads_text? hnames ((hlookup _ (by decide)).trans ?_)
      simp [knownFields, List.lookup_append, Record.lookup_field?, Record.lookup_listField?,
        lookup_widthsField]
    · refine Record.reads_text? hnames ((hlookup _ (by decide)).trans ?_)
      simp [knownFields, List.lookup_append, Record.lookup_field?, Record.lookup_listField?,
        lookup_widthsField]
  unfold Decoder.Reads ViewSettings.decoder
  rw [Json.bind_ok hfields]
  rfl

theorem View.reads_toJson (hroom : 5 ≤ room) {v : View} (hv : v.Storable room)
    (hnumbers : Json.ReadBack v.toJson.numbers) : View.decoder.Reads room v.toJson v.stored := by
  have hfilters : Json.ReadBack (Json.ofList Filter.toJson v.filters).numbers :=
    Json.readBack_field "filters" hnumbers (by simp)
  have hsettings : Json.ReadBack v.settings.toJson.numbers :=
    Json.readBack_field "config" hnumbers (by simp)
  unfold View.decoder toJson
  refine Record.reads_decode (by omega) (by simp) fun hnames =>
    (((((((Record.Reads.map ?_ mk).field ?_ (by simp)).field ?_ (by simp)).field ?_ (by simp)).field
      ?_ (by simp)).field ?_ (by simp)).field ?_ (by simp))
  · exact Record.reads_present hnames (by simp) (Decoder.reads_string v.id)
  · exact Record.reads_present hnames (by simp [IdMap.lookup_entry]) (Decoder.reads_string v.name)
  · exact Record.reads_present hnames (by simp [IdMap.lookup_entry]) (reads_named v.type.lookup_name)
  · exact Record.reads_present hnames (by simp [IdMap.lookup_entry])
      (Decoder.reads_list_self (by omega) fun s _ => s.reads_toJson (by omega))
  · exact Record.reads_present hnames (by simp [IdMap.lookup_entry])
      (Decoder.reads_list (by omega) fun f hf => Filter.reads_toJson (by omega) (hv.filters f hf)
        (Json.readBack_item hfilters hf))
  · exact Record.reads_present hnames (by simp [IdMap.lookup_entry])
      (ViewSettings.reads_toJson (by omega) hv.settings hsettings)
  · have hsummaries : (Decoder.map (named Aggregation.table)).Reads (room - 1)
        (.ofMap (fun a => .string (Aggregation.name a)) v.summaries) v.summaries :=
      Decoder.reads_map_self (by omega) fun entry _ => reads_named entry.2.lookup_name
    exact Record.reads_present hnames (by simp [IdMap.lookup_entry]) hsummaries

/-! ### Documents -/

namespace Document

/-- A document that can be stored is read back as it is stored. -/
theorem reads_toJson {d : Document} (hd : d.Storable)
    (hnumbers : Json.ReadBack d.toJson.numbers) :
    Document.decoder.Reads Json.fullRoom d.toJson d.stored := by
  unfold Document.decoder toJson
  refine Record.reads_decode (by decide) (by simp) fun hnames =>
    (((Record.Reads.map ?_ mk).field ?_ (by simp)).field ?_ (by simp))
  · exact Record.reads_present hnames (by simp) (Decoder.reads_list (by decide) fun p hp =>
      Property.reads_toJson (by decide) (hd.properties p hp) (readBack_property hnumbers hp))
  · exact Record.reads_present hnames (by simp [IdMap.lookup_entry])
      (Decoder.reads_list (by decide) fun r hr =>
        Row.reads_toJson (by decide) (hd.rows r hr) (readBack_row hnumbers hr))
  · exact Record.reads_present hnames (by simp [IdMap.lookup_entry])
      (Decoder.reads_list (by decide) fun v hv =>
        View.reads_toJson (by decide) (hd.views v hv) (readBack_view hnumbers hv))

end Document

end Databook
