import Databook.Proofs.Document.RoundTrip
import Databook.Proofs.Json.Gives
import Databook.Proofs.Json.NumberText

/-!
# What every document keeps when it is stored

A double need not be read as it was written, so a document with doubles may come back changed, or
not at all. If it comes back, its properties have their ids, types and relations, and its rows have
their ids and cells for the same properties: `Document.sameShape_of_parse` asks nothing of the
doubles.
-/

namespace Databook

open Json (Decoder Record)

variable {room : Nat}

/-! ### Shapes -/

namespace Property

/-- What a property is, whatever its settings are and however it is shown. -/
structure Role where
  id : String
  type : PropertyType
  relation : Option Relation

def role (p : Property) : Role := ⟨p.id, p.type, p.relation?⟩

variable {p p' : Property}

theorem role_eq_iff :
    p'.role = p.role ↔ p'.id = p.id ∧ p'.type = p.type ∧ p'.relation? = p.relation? := by
  rw [role, role, Role.mk.injEq]

theorem isComputed_eq (p : Property) :
    p.isComputed = (p.type == .formula || p.type == .rollup || p.isBackRelation) := by
  obtain ⟨id, name, kind, formats, extra⟩ := p
  cases kind <;> rfl

theorem isBackRelation_of_role (h : p'.role = p.role) : p'.isBackRelation = p.isBackRelation := by
  rw [isBackRelation, (role_eq_iff.1 h).2.2, isBackRelation]

/-- The values of properties in one role are all computed or all stored. -/
theorem isComputed_of_role (h : p'.role = p.role) : p'.isComputed = p.isComputed := by
  rw [isComputed_eq, isComputed_eq, (role_eq_iff.1 h).2.1, isBackRelation_of_role h]

end Property

/-- The row with the properties that it has cells for. -/
def Row.filled (r : Row) : String × List String := (r.id, r.cells.keys)

namespace Document

/-- The properties of a document as far as they are told apart by their roles. -/
def roles (d : Document) : List Property.Role := d.properties.map (·.role)

/-- Have two documents properties in the same roles, and rows with cells for the same properties? -/
structure SameShape (d d' : Document) : Prop where
  roles : d'.roles = d.roles
  rows : d'.rows.map (·.filled) = d.rows.map (·.filled)

end Document

namespace Property

/-! ### Properties that come back -/

theorem type_of_kind {stored : StoredProperty} {k : PropertyKind} (h : stored.kind = .ok k) :
    k.type = stored.type := by
  unfold StoredProperty.kind at h
  cases htype : stored.type <;> simp only [htype] at h
  case relation =>
    split at h
    · cases h
    · split at h <;> cases h
      rfl
  case rollup | formula =>
    split at h <;> cases h
    rfl
  all_goals
    cases h
    rfl

theorem relation?_eq_none {p : Property} (h : p.type ≠ .relation) : p.relation? = none := by
  obtain ⟨id, name, kind, formats, extra⟩ := p
  cases kind <;> first | rfl | exact absurd rfl h

/-- A property that is put together again from its id, its type and its relation has its role. -/
theorem role_of_kind {p : Property} {stored : StoredProperty} {k : PropertyKind}
    {extra : IdMap Json} (hkind : stored.kind = .ok k) (hid : stored.id = p.id)
    (htype : stored.type = p.type) (hrelation : stored.relation = p.relation?.map Relation.toStored) :
    (mk stored.id stored.name k stored.formats extra).role = p.role := by
  have hk := (type_of_kind hkind).trans htype
  refine role_eq_iff.2 ⟨hid, hk, ?_⟩
  by_cases hp : p.type = .relation
  · obtain ⟨r, hr⟩ : ∃ r, p.relation? = some r := by
      obtain ⟨id, name, kind, formats, extra⟩ := p
      cases kind <;> first | exact ⟨_, rfl⟩ | cases hp
    have hstored : stored.kind = .ok (.relation r) := by
      unfold StoredProperty.kind
      simp only [htype, hp, hrelation, hr, Option.map_some, r.complete?_toStored]
    cases hkind.symm.trans hstored
    exact hr.symm
  · rw [relation?_eq_none hp]
    exact relation?_eq_none fun hrelation => hp (hk.symm.trans hrelation)

/-- Of the fields of a stored property three matter. -/
theorem gives_fields (hroom : 2 ≤ room) {p : Property} {fields : List (String × Json)}
    (hnames : (fields.map (·.1)).Nodup) (hid : fields.lookup "id" = some (.string p.id))
    (htype : fields.lookup "type" = some (.string p.type.name))
    (hrelation : fields.lookup "relationConfig" = p.relation?.map Relation.toJson) :
    StoredProperty.fields.Gives room fields fun stored =>
      stored.id = p.id ∧ stored.type = p.type ∧
        stored.relation = p.relation?.map Relation.toStored := by
  have hrequiredId : (Record.required "id" Decoder.string).Gives room fields (· = p.id) :=
    Record.gives_present hnames hid (Decoder.reads_string p.id).gives
  have hrequiredType :
      (Record.required "type" (named PropertyType.table)).Gives room fields (· = p.type) :=
    Record.gives_present hnames htype (reads_named p.type.lookup_name).gives
  have hnullable : (Record.nullable "relationConfig" StoredRelation.decoder).Gives room fields
      (· = p.relation?.map Relation.toStored) := by
    refine Record.gives_field hnames ?_
    rw [hrelation]
    cases p.relation? with
    | none =>
      rintro a ⟨⟩
      rfl
    | some relation =>
      exact (Decoder.reads_nullable Json.noConfusion (relation.reads_toJson hroom)).gives
  refine (((((((((hrequiredId.map ?_).field (Record.gives_true _) (by simp)).field hrequiredType
    (by simp)).field (Record.gives_true _) (by simp)).field (Record.gives_true _) (by simp)).field
    hnullable (by simp)).field (Record.gives_true _) (by simp)).field (Record.gives_true _)
    (by simp)).field (Record.gives_true _) (by simp))
  intro id hid _ _ type htype _ _ _ _ relation hrelation _ _ _ _ _ _
  exact ⟨hid, htype, hrelation⟩

theorem gives_toJson (hroom : 3 ≤ room) {p : Property} (hp : p.Storable room) :
    Property.decoder.Gives room p.toJson fun p' => p'.role = p.role := by
  have hknown : (([("id", .string p.id), ("name", .string p.name), ("type", .string p.type.name)] ++
      kindFields p.kind ++ Json.listField? "conditionalFormats" ConditionalFormat.toJson p.formats :
      List (String × Json)).map (·.1)).Sublist StoredProperty.fieldNames := by
    simp only [List.map_append]
    exact ((List.Sublist.refl ["id", "name", "type"]).append (names_kindFields p.kind)).append
      (Record.names_listField? _ _ _)
  have hnames := hp.extra.nodup (by decide) hknown
  have hfields : StoredProperty.fields.decodeExtra.Gives room p.toJson fun q =>
      q.1.id = p.id ∧ q.1.type = p.type ∧ q.1.relation = p.relation?.map Relation.toStored := by
    refine Record.gives_decodeExtra hnames fun hnames => gives_fields (by omega) hnames ?_ ?_ ?_
    · rw [Record.Extra.lookup_append hp.extra (by decide)]
      simp
    · rw [Record.Extra.lookup_append hp.extra (by decide)]
      simp [IdMap.lookup_entry]
    · rw [Record.Extra.lookup_append hp.extra (by decide)]
      simp [List.lookup_append, IdMap.lookup_entry, Record.lookup_listField?, lookup_relation]
  intro p' hp'
  obtain ⟨⟨stored, extra⟩, hstored, hp'⟩ := Json.exists_of_bind_ok hp'
  obtain ⟨hid, htype, hrelation⟩ := hfields _ hstored
  simp only at hp'
  split at hp'
  · next k hkind =>
    cases hp'
    exact role_of_kind hkind hid htype hrelation
  · cases hp'

end Property

/-! ### Rows and documents that come back -/

theorem Row.gives_toJson (r : Row) :
    Row.decoder.Gives room r.toJson fun r' => r'.filled = r.filled := by
  have hmap : (Decoder.map Cell.decoder).Gives (room - 1) r.cellsJson
      fun cells => cells.keys = r.cells.keys := Decoder.gives_map
  unfold Row.decoder toJson
  refine Record.gives_decode (by simp) fun hnames => ((((Record.Gives.map (Q := (· = r.id)) ?_
    ?_).field (Q := fun cells => cells.keys = r.cells.keys) ?_ (by simp)).field
    (Record.gives_true _) (by simp)).field (Record.gives_true _) (by simp))
  · exact Record.gives_present hnames (by simp) (Decoder.reads_string r.id).gives
  · intro id hid cells hcells _ _ _ _
    exact Prod.ext hid hcells
  · exact Record.gives_present hnames (by simp [IdMap.lookup_entry]) hmap

namespace Document

theorem gives_toJson {d : Document} (h : ∀ p ∈ d.properties, p.Storable (Json.fullRoom - 1 - 1)) :
    Document.decoder.Gives Json.fullRoom d.toJson d.SameShape := by
  unfold Document.decoder toJson
  refine Record.gives_decode (by simp) fun hnames => (((Record.Gives.map
    (Q := fun properties => properties.map (·.role) = d.roles) ?_ ?_).field
    (Q := fun rows => rows.map (·.filled) = d.rows.map (·.filled)) ?_ (by simp)).field
    (Record.gives_true _) (by simp))
  · exact Record.gives_present hnames (by simp)
      (Decoder.gives_list fun p hp => Property.gives_toJson (by decide) (h p hp))
  · intro properties hproperties rows hrows _ _
    exact ⟨hproperties, hrows⟩
  · exact Record.gives_present hnames (by simp [IdMap.lookup_entry])
      (Decoder.gives_list fun r _ => r.gives_toJson)

/-- A document that is read from the text of another one has its shape. -/
theorem sameShape_of_parse {d d' : Document}
    (hproperties : ∀ p ∈ d.properties, p.Storable (Json.fullRoom - 1 - 1)) (hfits : d.toJson.Fits)
    (h : parse d.toText = .ok d') : d.SameShape d' := by
  have hlegible : Json.Legible d.toJson.numbers := fun n hn => (hfits n hn).isLegible
  rw [parse_toText_eq hlegible] at h
  cases hdecode : Document.decoder Json.fullRoom d.toJson.draft with
  | error fault =>
    rw [hdecode] at h
    cases h
  | ok reloaded =>
    rw [hdecode] at h
    cases h
    exact gives_toJson hproperties _ hdecode

end Document

end Databook
