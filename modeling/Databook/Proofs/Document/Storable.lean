import Databook.Document.Codec
import Databook.Display.Option
import Databook.Proofs.Calendar.Instant
import Databook.Proofs.Json.Ensures
import Databook.Proofs.Json.Scale
import Mathlib.Logic.Relation

/-!
# Documents that can be stored

Not every value of the type `Document` can be stored and read back: a number may be infinite, a
further setting may have the name of a known one. `Document.Storable` rules such values out. It
holds of every document that is read (`Document.storable_of_parse`), and the edits keep it.
-/

namespace Databook

open Json (Decoder Record)
open Calendar

/-! ### What can be stored -/

/-- Is the cell no infinity and not NaN? -/
def Cell.IsFinite : Cell → Prop
  | .number x => x.isFinite = true
  | .text _ | .bool _ | .list _ | .null => True

/-- Is the operator the one that its name stands for? -/
def FilterOperator.IsNamed (o : FilterOperator) : Prop := ofName o.name = o

/-- The names of the settings of a style that are known. -/
def CellStyle.fieldNames : List String := ["backgroundColor", "textColor", "bold"]

/-- Are the further settings ones that are read with this room for nesting? -/
def CellStyle.Storable (room : Nat) (s : CellStyle) : Prop :=
  Record.Extra fieldNames (room - 1) s.extra

structure ConditionalFormat.Storable (room : Nat) (f : ConditionalFormat) : Prop where
  operator : f.operator.IsNamed
  value : f.value.IsFinite
  style : f.style.Storable (room - 1)

/-- Does the number of decimals fit 32 bits? -/
def NumberFormat.Storable (f : NumberFormat) : Prop := ∀ n ∈ f.decimals, n < 2 ^ 32

def PropertyKind.Storable (k : PropertyKind) : Prop := ∀ f, k = .number (some f) → f.Storable

/-- The names of the settings of a property that are known, whatever its type. -/
def StoredProperty.fieldNames : List String :=
  ["id", "name", "type", "options", "numberFormat", "relationConfig", "rollupConfig",
    "formulaExpression", "conditionalFormats"]

structure Property.Storable (room : Nat) (p : Property) : Prop where
  kind : p.kind.Storable
  formats : ∀ f ∈ p.formats, f.Storable (room - 1 - 1)
  extra : Record.Extra StoredProperty.fieldNames (room - 1) p.extra

structure Row.Storable (r : Row) : Prop where
  cells : ∀ entry ∈ r.cells.entries, entry.2.IsFinite
  createdAt : r.createdAt.IsValid
  updatedAt : r.updatedAt.IsValid

structure Filter.Storable (f : Filter) : Prop where
  operator : f.operator.IsNamed
  value : f.value.IsFinite

/-- The names of the settings of a view that are known. -/
def ViewSettings.fieldNames : List String :=
  ["groupByPropertyId", "collapsedGroups", "hiddenProperties", "pinnedProperties",
    "propertyWidths", "cardSize", "datePropertyId"]

structure ViewSettings.Storable (room : Nat) (s : ViewSettings) : Prop where
  widths : ∀ entry ∈ s.propertyWidths.entries, entry.2.isFinite = true
  extra : Record.Extra fieldNames (room - 1) s.extra

structure View.Storable (room : Nat) (v : View) : Prop where
  filters : ∀ f ∈ v.filters, f.Storable
  settings : v.settings.Storable (room - 1)

/-- Is this a document that can be stored and read back? The properties and the views are two levels
deep in the text. -/
structure Document.Storable (d : Document) : Prop where
  properties : ∀ p ∈ d.properties, p.Storable (Json.fullRoom - 1 - 1)
  rows : ∀ r ∈ d.rows, r.Storable
  views : ∀ v ∈ d.views, v.Storable (Json.fullRoom - 1 - 1)

/-! ### What is read can be stored -/

section Read

variable {room : Nat}

theorem Cell.ensures_decoder : Cell.decoder.Ensures room Cell.IsFinite := by
  refine Decoder.ensures_comp fun d j hj => ?_
  cases j with
  | number n => exact Json.isFinite_of_any hj
  | _ => trivial

/-- The operator of a name is named. -/
theorem FilterOperator.isNamed_ofName (name : String) : (ofName name).IsNamed := by
  unfold IsNamed ofName
  cases h : table.lookup name with
  | none =>
    rw [Option.getD_none, FilterOperator.name, h]
    rfl
  | some o =>
    have hmem := (IdMap.lookup_eq_some_iff (by decide)).1 h
    have hnames : ∀ entry ∈ table, entry.2.name = entry.1 := by decide
    rw [Option.getD_some, hnames _ hmem, h]
    rfl

theorem FilterOperator.ensures_decoder : FilterOperator.decoder.Ensures room IsNamed :=
  Decoder.ensures_comp fun _ name _ => isNamed_ofName name

theorem CellStyle.hasNames_fields : fields.HasNames fieldNames :=
  ((Record.hasNames_field.map _).field _ _ _).field _ _ _

theorem CellStyle.ensures_fields : fields.Ensures room fun f => ∀ extra, (f extra).extra = extra := by
  refine (((Record.ensures_nullable (Decoder.ensures_true _)).map ?_).seq
    (Record.ensures_nullable (Decoder.ensures_true _))).seq
    (Record.ensures_optional (Decoder.ensures_true _) trivial)
  intros
  rfl

theorem CellStyle.ensures_decoder : CellStyle.decoder.Ensures room (CellStyle.Storable room) := by
  intro d s h
  obtain ⟨⟨style, extra⟩, hfields, h⟩ := Json.exists_of_bind_ok h
  cases h
  obtain ⟨hstyle, hextra⟩ := ensures_fields.decodeExtra hasNames_fields d _ hfields
  rw [CellStyle.Storable, hstyle]
  exact hextra

theorem ConditionalFormat.ensures_decoder :
    ConditionalFormat.decoder.Ensures room (ConditionalFormat.Storable room) := by
  refine ((((Record.ensures_required FilterOperator.ensures_decoder).map ?_).seq
    (Record.ensures_optional Cell.ensures_decoder (by trivial))).seq
    (Record.ensures_required CellStyle.ensures_decoder)).decode
  intro operator hoperator value hvalue style hstyle
  exact ⟨hoperator, hvalue, hstyle⟩

theorem NumberFormat.ensures_decoder : NumberFormat.decoder.Ensures room Storable := by
  refine (((((Record.ensures_optional (Decoder.ensures_true _) trivial).map ?_).seq
    (Record.ensures_nullable Decoder.ensures_nat32)).seq
    (Record.ensures_optional (Decoder.ensures_true _) trivial)).seq
    (Record.ensures_nullable (Decoder.ensures_true _))).decode
  intro _ _ decimals hdecimals _ _ _ _
  exact hdecimals

theorem StoredProperty.hasNames_fields : fields.HasNames fieldNames :=
  ((((((((Record.hasNames_field.map _).field _ _ _).field _ _ _).field _ _ _).field _ _ _).field
    _ _ _).field _ _ _).field _ _ _).field _ _ _

theorem StoredProperty.ensures_fields :
    fields.Ensures room fun p => (∀ f ∈ p.numberFormat, f.Storable) ∧
      ∀ f ∈ p.formats, f.Storable (room - 1) := by
  refine (((((((((Record.ensures_required (Decoder.ensures_true _)).map ?_).seq
    (Record.ensures_required (Decoder.ensures_true _))).seq
    (Record.ensures_required (Decoder.ensures_true _))).seq
    (Record.ensures_nullable (Decoder.ensures_true _))).seq
    (Record.ensures_nullable NumberFormat.ensures_decoder)).seq
    (Record.ensures_nullable (Decoder.ensures_true _))).seq
    (Record.ensures_nullable (Decoder.ensures_true _))).seq
    (Record.ensures_nullable (Decoder.ensures_true _))).seq
    (Record.ensures_optional (Decoder.ensures_list ConditionalFormat.ensures_decoder) (by simp))
  intro _ _ _ _ _ _ _ _ _ hnumberFormat _ _ _ _ _ _ _ hformats
  exact ⟨hnumberFormat, hformats⟩

/-- A property takes over its setting from the stored one. -/
theorem StoredProperty.storable_of_kind {p : StoredProperty} {k : PropertyKind}
    (h : p.kind = .ok k) (hp : ∀ f ∈ p.numberFormat, f.Storable) : k.Storable := by
  intro f hf
  subst hf
  unfold kind at h
  cases htype : p.type with
  | number =>
    simp only [htype, Except.ok.injEq, PropertyKind.number.injEq] at h
    exact hp f h
  | relation =>
    simp only [htype] at h
    split at h
    · cases h
    · split at h <;> cases h
  | rollup =>
    simp only [htype] at h
    split at h <;> cases h
  | formula =>
    simp only [htype] at h
    split at h <;> cases h
  | _ =>
    simp only [htype] at h
    cases h

theorem Property.ensures_decoder : Property.decoder.Ensures room (Property.Storable room) := by
  intro d p h
  obtain ⟨⟨stored, extra⟩, hfields, h⟩ := Json.exists_of_bind_ok h
  obtain ⟨⟨hnumberFormat, hformats⟩, hextra⟩ :=
    StoredProperty.ensures_fields.decodeExtra StoredProperty.hasNames_fields d _ hfields
  simp only at h
  split at h
  · next kind hkind =>
    cases h
    exact ⟨StoredProperty.storable_of_kind hkind hnumberFormat, hformats, hextra⟩
  · cases h

theorem Calendar.Instant.ensures_decoder : Instant.decoder.Ensures room Instant.IsValid := by
  intro d t h
  obtain ⟨s, -, h⟩ := Json.exists_of_bind_ok h
  split at h
  · next hread =>
    cases h
    exact Instant.isValid_of_read? hread
  · cases h

theorem Row.ensures_decoder : Row.decoder.Ensures room Storable := by
  refine (((((Record.ensures_required (Decoder.ensures_true _)).map ?_).seq
    (Record.ensures_optional (Decoder.ensures_map Cell.ensures_decoder) (by simp [IdMap.empty]))).seq
    (Record.ensures_optional Instant.ensures_decoder Instant.isValid_epoch)).seq
    (Record.ensures_optional Instant.ensures_decoder Instant.isValid_epoch)).decode
  intro _ _ cells hcells createdAt hcreatedAt updatedAt hupdatedAt
  exact ⟨hcells, hcreatedAt, hupdatedAt⟩

theorem Filter.ensures_decoder : Filter.decoder.Ensures room Storable := by
  refine ((((Record.ensures_required (Decoder.ensures_true _)).map ?_).seq
    (Record.ensures_required FilterOperator.ensures_decoder)).seq
    (Record.ensures_optional Cell.ensures_decoder (by trivial))).decode
  intro _ _ operator hoperator value hvalue
  exact ⟨hoperator, hvalue⟩

theorem ViewSettings.hasNames_fields : fields.HasNames fieldNames :=
  ((((((Record.hasNames_field.map _).field _ _ _).field _ _ _).field _ _ _).field _ _ _).field
    _ _ _).field _ _ _

theorem ViewSettings.ensures_fields :
    fields.Ensures room fun f => ∀ extra, (f extra).extra = extra ∧
      ∀ entry ∈ (f extra).propertyWidths.entries, entry.2.isFinite = true := by
  refine (((((((Record.ensures_nullable (Decoder.ensures_true _)).map ?_).seq
    (Record.ensures_optional (Decoder.ensures_true _) trivial)).seq
    (Record.ensures_optional (Decoder.ensures_true _) trivial)).seq
    (Record.ensures_optional (Decoder.ensures_true _) trivial)).seq
    (Record.ensures_optional (Decoder.ensures_map Decoder.ensures_float) (by simp [IdMap.empty]))).seq
    (Record.ensures_nullable (Decoder.ensures_true _))).seq
    (Record.ensures_nullable (Decoder.ensures_true _))
  intro _ _ _ _ _ _ _ _ widths hwidths _ _ _ _ _
  exact ⟨rfl, hwidths⟩

theorem ViewSettings.ensures_decoder :
    ViewSettings.decoder.Ensures room (ViewSettings.Storable room) := by
  intro d s h
  obtain ⟨⟨settings, extra⟩, hfields, h⟩ := Json.exists_of_bind_ok h
  cases h
  obtain ⟨hsettings, hextra⟩ := ensures_fields.decodeExtra hasNames_fields d _ hfields
  obtain ⟨heq, hwidths⟩ := hsettings extra
  exact ⟨hwidths, heq.symm ▸ hextra⟩

theorem ViewSettings.storable_none : none.Storable room where
  widths := by simp [none, IdMap.empty]
  extra := by simp [none, IdMap.empty, Record.Extra]

theorem View.ensures_decoder : View.decoder.Ensures room (View.Storable room) := by
  refine ((((((((Record.ensures_required (Decoder.ensures_true _)).map ?_).seq
    (Record.ensures_required (Decoder.ensures_true _))).seq
    (Record.ensures_optional (Decoder.ensures_true _) trivial)).seq
    (Record.ensures_optional (Decoder.ensures_true _) trivial)).seq
    (Record.ensures_optional (Decoder.ensures_list Filter.ensures_decoder) (by simp))).seq
    (Record.ensures_optional ViewSettings.ensures_decoder ViewSettings.storable_none)).seq
    (Record.ensures_optional (Decoder.ensures_true _) trivial)).decode
  intro _ _ _ _ _ _ _ _ filters hfilters settings hsettings _ _
  exact ⟨hfilters, hsettings⟩

end Read

namespace Document

theorem ensures_decoder : Document.decoder.Ensures Json.fullRoom Storable := by
  refine ((((Record.ensures_required (Decoder.ensures_list Property.ensures_decoder)).map ?_).seq
    (Record.ensures_optional (Decoder.ensures_list Row.ensures_decoder) (by simp))).seq
    (Record.ensures_optional (Decoder.ensures_list View.ensures_decoder) (by simp))).decode
  intro properties hproperties rows hrows views hviews
  exact ⟨hproperties, hrows, hviews⟩

/-- Every document that is read can be stored. -/
theorem storable_of_parse {s : String} {d : Document} (h : parse s = .ok d) : d.Storable := by
  unfold parse at h
  cases hdecode : Decoder.decode decoder s with
  | error fault =>
    rw [hdecode] at h
    cases h
  | ok d =>
    rw [hdecode] at h
    cases h
    exact ensures_decoder.of_decode hdecode

/-! ### Edits -/

/-- The edits of a document, at points in time that there are. Only finite numbers are written; what
is entered for a property may be anything. -/
inductive Edit : Document → Document → Prop
  | setCell {d d' : Document} {row property : String} {value : Cell} {now : Instant}
      (hvalue : value.IsFinite) (hnow : now.IsValid)
      (h : d.setCell row property value now = .ok d') : Edit d d'
  | acceptInput {d : Document} {before after : List Property} {p : Property}
      (freshId : Nat → String) (input : Cell) (h : d.properties = before ++ p :: after) :
      Edit d { d with properties := before ++ (p.acceptInput freshId input).2 :: after }
  | addRow (d : Document) (id : String) {now : Instant} (hnow : now.IsValid) :
      Edit d (d.addRow id now)
  | deleteRow {d d' : Document} {id : String} {row : Row} (h : d.deleteRow id = .ok (row, d')) :
      Edit d d'

theorem mem_modifyFirst {p : α → Bool} {f : α → α} {as : List α} {b : α}
    (h : b ∈ modifyFirst p f as) : b ∈ as ∨ ∃ a ∈ as, f a = b := by
  induction as with
  | nil => exact .inl h
  | cons a as ih =>
    unfold modifyFirst at h
    split at h
    · rcases List.mem_cons.1 h with rfl | h
      · exact .inr ⟨a, List.mem_cons_self, rfl⟩
      · exact .inl (List.mem_cons_of_mem _ h)
    · rcases List.mem_cons.1 h with rfl | h
      · exact .inl List.mem_cons_self
      · rcases ih h with h | ⟨a', ha', h⟩
        · exact .inl (List.mem_cons_of_mem _ h)
        · exact .inr ⟨a', List.mem_cons_of_mem _ ha', h⟩

end Document

theorem Property.storable_fresh {room : Nat} {id name : String} {kind : PropertyKind}
    (hkind : kind.Storable) : (Property.fresh id name kind).Storable room where
  kind := hkind
  formats _ hf := by cases hf
  extra := by simp [fresh, IdMap.empty, Record.Extra]

theorem Row.Storable.setCell {r : Row} (h : r.Storable) (property : String) {value : Cell}
    (hvalue : value.IsFinite) {now : Instant} (hnow : now.IsValid) :
    (r.setCell property value now).Storable := by
  refine ⟨fun entry hentry => ?_, h.createdAt, hnow⟩
  unfold Row.setCell at hentry
  simp only at hentry
  split at hentry
  · exact h.cells entry (List.mem_filter.1 hentry).1
  · rcases IdMap.mem_of_mem_entries_insert hentry with rfl | hentry
    · exact hvalue
    · exact h.cells entry hentry

theorem Property.Storable.acceptInput {room : Nat} {p : Property} (h : p.Storable room)
    (freshId : Nat → String) (input : Cell) : (p.acceptInput freshId input).2.Storable room := by
  have hselect : ∀ {k : PropertyKind}, (∀ f, k ≠ .number f) →
      Property.Storable room { p with kind := k } := fun hk =>
    ⟨fun f hf => absurd hf (hk _), h.formats, h.extra⟩
  unfold Property.acceptInput
  split
  · exact hselect (by simp)
  · exact hselect (by simp)
  · split
    · exact h
    · exact hselect (by simp)
  · exact h

namespace Document

/-- A cell is written only for a property that is not computed. -/
theorem setCell_ok {d d' : Document} {row property : String} {value : Cell} {now : Instant}
    (h : d.setCell row property value now = .ok d') :
    (∃ p, d.property? property = some p ∧ p.isComputed = false) ∧
      d' = d.modifyRow row (·.setCell property value now) := by
  unfold Document.setCell at h
  split at h
  · cases h
  · next p hp =>
    split at h
    · cases h
    · next hstored =>
      split at h
      · cases h
      · cases h
        exact ⟨⟨p, hp, Bool.not_eq_true _ ▸ hstored⟩, rfl⟩

theorem deleteRow_ok {d d' : Document} {id : String} {row : Row} (h : d.deleteRow id = .ok (row, d')) :
    d' = { d with rows := d.rows.eraseP (·.id == id) } := by
  unfold Document.deleteRow at h
  split at h
  · cases h
  · cases h
    rfl

/-- An edit keeps that a document can be stored. -/
theorem Edit.storable {d d' : Document} (h : Edit d d') (hd : d.Storable) : d'.Storable := by
  cases h with
  | @setCell _ row property value now hvalue hnow h =>
    obtain ⟨-, rfl⟩ := setCell_ok h
    refine ⟨hd.properties, fun r hr => ?_, hd.views⟩
    rcases mem_modifyFirst hr with hr | ⟨old, hold, rfl⟩
    · exact hd.rows r hr
    · exact (hd.rows old hold).setCell property hvalue hnow
  | @acceptInput before after p freshId input h =>
    have hproperties := hd.properties
    rw [h] at hproperties
    refine ⟨fun q hq => ?_, hd.rows, hd.views⟩
    rcases List.mem_append.1 hq with hq | hq
    · exact hproperties q (List.mem_append_left _ hq)
    · rcases List.mem_cons.1 hq with rfl | hq
      · exact (hproperties p (by simp)).acceptInput freshId input
      · exact hproperties q (by simp [hq])
  | addRow id hnow =>
    refine ⟨hd.properties, fun r hr => ?_, hd.views⟩
    rcases List.mem_append.1 hr with hr | hr
    · exact hd.rows r hr
    · obtain rfl := List.mem_singleton.1 hr
      exact ⟨by simp [IdMap.empty], hnow, hnow⟩
  | @deleteRow _ id row h =>
    obtain rfl := deleteRow_ok h
    exact ⟨hd.properties, fun r hr => hd.rows r (List.mem_of_mem_eraseP hr), hd.views⟩

theorem storable_of_edits {d d' : Document} (h : Relation.ReflTransGen Edit d d')
    (hd : d.Storable) : d'.Storable := by
  induction h with
  | refl => exact hd
  | tail _ hedit ih => exact hedit.storable ih

end Document

end Databook
