import Databook.Proofs.Document.Codec

/-!
# Documents come back

A document that has been read, and then edited in any way, is read back from its text as an equal
document (`Document.parse_toText_of_edits`). Of the texts of doubles it is asked that they are read
as what they were written for; everything else that is written, integers and points in time among
it, is shown to come back.
-/

namespace Databook

open Json (Decoder Record)

/-! ### Numbers -/

namespace Json

/-- Do the integers of a value fit 64 bits, and are its doubles finite? -/
def Fits (j : Json) : Prop := ∀ n ∈ j.numbers, n.Fits

theorem fits_object {fields : List (String × Json)} (h : ∀ field ∈ fields, field.2.Fits) :
    (Json.object fields).Fits := by
  intro n hn
  obtain ⟨field, hfield, hn⟩ := mem_numbers_object.1 hn
  exact h field hfield n hn

theorem fits_ofList {toJson : α → Json} {items : List α} (h : ∀ a ∈ items, (toJson a).Fits) :
    (Json.ofList toJson items).Fits := by
  intro n hn
  obtain ⟨a, ha, hn⟩ := mem_numbers_ofList.1 hn
  exact h a ha n hn

theorem fits_ofMap {toJson : α → Json} {m : IdMap α}
    (h : ∀ entry ∈ m.entries, (toJson entry.2).Fits) : (Json.ofMap toJson m).Fits := by
  intro n hn
  obtain ⟨entry, hentry, hn⟩ := mem_numbers_ofMap.1 hn
  exact h entry hentry n hn

@[simp] theorem fits_string (s : String) : (Json.string s).Fits := by simp [Fits, numbers]

@[simp] theorem fits_bool (b : Bool) : (Json.bool b).Fits := by simp [Fits, numbers]

theorem fits_field? {own : String} {toJson : α → Json} {o : Option α}
    (h : ∀ a ∈ o, (toJson a).Fits) : ∀ field ∈ Json.field? own toJson o, field.2.Fits := by
  cases o with
  | none => simp [Json.field?]
  | some a =>
    intro field hfield
    obtain rfl := List.mem_singleton.1 hfield
    exact h a rfl

theorem fits_listField? {own : String} {toJson : α → Json} {items : List α}
    (h : ∀ a ∈ items, (toJson a).Fits) :
    ∀ field ∈ Json.listField? own toJson items, field.2.Fits := by
  intro field hfield
  unfold Json.listField? at hfield
  split at hfield
  · cases hfield
  · obtain rfl := List.mem_singleton.1 hfield
    exact fits_ofList h

mutual

/-- The numbers of values that are read fit. -/
theorem fits_of_settled {room : Nat} (j : Json) (h : Settled room j) : j.Fits := by
  cases j with
  | number n =>
    intro m hm
    obtain rfl := List.mem_singleton.1 hm
    exact h
  | array items => exact fitsItems_of_settled items h.2
  | object fields => exact fitsFields_of_settled fields h.2.2
  | null => simp [Fits, numbers]
  | bool b => exact fits_bool b
  | string s => exact fits_string s

theorem fitsItems_of_settled {room : Nat} (items : List Json) (h : SettledItems room items) :
    ∀ n ∈ numbersOfItems items, n.Fits := by
  intro n hn
  match items with
  | [] => cases hn
  | item :: items =>
    rcases List.mem_append.1 hn with hn | hn
    · exact fits_of_settled item h.1 n hn
    · exact fitsItems_of_settled items h.2 n hn

theorem fitsFields_of_settled {room : Nat} (fields : List (String × Json))
    (h : SettledFields room fields) :
    ∀ n ∈ numbersOfFields fields, n.Fits := by
  intro n hn
  match fields with
  | [] => cases hn
  | (name, value) :: fields =>
    rcases List.mem_append.1 hn with hn | hn
    · exact fits_of_settled value h.1 n hn
    · exact fitsFields_of_settled fields h.2 n hn

end

end Json

theorem Cell.fits_toJson (c : Cell) : c.toJson.Fits :=
  Json.fits_of_settled c.toJson (c.settled_toJson (Nat.le_refl 2))

theorem Json.fits_extra {names : List String} {room : Nat} {extra : IdMap Json}
    (h : Record.Extra names room extra) : ∀ field ∈ extraFields extra, field.2.Fits :=
  fun field hfield => fits_of_settled field.2 (h field hfield).2

theorem SelectOption.fits_toJson (o : SelectOption) : o.toJson.Fits :=
  Json.fits_object (by simp)

theorem NumberFormat.fits_toJson {f : NumberFormat} (hf : f.Storable) : f.toJson.Fits := by
  refine Json.fits_object ?_
  simp only [List.forall_mem_append]
  refine ⟨⟨⟨by simp, Json.fits_field? fun n hn i hi => ?_⟩, by simp⟩, Json.fits_field? (by simp)⟩
  have hlt := hf n hn
  obtain rfl := List.mem_singleton.1 hi
  unfold Json.Number.Fits Json.FitsInt64
  omega

theorem Relation.fits_toJson (r : Relation) : r.toJson.Fits := by
  refine Json.fits_object ?_
  simp only [List.forall_mem_append]
  exact ⟨by simp, Json.fits_field? (by simp)⟩

theorem Rollup.fits_toJson (r : Rollup) : r.toJson.Fits := Json.fits_object (by simp)

theorem CellStyle.fits_toJson {room : Nat} {s : CellStyle} (hs : s.Storable room) :
    s.toJson.Fits := by
  refine Json.fits_object ?_
  simp only [List.forall_mem_append]
  refine ⟨⟨⟨Json.fits_field? (by simp), Json.fits_field? (by simp)⟩, ?_⟩, Json.fits_extra hs⟩
  cases s.bold <;> simp

theorem ConditionalFormat.fits_toJson {room : Nat} {f : ConditionalFormat} (hf : f.Storable room) :
    f.toJson.Fits := by
  refine Json.fits_object ?_
  simp only [List.forall_mem_cons]
  exact ⟨Json.fits_string _, f.value.fits_toJson, CellStyle.fits_toJson hf.style, by simp⟩

theorem PropertyKind.fits_fields {k : PropertyKind} (hk : k.Storable) :
    ∀ field ∈ Property.kindFields k, field.2.Fits := by
  cases k with
  | number format =>
    refine Json.fits_field? fun f hf => NumberFormat.fits_toJson (hk f ?_)
    rw [Option.mem_def.1 hf]
  | select options =>
    simpa [Property.kindFields] using Json.fits_ofList fun o _ => SelectOption.fits_toJson o
  | multiSelect options =>
    simpa [Property.kindFields] using Json.fits_ofList fun o _ => SelectOption.fits_toJson o
  | relation relation => simpa [Property.kindFields] using relation.fits_toJson
  | rollup rollup => simpa [Property.kindFields] using rollup.fits_toJson
  | _ => simp [Property.kindFields]

theorem Property.fits_toJson {room : Nat} {p : Property} (hp : p.Storable room) :
    p.toJson.Fits := by
  refine Json.fits_object ?_
  simp only [List.forall_mem_append]
  exact ⟨⟨⟨by simp, PropertyKind.fits_fields hp.kind⟩,
    Json.fits_listField? fun f hf => ConditionalFormat.fits_toJson (hp.formats f hf)⟩,
    Json.fits_extra hp.extra⟩

theorem Row.fits_toJson (r : Row) : r.toJson.Fits := by
  have hcells : r.cellsJson.Fits := Json.fits_ofMap fun entry _ => entry.2.fits_toJson
  exact Json.fits_object (by simpa using hcells)

theorem SortKey.fits_toJson (s : SortKey) : s.toJson.Fits := Json.fits_object (by simp)

theorem Filter.fits_toJson (f : Filter) : f.toJson.Fits :=
  Json.fits_object (by simpa using f.value.fits_toJson)

theorem ViewSettings.fits_width (x : Float) : (widthJson x).Fits := by
  intro n hn
  unfold widthJson at hn
  split at hn
  · next hfinite =>
    obtain rfl := List.mem_singleton.1 hn
    exact hfinite
  · cases hn

theorem ViewSettings.fits_toJson {room : Nat} {s : ViewSettings} (hs : s.Storable room) :
    s.toJson.Fits := by
  refine Json.fits_object ?_
  simp only [List.forall_mem_append]
  refine ⟨⟨⟨⟨⟨⟨⟨Json.fits_field? (by simp), Json.fits_listField? (by simp)⟩,
    Json.fits_listField? (by simp)⟩, Json.fits_listField? (by simp)⟩, ?_⟩,
    Json.fits_field? (by simp)⟩, Json.fits_field? (by simp)⟩, Json.fits_extra hs.extra⟩
  split
  · simp
  · simpa using Json.fits_ofMap fun entry _ => fits_width entry.2

theorem View.fits_toJson {room : Nat} {v : View} (hv : v.Storable room) : v.toJson.Fits := by
  refine Json.fits_object ?_
  simp only [List.forall_mem_cons]
  exact ⟨Json.fits_string _, Json.fits_string _, Json.fits_string _,
    Json.fits_ofList fun s _ => s.fits_toJson, Json.fits_ofList fun f _ => f.fits_toJson,
    ViewSettings.fits_toJson hv.settings, Json.fits_ofMap fun _ _ => Json.fits_string _, by simp⟩

namespace Document

theorem fits_toJson {d : Document} (hd : d.Storable) : d.toJson.Fits := by
  refine Json.fits_object ?_
  simp only [List.forall_mem_cons]
  exact ⟨Json.fits_ofList fun p hp => Property.fits_toJson (hd.properties p hp),
    Json.fits_ofList fun r _ => r.fits_toJson,
    Json.fits_ofList fun v hv => View.fits_toJson (hd.views v hv), by simp⟩

/-! ### Documents -/

/-- Are the doubles that are written for a document read back? -/
def DoublesReadBack (d : Document) : Prop :=
  ∀ x, .double x ∈ d.toJson.numbers → (Json.Number.double x).ReadsBack

/-- Is the number an integer or this double? -/
def isIntegerOr (x : Float) : Json.Number → Bool
  | .integer _ => true
  | .double y => decide (y = x)

theorem doublesReadBack_of_all {d : Document} {x : Float} (hx : (Json.Number.double x).ReadsBack)
    (h : d.toJson.numbers.all (isIntegerOr x) = true) : d.DoublesReadBack := by
  intro y hy
  obtain rfl := of_decide_eq_true (List.all_eq_true.1 h _ hy)
  exact hx

/-- All numbers of a document that can be stored are read back if the doubles are. -/
theorem readBack_of_storable {d : Document} (hd : d.Storable) (h : d.DoublesReadBack) :
    Json.ReadBack d.toJson.numbers := by
  intro n hn
  cases n with
  | integer n =>
    have hfits : Json.FitsInt64 n := fits_toJson hd _ hn
    exact Json.Number.readsBack_integer hfits.1 hfits.2
  | double x => exact h x hn

/-- Reading the text of a document, if its numbers are written as numerals, is decoding it. -/
theorem parse_toText_eq {d : Document} (h : Json.Legible d.toJson.numbers) :
    parse d.toText = (decoder Json.fullRoom d.toJson.draft).mapError .json := by
  unfold parse toText Decoder.decode
  rw [Json.Draft.ofText_pretty h]
  simp only
  cases decoder Json.fullRoom d.toJson.draft <;> rfl

/-- A document that can be stored is read back from its text as it is stored. -/
theorem parse_toText {d : Document} (hd : d.Storable) (hdoubles : d.DoublesReadBack) :
    parse d.toText = .ok d.stored := by
  have hnumbers := readBack_of_storable hd hdoubles
  have hread := reads_toJson hd hnumbers
  unfold Decoder.Reads at hread
  rw [parse_toText_eq hnumbers.legible, hread]
  rfl

/-- Whatever has been read, and then edited, comes back from its text: reading the text succeeds and
gives an equal document. -/
theorem parse_toText_of_edits {s : String} {d₀ d : Document} (hparse : parse s = .ok d₀)
    (hedits : Relation.ReflTransGen Edit d₀ d) (hdoubles : d.DoublesReadBack) :
    ∃ d', parse d.toText = .ok d' ∧ (d' == d) = true := by
  have hd := storable_of_edits hedits (storable_of_parse hparse)
  exact ⟨d.stored, parse_toText hd hdoubles,
    stored_beq hd (readBack_of_storable hd hdoubles)⟩

/-- A text with a setting that is not known and one that belongs to another type. -/
def looseText : String :=
  "\x7b\"properties\":[\x7b\"id\":\"n\",\"name\":\"N\",\"type\":\"number\",\"icon\":1,\"options\":[]\x7d]\x7d"

/-- What is read from it. -/
def loose : Document := (parse looseText).toOption.getD default

/-- It with a number in a new row. -/
def looseEdited : Document :=
  ((loose.addRow "r" .epoch).setCell "r" "n" (.number 2.5) .epoch).toOption.getD default

theorem ok_of_isSome {x : Except ε α} {a : α} (h : x.toOption.isSome = true) :
    x = .ok (x.toOption.getD a) := by
  cases x with
  | error e => cases h
  | ok b => rfl

theorem edits_loose : Relation.ReflTransGen Edit loose looseEdited := by
  have hvalue : (Cell.number 2.5).IsFinite := rfl
  have hset : (loose.addRow "r" .epoch).setCell "r" "n" (.number 2.5) .epoch = .ok looseEdited :=
    ok_of_isSome (by decide +kernel)
  have hnow := Calendar.Instant.isValid_epoch
  exact .tail (.single (.addRow loose "r" hnow)) (.setCell hvalue hnow hset)

theorem readsBack_half : (Json.Number.double 2.5).ReadsBack :=
  ⟨⟨false, ['2'], ['5'], none⟩, by decide +kernel, by rfl⟩

theorem parse_toText_looseEdited :
    ∃ d', parse looseEdited.toText = .ok d' ∧ (d' == looseEdited) = true :=
  parse_toText_of_edits (s := looseText) (ok_of_isSome (by decide +kernel)) edits_loose
    (doublesReadBack_of_all readsBack_half (by decide +kernel))

end Document

end Databook
