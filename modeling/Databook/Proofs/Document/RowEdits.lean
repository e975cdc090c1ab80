import Databook.Proofs.Document.Storable
import Databook.Proofs.Document.Lookup
import Mathlib.Data.List.Forall2

/-!
# Edits of rows

Edits that follow each other write cells, and add and delete rows; some of them fail. They make a
table in which the last write wins (`Document.afterEdits_lastWriteWins`): the rows from the start
and those that were added are there in this order, without the deleted ones, and each cell has the
value that was written into it last (`Row.LastWritten`).

The induction is on the edits. Its step is `Document.rows_perform_append`, which says what an edit
makes of the rows taken together with those that later edits add, so that the survivors of a run are
the same whether they are counted before or after its first edit.
-/

namespace Databook

open Calendar

/-- An edit of the rows of a document, with all that it needs. -/
inductive RowEdit where
  | setCell (row property : String) (value : Cell) (now : Instant)
  | addRow (id : String) (now : Instant)
  | deleteRow (id : String)

namespace RowEdit

/-- The rows that an edit adds, as they are at first. -/
def added : RowEdit → List Row
  | addRow id now => [⟨id, .empty, now, now⟩]
  | setCell .. | deleteRow _ => []

/-- Does an edit delete the row with an id? -/
def deletes (id : String) : RowEdit → Bool
  | deleteRow deleted => deleted == id
  | setCell .. | addRow .. => false

/-- The value that an edit writes into a cell. -/
def write? (row property : String) : RowEdit → Option Cell
  | setCell row' property' value _ =>
    if row' = row ∧ property' = property then some value else none
  | addRow .. | deleteRow _ => none

/-- The point in time at which an edit writes into a row. -/
def time? (row : String) : RowEdit → Option Instant
  | setCell row' _ _ now => if row' = row then some now else none
  | addRow .. | deleteRow _ => none

end RowEdit

/-- What the last edit that writes into a cell has written. -/
def lastWrite? (edits : List RowEdit) (row property : String) : Option Cell :=
  edits.reverse.findSome? (·.write? row property)

/-- The point in time at which a row was written into last. -/
def lastTime? (edits : List RowEdit) (row : String) : Option Instant :=
  edits.reverse.findSome? (·.time? row)

/-- What an edit says has the last word only if no later edit says something. -/
theorem findSome?_reverse_cons (f : α → Option β) (a : α) (as : List α) :
    (a :: as).reverse.findSome? f = (as.reverse.findSome? f).or (f a) := by
  rw [List.reverse_cons, List.findSome?_append, List.findSome?_singleton]

/-! ### Rows -/

namespace Row

/-- Is `r'` the row `r` after some edits? Each of its cells has the value that was written last, if
one was, and none is stored where that is null. -/
structure LastWritten (edits : List RowEdit) (r r' : Row) : Prop where
  id : r'.id = r.id
  createdAt : r'.createdAt = r.createdAt
  updatedAt : r'.updatedAt = (lastTime? edits r.id).getD r.updatedAt
  cell : ∀ property, r'.cell property = (lastWrite? edits r.id property).getD (r.cell property)
  stored : ∀ property, r'.cells.contains property
    = ((lastWrite? edits r.id property).map (!·.isNull)).getD (r.cells.contains property)

theorem cell_setCell (r : Row) (property : String) (value : Cell) (now : Instant)
    (other : String) : (r.setCell property value now).cell other
      = if other = property then value else r.cell other := by
  unfold cell setCell
  cases value with
  | null =>
    simp only [Cell.isNull, if_true, IdMap.get?_erase]
    split <;> rfl
  | _ =>
    simp only [Cell.isNull, Bool.false_eq_true, if_false, IdMap.get?_insert]
    split <;> rfl

theorem contains_setCell (r : Row) (property : String) (value : Cell) (now : Instant)
    (other : String) : (r.setCell property value now).cells.contains other
      = if other = property then !value.isNull else r.cells.contains other := by
  unfold IdMap.contains setCell
  cases hnull : value.isNull
  · simp only [Bool.false_eq_true, if_false, IdMap.get?_insert]
    split <;> rfl
  · simp only [if_true, IdMap.get?_erase]
    split <;> rfl

/-- The row after an edit that does not delete it. -/
def afterEdit (r : Row) : RowEdit → Row
  | .setCell row property value now => if row = r.id then r.setCell property value now else r
  | .addRow .. | .deleteRow _ => r

theorem id_afterEdit (r : Row) (e : RowEdit) : (r.afterEdit e).id = r.id := by
  unfold afterEdit
  split
  · split <;> rfl
  · rfl
  · rfl

theorem lastWritten_afterEdit (r : Row) (e : RowEdit) : LastWritten [e] r (r.afterEdit e) where
  id := r.id_afterEdit e
  createdAt := by
    unfold afterEdit
    split
    · split <;> rfl
    · rfl
    · rfl
  updatedAt := by
    cases e with
    | setCell row property value now =>
      simp only [afterEdit, lastTime?, List.reverse_singleton, List.findSome?_singleton,
        RowEdit.time?]
      split <;> rfl
    | _ => rfl
  cell other := by
    cases e with
    | setCell row property value now =>
      simp only [afterEdit, lastWrite?, List.reverse_singleton, List.findSome?_singleton,
        RowEdit.write?]
      grind [cell_setCell]
    | _ => rfl
  stored other := by
    cases e with
    | setCell row property value now =>
      simp only [afterEdit, lastWrite?, List.reverse_singleton, List.findSome?_singleton,
        RowEdit.write?]
      grind [contains_setCell]
    | _ => rfl

theorem LastWritten.refl (r : Row) : LastWritten [] r r :=
  ⟨rfl, rfl, rfl, fun _ => rfl, fun _ => rfl⟩

/-- What later edits write hides what an edit has written. -/
theorem LastWritten.cons {e : RowEdit} {edits : List RowEdit} {r r' : Row}
    (h : LastWritten edits (r.afterEdit e) r') : LastWritten (e :: edits) r r' := by
  have hfirst := r.lastWritten_afterEdit e
  refine ⟨h.id.trans hfirst.id, h.createdAt.trans hfirst.createdAt, ?_, fun property => ?_,
    fun property => ?_⟩
  · rw [h.updatedAt, hfirst.updatedAt, hfirst.id]
    simp only [lastTime?, findSome?_reverse_cons, List.reverse_nil, List.findSome?_nil,
      Option.none_or, Option.getD_or]
  · rw [h.cell, hfirst.cell, hfirst.id]
    simp only [lastWrite?, findSome?_reverse_cons, List.reverse_nil, List.findSome?_nil,
      Option.none_or, Option.getD_or]
  · rw [h.stored, hfirst.stored, hfirst.id]
    simp only [lastWrite?, findSome?_reverse_cons, List.reverse_nil, List.findSome?_nil,
      Option.none_or, Option.map_or, Option.getD_or]

end Row

namespace Document

/-! ### Items with keys of their own -/

theorem key_ne_of_notMem {key : α → String} {l : List α} {k : String} (h : k ∉ l.map key) :
    ∀ b ∈ l, k ≠ key b := fun b hb heq => h (List.mem_map.2 ⟨b, hb, heq.symm⟩)

/-- Changing the first item with a key that each item has for itself. -/
theorem modifyFirst_eq_map {key : α → String} {l : List α} (h : (l.map key).Nodup)
    (k : String) (f : α → α) :
    modifyFirst (key · == k) f l = l.map fun a => if k = key a then f a else a := by
  induction l with
  | nil => rfl
  | cons a l ih =>
    obtain ⟨ha, hl⟩ := List.nodup_cons.1 h
    rw [modifyFirst, List.map_cons]
    by_cases hk : k = key a
    · subst hk
      have hid : l.map (fun b => if key a = key b then f b else b) = l :=
        (List.map_congr_left fun b hb => if_neg (key_ne_of_notMem ha b hb)).trans (List.map_id l)
      rw [if_pos (by simp), if_pos rfl, hid]
    · rw [if_neg (by simpa using Ne.symm hk), if_neg hk, ih hl]

/-- The first item that passes a test is the one that is changed. -/
theorem find?_modifyFirst {p : α → Bool} {f : α → α} (hf : ∀ a, p a = true → p (f a) = true)
    (l : List α) : (modifyFirst p f l).find? p = (l.find? p).map f := by
  induction l with
  | nil => rfl
  | cons a l ih =>
    rw [modifyFirst, List.find?_cons]
    cases ha : p a with
    | true => rw [if_pos rfl, List.find?_cons, hf a ha, Option.map_some]
    | false => rw [if_neg Bool.false_ne_true, List.find?_cons, ha, ih]

theorem row?_modifyRow (d : Document) (id : String) {f : Row → Row} (hf : ∀ r, (f r).id = r.id) :
    (d.modifyRow id f).row? id = (d.row? id).map f :=
  find?_modifyFirst (fun r hr => by rwa [hf]) d.rows

theorem property?_replaceProperty_self (d : Document) (p : Property) :
    (d.replaceProperty p).property? p.id = (d.property? p.id).map fun _ => p := by
  unfold property? replaceProperty
  refine find?_modifyFirst (fun q _ => ?_) d.properties
  exact beq_self_eq_true p.id

/-- After a property has been put in place of another one and a cell of it has been written, both are
found. -/
theorem written_of_setCell {d d' : Document} {p : Property} {row : String} {c : Cell} {now : Instant}
    (h : (d.replaceProperty p).setCell row p.id c now = .ok d') :
    d'.property? p.id = some p ∧ ∃ r, d'.row? row = some r ∧ r.cell p.id = c := by
  obtain ⟨⟨found, hfound, -⟩, rfl⟩ := setCell_ok h
  have hp : (d.replaceProperty p).property? p.id = some p := by
    rw [property?_replaceProperty_self] at hfound ⊢
    obtain ⟨old, hold, -⟩ := Option.map_eq_some_iff.1 hfound
    rw [hold, Option.map_some]
  refine ⟨hp, ?_⟩
  cases hrow : (d.replaceProperty p).row? row with
  | none =>
    simp only [setCell, hp, hrow, Option.isNone_none, if_true] at h
    split at h <;> cases h
  | some r =>
    refine ⟨r.setCell p.id c now, ?_, by rw [Row.cell_setCell, if_pos rfl]⟩
    rw [row?_modifyRow (f := (·.setCell p.id c now)) _ row fun _ => rfl, hrow, Option.map_some]

theorem eraseP_eq_filter {key : α → String} {l : List α} (h : (l.map key).Nodup) (k : String) :
    l.eraseP (key · == k) = l.filter fun a => !(k == key a) := by
  induction l with
  | nil => rfl
  | cons a l ih =>
    obtain ⟨ha, hl⟩ := List.nodup_cons.1 h
    by_cases hk : k = key a
    · subst hk
      have hid : l.filter (fun b => !(key a == key b)) = l :=
        List.filter_eq_self.2 fun b hb => by simpa using key_ne_of_notMem ha b hb
      rw [List.eraseP_cons_of_pos (by simp), List.filter_cons_of_neg (by simp), hid]
    · rw [List.eraseP_cons_of_neg (by simpa using Ne.symm hk),
        List.filter_cons_of_pos (by simpa using hk), ih hl]

/-! ### Documents -/

/-- Make an edit of the rows. -/
def perform (d : Document) : RowEdit → Except Error Document
  | .setCell row property value now => d.setCell row property value now
  | .addRow id now => .ok (d.addRow id now)
  | .deleteRow id => (d.deleteRow id).map (·.2)

/-- The document after an edit; one that fails leaves it as it is. -/
def afterEdit (d : Document) (e : RowEdit) : Document :=
  match d.perform e with
  | .ok d' => d'
  | .error _ => d

def afterEdits (d : Document) (edits : List RowEdit) : Document := edits.foldl afterEdit d

/-- The edits that succeed when they are made in turn. -/
def performed (d : Document) : List RowEdit → List RowEdit
  | [] => []
  | e :: edits =>
    match d.perform e with
    | .ok d' => e :: d'.performed edits
    | .error _ => d.performed edits

/-- The rows that are in the document or are added by edits, but for those that are deleted. -/
def survivors (d : Document) (edits : List RowEdit) : List Row :=
  (d.rows ++ edits.flatMap (·.added)).filter fun r => !edits.any (·.deletes r.id)

/-- Is `d'` the document `d` after some edits that succeeded? Its rows are the ones that survive, in
their order, with what was written into them last. -/
structure Edited (d : Document) (edits : List RowEdit) (d' : Document) : Prop where
  properties : d'.properties = d.properties
  rows : List.Forall₂ (Row.LastWritten edits) (d.survivors edits) d'.rows
  distinct : (d'.rows.map (·.id)).Nodup
  views : d'.views = d.views

/-- The edits that fail, with their errors. -/
inductive Refused (d : Document) : RowEdit → Error → Prop
  | unknownProperty {row property : String} {value : Cell} {now : Instant}
      (h : property ∉ d.properties.map (·.id)) :
      Refused d (.setCell row property value now) (.propertyNotFound property)
  | computed {row : String} {p : Property} {value : Cell} {now : Instant}
      (hp : p ∈ d.properties) (hcomputed : p.isComputed = true) :
      Refused d (.setCell row p.id value now)
        (.invalidProperty p.name (.computedValues p.type.name))
  | unknownRow {row : String} {p : Property} {value : Cell} {now : Instant}
      (hp : p ∈ d.properties) (hstored : p.isComputed = false) (hrow : row ∉ d.rows.map (·.id)) :
      Refused d (.setCell row p.id value now) (.rowNotFound row)
  | notThere {id : String} (hrow : id ∉ d.rows.map (·.id)) :
      Refused d (.deleteRow id) (.rowNotFound id)

variable {d d' d'' : Document} {e : RowEdit} {edits : List RowEdit} {error : Error}

/-! ### Failing edits -/

theorem refused_of_perform (h : d.perform e = .error error) : d.Refused e error := by
  cases e with
  | setCell row property value now =>
    rw [perform, setCell] at h
    split at h
    · next hproperty =>
      cases h
      exact .unknownProperty (find?_key_eq_none_iff.1 hproperty)
    · next p hproperty =>
      have hp := List.mem_of_find?_eq_some hproperty
      obtain rfl : p.id = property := by simpa using List.find?_some hproperty
      split at h
      · next hcomputed =>
        cases h
        exact .computed hp hcomputed
      · next hstored =>
        split at h
        · next hrow =>
          cases h
          rw [Option.isNone_iff_eq_none] at hrow
          exact .unknownRow hp (by simpa using hstored) (find?_key_eq_none_iff.1 hrow)
        · cases h
  | addRow id now => cases h
  | deleteRow id =>
    rw [perform, deleteRow] at h
    split at h
    · next hrow =>
      cases h
      exact .notThere (find?_key_eq_none_iff.1 hrow)
    · cases h

theorem Refused.perform (hproperties : (d.properties.map (·.id)).Nodup) (h : d.Refused e error) :
    d.perform e = .error error := by
  have hfind : ∀ {p}, p ∈ d.properties → d.property? p.id = some p := fun hp =>
    (property?_eq_some_iff hproperties).2 ⟨hp, rfl⟩
  cases h with
  | unknownProperty h =>
    have hproperty := find?_key_eq_none_iff.2 h
    rw [Document.perform, setCell, property?, hproperty]
  | computed hp hcomputed =>
    rw [Document.perform, setCell, hfind hp]
    exact if_pos hcomputed
  | unknownRow hp hstored hrow =>
    rw [Document.perform, setCell, hfind hp]
    simp only [hstored, Bool.false_eq_true, if_false, row?, find?_key_eq_none_iff.2 hrow,
      Option.isNone_none, if_true]
  | notThere hrow =>
    rw [Document.perform, deleteRow, row?, find?_key_eq_none_iff.2 hrow]
    rfl

theorem afterEdit_of_error (h : d.perform e = .error error) : d.afterEdit e = d := by
  rw [afterEdit, h]

/-! ### Edits that succeed -/

/-- Only rows that are there are deleted or changed. -/
theorem untouched_of_perform (h : d.perform e = .ok d') {r : Row} (hr : r.id ∉ d.rows.map (·.id)) :
    e.deletes r.id = false ∧ r.afterEdit e = r := by
  have hnone := find?_key_eq_none_iff.2 hr
  cases e with
  | setCell row property value now =>
    refine ⟨rfl, if_neg ?_⟩
    rintro rfl
    rw [perform, setCell] at h
    split at h
    · cases h
    · split at h
      · cases h
      · rw [row?, hnone] at h
        cases h
  | addRow id now => exact ⟨rfl, rfl⟩
  | deleteRow id =>
    refine ⟨beq_eq_false_iff_ne.2 ?_, rfl⟩
    rintro rfl
    rw [perform, deleteRow, row?, hnone] at h
    cases h

/-- What an edit makes of a document. -/
theorem eq_of_perform (hrows : (d.rows.map (·.id)).Nodup) (h : d.perform e = .ok d') :
    d' = { d with rows :=
      (d.rows.filter fun r => !e.deletes r.id).map (·.afterEdit e) ++ e.added } := by
  cases e with
  | setCell row property value now =>
    obtain ⟨-, rfl⟩ := setCell_ok h
    have hkeep : (d.rows.filter fun r => !(RowEdit.setCell row property value now).deletes r.id)
        = d.rows := List.filter_eq_self.2 fun _ _ => rfl
    rw [modifyRow, modifyFirst_eq_map hrows, hkeep, RowEdit.added, List.append_nil]
    rfl
  | addRow id now =>
    cases h
    simp [addRow, RowEdit.deletes, RowEdit.added, Row.afterEdit]
  | deleteRow id =>
    rw [perform] at h
    cases hdelete : d.deleteRow id with
    | error error =>
      rw [hdelete] at h
      cases h
    | ok deleted =>
      obtain ⟨r, d₁⟩ := deleted
      rw [hdelete] at h
      obtain rfl : d₁ = d' := Except.ok.inj h
      rw [deleteRow_ok hdelete, eraseP_eq_filter hrows]
      simp [RowEdit.deletes, RowEdit.added, Row.afterEdit]

/-- An edit does the same to the rows if those that are added later are taken to be there before. -/
theorem rows_perform_append (h : d.perform e = .ok d') {later : List Row}
    (hnew : ((d.rows ++ (e.added ++ later)).map (·.id)).Nodup) : d'.rows ++ later
      = ((d.rows ++ (e.added ++ later)).filter fun r => !e.deletes r.id).map (·.afterEdit e) := by
  rw [List.map_append] at hnew
  obtain ⟨hrows, -, hdisjoint⟩ := List.nodup_append'.1 hnew
  have hnot : ∀ r ∈ e.added ++ later, e.deletes r.id = false ∧ r.afterEdit e = r := fun r hr =>
    untouched_of_perform h fun hid => hdisjoint hid (List.mem_map_of_mem hr)
  have hfilter : (e.added ++ later).filter (fun r => !e.deletes r.id) = e.added ++ later :=
    List.filter_eq_self.2 fun r hr => by rw [(hnot r hr).1, Bool.not_false]
  have hmap : (e.added ++ later).map (·.afterEdit e) = e.added ++ later :=
    (List.map_congr_left fun r hr => (hnot r hr).2).trans (List.map_id _)
  rw [eq_of_perform hrows h, List.filter_append, List.map_append, hfilter, hmap, List.append_assoc]

theorem flatMap_added_performed (d : Document) (edits : List RowEdit) :
    (d.performed edits).flatMap (·.added) = edits.flatMap (·.added) := by
  induction edits generalizing d with
  | nil => rfl
  | cons e edits ih =>
    rw [performed, List.flatMap_cons]
    split
    · rw [List.flatMap_cons, ih]
    · next herror =>
      -- no edit that adds a row fails
      cases refused_of_perform herror <;> exact ih d

theorem survivors_cons (h : d.perform e = .ok d')
    (hnew : ((d.rows ++ (e :: edits).flatMap (·.added)).map (·.id)).Nodup) :
    d'.survivors edits = (d.survivors (e :: edits)).map (·.afterEdit e) := by
  rw [List.flatMap_cons] at hnew
  rw [survivors, survivors, rows_perform_append h hnew, List.filter_map, List.filter_filter,
    List.flatMap_cons]
  refine congrArg _ (List.filter_congr fun r _ => ?_)
  rw [Function.comp_apply, Row.id_afterEdit, List.any_cons, Bool.not_or, Bool.and_comm]

/-- The ids of the rows and of the ones that are still to be added stay distinct. -/
theorem nodup_of_perform (h : d.perform e = .ok d')
    (hnew : ((d.rows ++ (e :: edits).flatMap (·.added)).map (·.id)).Nodup) :
    ((d'.rows ++ edits.flatMap (·.added)).map (·.id)).Nodup := by
  rw [List.flatMap_cons] at hnew
  rw [rows_perform_append h hnew, List.map_map]
  simp only [Function.comp_def, Row.id_afterEdit]
  exact hnew.sublist (.map _ List.filter_sublist)

theorem Edited.refl (hrows : (d.rows.map (·.id)).Nodup) : d.Edited [] d where
  properties := rfl
  rows := by
    have hall : d.survivors [] = d.rows := by simp [survivors]
    rw [hall]
    exact List.forall₂_same.2 fun r _ => .refl r
  distinct := hrows
  views := rfl

theorem Edited.cons (hperform : d.perform e = .ok d')
    (hnew : ((d.rows ++ (e :: edits).flatMap (·.added)).map (·.id)).Nodup)
    (h : d'.Edited edits d'') : d.Edited (e :: edits) d'' := by
  have hrows : (d.rows.map (·.id)).Nodup :=
    hnew.sublist (.map _ (List.sublist_append_left _ _))
  have heq := eq_of_perform hrows hperform
  refine ⟨h.properties.trans (by rw [heq]), ?_, h.distinct, h.views.trans (by rw [heq])⟩
  have hforall := h.rows
  rw [survivors_cons hperform hnew, List.forall₂_map_left_iff] at hforall
  exact hforall.imp fun r r' h => h.cons

theorem edited_afterEdits (hnew : ((d.rows ++ edits.flatMap (·.added)).map (·.id)).Nodup) :
    d.Edited (d.performed edits) (d.afterEdits edits) := by
  induction edits generalizing d with
  | nil =>
    rw [List.flatMap_nil, List.append_nil] at hnew
    exact .refl hnew
  | cons e edits ih =>
    rw [performed, afterEdits, List.foldl_cons]
    cases hperform : d.perform e with
    | error error =>
      rw [afterEdit_of_error hperform]
      refine ih (hnew.sublist (.map _ ?_))
      exact (List.Sublist.refl _).append (List.sublist_append_right _ _)
    | ok d' =>
      rw [afterEdit, hperform]
      refine .cons hperform ?_ (ih (nodup_of_perform hperform hnew))
      rw [List.flatMap_cons, flatMap_added_performed, ← List.flatMap_cons]
      exact hnew

theorem performed_append (d : Document) (earlier later : List RowEdit) :
    d.performed (earlier ++ later)
      = d.performed earlier ++ (d.afterEdits earlier).performed later := by
  induction earlier generalizing d with
  | nil => rfl
  | cons e earlier ih =>
    rw [List.cons_append, performed, performed, afterEdits, List.foldl_cons, afterEdit]
    cases d.perform e with
    | error error => exact ih d
    | ok d' => exact congrArg (e :: ·) (ih d')

/-- Edits of rows make a table in which the last write wins. The rows from the start and those that
were added stay in order, each with the values that were written last, until they are deleted. An
edit fails exactly if it is refused, and then it changes nothing. New rows have to have new ids. -/
theorem afterEdits_lastWriteWins (hproperties : (d.properties.map (·.id)).Nodup)
    (hnew : ((d.rows ++ edits.flatMap (·.added)).map (·.id)).Nodup) :
    d.Edited (d.performed edits) (d.afterEdits edits) ∧
    ∀ earlier e later, edits = earlier ++ e :: later → ∀ error,
      ((d.afterEdits earlier).perform e = .error error ↔ (d.afterEdits earlier).Refused e error) ∧
      ((d.afterEdits earlier).Refused e error →
        d.afterEdits (earlier ++ [e]) = d.afterEdits earlier ∧
        d.performed (earlier ++ [e]) = d.performed earlier) := by
  refine ⟨edited_afterEdits hnew, ?_⟩
  rintro earlier e later rfl error
  have hearlier : d.Edited (d.performed earlier) (d.afterEdits earlier) := by
    refine edited_afterEdits (hnew.sublist (.map _ ?_))
    rw [List.flatMap_append]
    exact (List.Sublist.refl _).append (List.sublist_append_left _ _)
  have hproperties' : ((d.afterEdits earlier).properties.map (·.id)).Nodup := by
    rwa [hearlier.properties]
  refine ⟨⟨refused_of_perform, fun h => h.perform hproperties'⟩, fun h => ?_⟩
  have herror := h.perform hproperties'
  constructor
  · rw [afterEdits, List.foldl_append]
    exact afterEdit_of_error herror
  · rw [performed_append, performed, herror]
    exact List.append_nil _

section Board

/-- Two tasks with notes, and a formula, which has no stored cells. -/
def board : Document where
  properties := [.fresh "t" "Title" .text, .fresh "n" "Note" .text,
    .fresh "f" "Length" (.formula "length(Note)")]
  rows := [⟨"a", .ofList [("t", .text "write")], .epoch, .epoch⟩,
    ⟨"b", .ofList [("t", .text "read")], .epoch, .epoch⟩]
  views := []

/-- One note is written twice and one title emptied, a task is added and one deleted between writes
to it. Three of the writes fail. -/
def boardEdits : List RowEdit :=
  [.setCell "a" "n" (.text "soon") .epoch, .setCell "b" "n" (.text "late") .epoch,
    .setCell "a" "f" (.text "4") .epoch, .setCell "a" "gone" .null .epoch, .addRow "c" .epoch,
    .deleteRow "b", .setCell "b" "n" (.text "never") .epoch,
    .setCell "c" "t" (.text "plan") .epoch, .setCell "a" "t" .null .epoch,
    .setCell "a" "n" (.text "now") .epoch]

theorem afterEdits_lastWriteWins_board :
    (board.properties.map (·.id)).Nodup ∧
    ((board.rows ++ boardEdits.flatMap (·.added)).map (·.id)).Nodup ∧
    board.Edited (board.performed boardEdits) (board.afterEdits boardEdits) ∧
    (board.survivors (board.performed boardEdits)).map (·.id) = ["a", "c"] ∧
    lastWrite? (board.performed boardEdits) "a" "n" = some (.text "now") ∧
    lastWrite? (board.performed boardEdits) "a" "t" = some .null ∧
    (board.afterEdits (boardEdits.take 2)).perform (.setCell "a" "f" (.text "4") .epoch)
      = .error (.invalidProperty "Length" (.computedValues "formula")) := by
  have hnew : ((board.rows ++ boardEdits.flatMap (·.added)).map (·.id)).Nodup := by decide
  have h := afterEdits_lastWriteWins (d := board) (by decide) hnew
  refine ⟨by decide, hnew, h.1, by decide, rfl, rfl, ?_⟩
  have hsame : (board.afterEdits (boardEdits.take 2)).properties = board.properties := rfl
  have hp : Property.fresh "f" "Length" (.formula "length(Note)") ∈
      (board.afterEdits (boardEdits.take 2)).properties := by
    rw [hsame]
    simp [board]
  exact (h.2 (boardEdits.take 2) _ (boardEdits.drop 3) rfl _).1.2 (.computed hp rfl)

end Board

end Document

end Databook
