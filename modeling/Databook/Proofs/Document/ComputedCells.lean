import Databook.Display.Option
import Databook.Proofs.Columns.BackLink
import Databook.Proofs.Document.Lookup
import Mathlib.Data.Set.Basic

/-!
# Computed properties have no stored cells

The values of formulas, rollups and back relations are computed, so no row should have a stored cell
for one of them. `Document.StoresInputs` says so, with exceptions. The edits of a document keep it
(`StoresInputs.apply`), since `Document.setCell` refuses computed properties, and so does storing the
document. Relinking writes to a property without such a test: it keeps what it finds only if the
property is not computed, or excepted (`StoresInputs.relink`).
-/

namespace Databook

open Calendar

/-! ### Properties and rows -/

/-- Changing an item of a list in a way that cannot be told. -/
theorem map_modify_of_eq {f : α → α} {g : α → β} (h : ∀ a, g (f a) = g a) (place : Nat)
    (as : List α) : (as.modify place f).map g = as.map g := by
  induction as generalizing place with
  | nil => simp
  | cons a as ih =>
    cases place with
    | zero => simp [h]
    | succ place => simp [ih]

theorem forall_mem_modify {f : α → α} {P : α → Prop} (hf : ∀ a, P a → P (f a)) (place : Nat)
    {as : List α} (h : ∀ a ∈ as, P a) : ∀ a ∈ as.modify place f, P a := by
  induction as generalizing place with
  | nil => simp
  | cons a as ih =>
    obtain ⟨ha, has⟩ := List.forall_mem_cons.1 h
    cases place with
    | zero => exact List.forall_mem_cons.2 ⟨hf a ha, has⟩
    | succ place => exact List.forall_mem_cons.2 ⟨ha, ih place has⟩

/-- Of the relations the back relations are computed. -/
theorem Property.isBackRelation_of_isComputed {p : Property} (hrelation : p.relation?.isSome = true)
    (h : p.isComputed = true) : p.isBackRelation = true := by
  obtain ⟨id, name, kind, formats, extra⟩ := p
  cases kind with
  | relation r => exact h
  | _ => cases hrelation

/-- Entering a value may add options to a property, and leaves it in its role. -/
theorem Property.role_acceptInput (p : Property) (freshId : Nat → String) (input : Cell) :
    (p.acceptInput freshId input).2.role = p.role := by
  obtain ⟨id, name, kind, formats, extra⟩ := p
  unfold acceptInput
  split
  · next heq =>
    cases heq
    rfl
  · next heq =>
    cases heq
    rfl
  · next heq =>
    cases heq
    split <;> rfl
  · rfl

theorem Row.get?_setCell_of_ne (r : Row) {property other : String}
    (h : other ≠ property) (value : Cell) (now : Instant) :
    (r.setCell property value now).cells.get? other = r.cells.get? other := by
  unfold Row.setCell
  simp only
  split
  · rw [IdMap.get?_erase, if_neg h]
  · rw [IdMap.get?_insert, if_neg h]

namespace Document

variable {d d' : Document} {except : Set String}

section Roles

variable (h : d'.roles = d.roles)
include h

theorem ids_of_roles : d'.properties.map (·.id) = d.properties.map (·.id) := by
  have hids : ∀ d : Document, d.properties.map (·.id) = d.roles.map (·.id) := fun d => by
    rw [roles, List.map_map]
    rfl
  rw [hids, hids, h]

theorem exists_mem_of_roles {p' : Property} (hp : p' ∈ d'.properties) :
    ∃ p ∈ d.properties, p'.role = p.role := by
  have hmem : p'.role ∈ d.roles := h ▸ List.mem_map_of_mem hp
  obtain ⟨p, hp, hrole⟩ := List.mem_map.1 hmem
  exact ⟨p, hp, hrole.symm⟩

theorem exists_property?_of_roles {id : String} {p' : Property} (hp : d'.property? id = some p') :
    ∃ p, d.property? id = some p ∧ p'.role = p.role := by
  have hfind : ∀ d : Document, d.roles.find? (·.id == id) = (d.property? id).map (·.role) :=
    fun d => List.find?_map
  have hrole : (d.property? id).map (·.role) = some p'.role := by
    rw [← hfind, ← h, hfind, hp]
    rfl
  obtain ⟨p, hp, hrole⟩ := Option.map_eq_some_iff.1 hrole
  exact ⟨p, hp, hrole.symm⟩

/-- Back relations keep the place where their links are stored. -/
theorem linkSource_of_roles {property page forward : String}
    (hsource : d'.linkSource property = .ok (page, forward)) :
    d.linkSource property = .ok (page, forward) := by
  obtain ⟨p', hp', hrelation⟩ := property?_of_linkSource hsource
  obtain ⟨p, hp, hrole⟩ := exists_property?_of_roles h hp'
  rw [(Property.role_eq_iff.1 hrole).2.2] at hrelation
  rw [linkSource, hp]
  simp only [hrelation]

end Roles

/-! ### Documents without cells for computed properties -/

/-- Has every property its own id, and has no row a cell for a computed property that is not
excepted? -/
structure StoresInputs (except : Set String) (d : Document) : Prop where
  distinct : (d.properties.map (·.id)).Nodup
  blank : ∀ p ∈ d.properties, p.isComputed = true → p.id ∉ except →
    ∀ r ∈ d.rows, r.cells.get? p.id = none

theorem StoresInputs.mono {except' : Set String} (h : d.StoresInputs except)
    (hle : except ⊆ except') : d.StoresInputs except' :=
  ⟨h.distinct, fun p hp hcomputed hp' => h.blank p hp hcomputed fun hid => hp' (hle hid)⟩

/-- With the properties in their roles, only new cells have to be looked at. -/
theorem StoresInputs.of_roles (h : d.StoresInputs except) (hroles : d'.roles = d.roles)
    (hcells : ∀ p ∈ d.properties, p.isComputed = true → p.id ∉ except →
      (∀ r ∈ d.rows, r.cells.get? p.id = none) → ∀ r ∈ d'.rows, r.cells.get? p.id = none) :
    d'.StoresInputs except where
  distinct := by
    rw [ids_of_roles hroles]
    exact h.distinct
  blank p' hp' hcomputed hexcept := by
    obtain ⟨p, hp, hrole⟩ := exists_mem_of_roles hroles hp'
    rw [Property.isComputed_of_role hrole] at hcomputed
    rw [(Property.role_eq_iff.1 hrole).1] at hexcept ⊢
    exact hcells p hp hcomputed hexcept (h.blank p hp hcomputed hexcept)

theorem SameShape.symm (h : d.SameShape d') : d'.SameShape d := ⟨h.roles.symm, h.rows.symm⟩

/-- Each row has a counterpart with the same cells filled in. -/
theorem SameShape.exists_row (h : d.SameShape d') {r' : Row} (hr' : r' ∈ d'.rows) :
    ∃ r ∈ d.rows, ∀ id, r'.cells.get? id = none ↔ r.cells.get? id = none := by
  have hmem : r'.filled ∈ d.rows.map (·.filled) := h.rows ▸ List.mem_map_of_mem hr'
  obtain ⟨r, hr, hfilled⟩ := List.mem_map.1 hmem
  have hkeys : r.cells.keys = r'.cells.keys := congrArg Prod.snd hfilled
  exact ⟨r, hr, fun id => by rw [IdMap.get?_eq_none_iff, IdMap.get?_eq_none_iff, hkeys]⟩

/-- A document that is loaded again stores inputs if the saved one does. -/
theorem StoresInputs.of_sameShape (h : d.StoresInputs except) (hshape : d.SameShape d') :
    d'.StoresInputs except := by
  refine h.of_roles hshape.roles fun p _ _ _ hblank r' hr' => ?_
  obtain ⟨r, hr, hfilled⟩ := hshape.exists_row hr'
  exact (hfilled p.id).2 (hblank r hr)

/-! ### Edits -/

/-- An edit of a document in memory, with all that it needs. -/
inductive MemoryEdit where
  | setCell (row property : String) (value : Cell) (now : Instant)
  /-- Enter a value for the property at a place. -/
  | acceptInput (place : Nat) (freshId : Nat → String) (input : Cell)
  | addRow (id : String) (now : Instant)
  | deleteRow (id : String)

/-- The document after an edit; one that fails leaves it as it is. -/
def apply (d : Document) : MemoryEdit → Document
  | .setCell row property value now =>
    match d.setCell row property value now with
    | .ok d' => d'
    | .error _ => d
  | .acceptInput place freshId input =>
    { d with properties := d.properties.modify place fun p => (p.acceptInput freshId input).2 }
  | .addRow id now => d.addRow id now
  | .deleteRow id =>
    match d.deleteRow id with
    | .ok (_, d') => d'
    | .error _ => d

/-- An edit leaves the properties in their roles. -/
theorem roles_apply (d : Document) (e : MemoryEdit) : (d.apply e).roles = d.roles := by
  cases e with
  | setCell row property value now =>
    simp only [apply]
    split
    · next hset =>
      obtain ⟨-, rfl⟩ := setCell_ok hset
      rfl
    · rfl
  | acceptInput place freshId input =>
    exact map_modify_of_eq (fun p => p.role_acceptInput freshId input) place d.properties
  | addRow id now => rfl
  | deleteRow id =>
    simp only [apply]
    split
    · next hdelete =>
      obtain rfl := deleteRow_ok hdelete
      rfl
    · rfl

/-- An edit writes no cell for a computed property. -/
theorem StoresInputs.apply (h : d.StoresInputs except) (e : MemoryEdit) :
    (d.apply e).StoresInputs except := by
  refine h.of_roles (roles_apply d e) fun p hp hcomputed _ hblank r' hr' => ?_
  cases e with
  | setCell row property value now =>
    simp only [Document.apply] at hr'
    split at hr'
    · next hset =>
      obtain ⟨⟨q, hq, hstored⟩, rfl⟩ := setCell_ok hset
      -- the cell is written for a property that is not computed, so for another one
      have hne : p.id ≠ property := by
        rintro rfl
        cases ((property?_eq_some_iff h.distinct).2 ⟨hp, rfl⟩).symm.trans hq
        rw [hstored] at hcomputed
        cases hcomputed
      rcases mem_modifyFirst hr' with hr | ⟨r, hr, rfl⟩
      · exact hblank r' hr
      · rw [r.get?_setCell_of_ne hne]
        exact hblank r hr
    · exact hblank r' hr'
  | acceptInput place freshId input => exact hblank r' hr'
  | addRow id now =>
    rcases List.mem_append.1 hr' with hr | hr
    · exact hblank r' hr
    · obtain rfl := List.mem_singleton.1 hr
      rfl
  | deleteRow id =>
    simp only [Document.apply] at hr'
    split at hr'
    · next hdelete =>
      obtain rfl := deleteRow_ok hdelete
      exact hblank r' (List.mem_of_mem_eraseP hr')
    · exact hblank r' hr'

/-! ### Links -/

section Links

variable {forward row : String} {wanted : List String} {now : Instant}

theorem StoresInputs.relink (h : d.StoresInputs except)
    (hforward : ∀ p, d.property? forward = some p → p.isComputed = true → forward ∈ except) :
    (d.relink forward row wanted now).1.StoresInputs except := by
  refine h.of_roles rfl fun p hp hcomputed hexcept hblank r' hr' => ?_
  -- relinking writes to the forward property, which is excepted if it is computed
  have hne : p.id ≠ forward := by
    rintro rfl
    exact hexcept (hforward p ((property?_eq_some_iff h.distinct).2 ⟨hp, rfl⟩) hcomputed)
  obtain ⟨r, hr, rfl⟩ := List.mem_map.1 hr'
  rw [r.get?_relink forward row wanted now hne]
  exact hblank r hr

/-- A link that is added is a cell. -/
theorem exists_cell_of_added (h : (d.relink forward row wanted now).2.added ≠ []) :
    ∃ r ∈ (d.relink forward row wanted now).1.rows, r.cells.get? forward ≠ none := by
  obtain ⟨id, hid⟩ := List.exists_mem_of_ne_nil _ h
  obtain ⟨r, hr, -⟩ := List.mem_map.1 hid
  obtain ⟨hr, hadded⟩ := List.mem_filter.1 hr
  rw [Bool.and_eq_true, Bool.not_eq_true'] at hadded
  refine ⟨r.relink forward row wanted now, List.mem_map_of_mem hr, ?_⟩
  rcases r.relink_cases forward row wanted now with ⟨hsame, -⟩ | ⟨-, -, hset⟩ | ⟨hnames, -⟩
  · rw [hadded.1, hadded.2] at hsame
    cases hsame
  · rw [hset, Row.get?_setCell_list, if_pos rfl]
    exact Option.some_ne_none _
  · rw [hadded.1] at hnames
    cases hnames

/-- A page that has been relinked is loaded in the shape that it was given. -/
theorem sameShape_of_load_relink {σ : Type} [PageStore σ] [TextPages σ] {store : σ}
    {page : String} (hload : PageStore.load store page = .ok d)
    (hload' : PageStore.load (PageStore.save store page (d.relink forward row wanted now).1) page
      = .ok d') : (d.relink forward row wanted now).1.SameShape d' := by
  have hd := PageStore.storable_of_load hload
  have hproperties : ∀ p ∈ (d.relink forward row wanted now).1.properties,
      p.Storable (Json.fullRoom - 1 - 1) := hd.properties
  exact PageStore.sameShape_of_load_save hproperties
    (fits_relink forward row wanted (fits_toJson hd)) hload'

end Links

end Document

end Databook
