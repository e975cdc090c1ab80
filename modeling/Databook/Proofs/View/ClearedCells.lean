import Databook.View.Materialized
import Databook.Pages.Memory
import Databook.Proofs.Columns.ClearedCells
import Databook.Proofs.Query.Sorted

/-!
# Views do not show stored cells of computed columns

A view sees a row by its id and by the cells that `ComputedColumns.cell` gives. Rows may be changed in
any way that keeps these (`ComputedColumns.Unseen`): the rows that pass, their order, the groups, the
footers and the looks stay (`ComputedColumns.materialize_map`). Taking out the stored cells of computed
columns is such a change, so documents that differ in nothing else have the same views
(`Document.materialize_sameButComputed`).
-/

namespace Databook

open Calendar

/-! ### Queries over changed rows -/

section Queries

variable {f : Row → Row} {rows : List Row}

theorem rowOrder_congr {valueOf : Row → String → Cell} {a b a' b' : Row}
    (ha : ∀ property, valueOf a' property = valueOf a property)
    (hb : ∀ property, valueOf b' property = valueOf b property) (sorts : List SortKey) :
    rowOrder valueOf sorts a' b' = rowOrder valueOf sorts a b := by
  induction sorts with
  | nil => rfl
  | cons s sorts ih => rw [rowOrder, rowOrder, ha, hb, ih]

theorem sortRows_map {valueOf : Row → String → Cell}
    (h : ∀ row ∈ rows, ∀ property, valueOf (f row) property = valueOf row property)
    (sorts : List SortKey) : sortRows valueOf sorts (rows.map f) = (sortRows valueOf sorts rows).map f :=
  stableSort_map fun a ha b hb => rowOrder_congr (h a ha) (h b hb) sorts

theorem map_ids (hid : ∀ row ∈ rows, (f row).id = row.id) :
    (rows.map f).map (·.id) = rows.map (·.id) := by
  rw [List.map_map]
  exact List.map_congr_left hid

theorem filter_map_of_kept {test : Row → Bool} (htest : ∀ row ∈ rows, test (f row) = test row) :
    (rows.map f).filter test = (rows.filter test).map f := by
  have hcomp : rows.filter (test ∘ f) = rows.filter test := List.filter_congr htest
  rw [List.filter_map, hcomp]

variable {valueOf : Row → Cell} (hid : ∀ row ∈ rows, (f row).id = row.id)
  (hvalue : ∀ row ∈ rows, valueOf (f row) = valueOf row)

include hid hvalue

theorem groupByOption_map (options : List SelectOption) :
    groupByOption options valueOf (rows.map f) = groupByOption options valueOf rows := by
  unfold groupByOption
  rw [RowIndex.ofRows_map hid fun row hrow => by rw [hvalue row hrow]]

theorem groupByText_map : groupByText valueOf (rows.map f) = groupByText valueOf rows := by
  unfold groupByText
  rw [List.foldl_map]
  refine List.foldl_ext _ _ _ fun groups row hrow => ?_
  rw [hvalue row hrow, hid row hrow]

theorem groupRows_map (p : Property) (noValueLabel : String) :
    groupRows p noValueLabel valueOf (rows.map f) = groupRows p noValueLabel valueOf rows := by
  have hrest : (rows.map f).filter (fun row => hasNoGroup p.kind (valueOf row))
      = (rows.filter fun row => hasNoGroup p.kind (valueOf row)).map f :=
    filter_map_of_kept fun row hrow => by rw [hvalue row hrow]
  have hids : ((rows.filter fun row => hasNoGroup p.kind (valueOf row)).map f).map (·.id)
      = (rows.filter fun row => hasNoGroup p.kind (valueOf row)).map (·.id) :=
    map_ids fun row hrow => hid row (List.mem_of_mem_filter hrow)
  unfold groupRows
  simp only [hrest, List.isEmpty_map, hids, groupByOption_map hid hvalue, groupByText_map hid hvalue]

end Queries

namespace ComputedColumns

/-- A change of rows that views do not see: the ids and the cells that are shown stay. -/
structure Unseen (c : ComputedColumns) (d : Document) (f : Row → Row) : Prop where
  id : ∀ row ∈ d.rows, (f row).id = row.id
  cell : ∀ row ∈ d.rows, ∀ p ∈ d.properties, c.cell p (f row) = c.cell p row
  cellOf : ∀ row ∈ d.rows, ∀ property, c.cellOf d (f row) property = c.cellOf d row property

variable {c : ComputedColumns} {d : Document} {f : Row → Row}

theorem rowsOf_map (h : c.Unseen d f) (v : View) :
    c.rowsOf { d with rows := d.rows.map f } v = (c.rowsOf d v).map f := by
  have hpasses : ∀ row ∈ d.rows, passesAll v.filters d.properties (c.cellOf d (f row))
      = passesAll v.filters d.properties (c.cellOf d row) := by
    intro row hrow
    rw [funext (h.cellOf row hrow)]
  show sortRows (c.cellOf d) v.sorts ((d.rows.map f).filter fun row =>
    passesAll v.filters d.properties (c.cellOf d row)) = _
  rw [filter_map_of_kept hpasses]
  exact sortRows_map (fun row hrow => h.cellOf row (List.mem_of_mem_filter hrow)) v.sorts

theorem mem_of_mem_rowsOf {v : View} {row : Row} (h : row ∈ c.rowsOf d v) : row ∈ d.rows :=
  List.mem_of_mem_filter ((perm_sortRows _ _ _).mem_iff.1 h)

theorem property?_mem {property : String} {p : Property} (h : d.property? property = some p) :
    p ∈ d.properties :=
  List.mem_of_find?_eq_some h

variable {rows : List Row}

theorem footers_map (h : c.Unseen d f) (hrows : ∀ row ∈ rows, row ∈ d.rows) (v : View) :
    c.footers { d with rows := d.rows.map f } v (rows.map f) = c.footers d v rows := by
  unfold footers
  congr 1
  refine List.filterMap_congr fun entry _ => ?_
  show (d.property? entry.1).map _ = (d.property? entry.1).map _
  refine Option.map_congr fun p hp => ?_
  have hcells : (rows.map f).map (c.cell p) = rows.map (c.cell p) := by
    rw [List.map_map]
    exact List.map_congr_left fun row hrow => h.cell row (hrows row hrow) p (property?_mem hp)
  rw [hcells]

theorem groups_map (h : c.Unseen d f) (hrows : ∀ row ∈ rows, row ∈ d.rows) (v : View)
    (noValueLabel : String) :
    c.groups { d with rows := d.rows.map f } v noValueLabel (rows.map f)
      = c.groups d v noValueLabel rows := by
  show v.settings.groupBy.bind _ = v.settings.groupBy.bind _
  cases v.settings.groupBy with
  | none => rfl
  | some property =>
    show (d.property? property).bind _ = (d.property? property).bind _
    cases hp : d.property? property with
    | none => rfl
    | some p =>
      show some _ = some _
      rw [groupRows_map (fun row hrow => h.id row (hrows row hrow))
        fun row hrow => h.cell row (hrows row hrow) p (property?_mem hp)]

theorem styles_map (h : c.Unseen d f) (hrows : ∀ row ∈ rows, row ∈ d.rows) :
    c.styles { d with rows := d.rows.map f } (rows.map f) = c.styles d rows := by
  unfold styles
  refine List.foldl_ext _ _ _ fun styles p hp => ?_
  rw [List.foldl_map]
  refine List.foldl_ext _ _ _ fun styles row hrow => ?_
  rw [h.cell row (hrows row hrow) p hp, h.id row (hrows row hrow)]

/-- Views do not see such a change. -/
theorem materialize_map (h : c.Unseen d f) (v : View) (noValueLabel : String) :
    c.materialize { d with rows := d.rows.map f } v noValueLabel = c.materialize d v noValueLabel := by
  have hrows : ∀ row ∈ c.rowsOf d v, row ∈ d.rows := fun row => mem_of_mem_rowsOf
  have hids := map_ids fun row hrow => h.id row (hrows row hrow)
  unfold materialize arrange
  simp only [rowsOf_map h, footers_map h hrows, groups_map h hrows, styles_map h hrows, hids]

end ComputedColumns

/-- Two rows that differ at most in stored cells for computed properties among some. -/
structure Row.SameButComputed (properties : List Property) (r r' : Row) : Prop where
  id : r'.id = r.id
  createdAt : r'.createdAt = r.createdAt
  updatedAt : r'.updatedAt = r.updatedAt
  cells : ∀ property, (∀ p ∈ properties, p.id = property → p.isComputed = false) →
    r'.cells.get? property = r.cells.get? property

namespace Document

variable {d d' : Document} {related : String → Option Document}

/-! ### Taking out the cells of computed columns -/

/-- Every cell of a document is shown as before when the stored cells of its computed columns have been
taken out. -/
theorem cell_clearComputed (hids : (d.properties.map (·.id)).Nodup) {c : ComputedColumns}
    (hlinks : c.links = d.links related) {p : Property} (hp : p ∈ d.properties) (row : Row) :
    c.cell p (row.clear d.computedIds) = c.cell p row := by
  cases hcomputed : p.isComputed with
  | false =>
    unfold ComputedColumns.cell
    simp only [cell_clear_of_stored hids hp hcomputed, Row.id_clear]
  | true =>
    unfold Property.isComputed at hcomputed
    unfold ComputedColumns.cell
    cases hkind : p.kind with
    | formula expression => rfl
    | rollup r => rfl
    | relation r =>
      -- the links have a column for every relation, so the stored cell is not looked at
      obtain ⟨values, hvalues⟩ := Option.isSome_iff_exists.1
        (isSome_get?_links related hp hkind)
      simp only [hlinks, hvalues, Row.id_clear]
    | _ =>
      rw [hkind] at hcomputed
      cases hcomputed

theorem unseen_clearComputed (hids : (d.properties.map (·.id)).Nodup) {c : ComputedColumns}
    (hlinks : c.links = d.links related) : c.Unseen d (·.clear d.computedIds) where
  id _ _ := rfl
  cell row _ p hp := cell_clearComputed hids hlinks hp row
  cellOf row _ property := by
    unfold ComputedColumns.cellOf
    cases hproperty : d.property? property with
    | some p => exact cell_clearComputed hids hlinks (ComputedColumns.property?_mem hproperty) row
    | none =>
      -- cells of properties that are no longer there are not taken out
      apply Row.cell_clear
      intro hmem
      obtain ⟨p, hp, hid, -⟩ := mem_computedIds.1 hmem
      exact List.find?_eq_none.1 hproperty p hp (beq_iff_eq.2 hid)

section Store

variable {σ : Type} [PageStore σ]

theorem computeWith_clearComputed (hids : (d.properties.map (·.id)).Nodup) (store : σ)
    (cache : DocumentCache) (today : Date) :
    d.clearComputed.computeWith store cache today = d.computeWith store cache today := by
  have hlinks : d.clearComputed.resolveLinks store cache = d.resolveLinks store cache :=
    congrArg (·, _) (links_clearComputed hids _)
  have hrollups : ∀ links cache, d.clearComputed.resolveRollups links store cache today
      = d.resolveRollups links store cache today :=
    fun links cache => congrArg (·, _) (rollupValues_clearComputed links _ today)
  unfold computeWith
  rw [hlinks]
  cases hlinked : d.resolveLinks store cache with
  | mk links cache' =>
    simp only [hrollups]
    cases hrolled : d.resolveRollups links store cache' today with
    | mk rollups cache'' =>
      cases hlinked
      cases hrolled
      simp only [formulaValues_clearComputed hids]

/-- The view of a document is the view of the document without stored cells for computed columns. -/
theorem materialize_clearComputed (hids : (d.properties.map (·.id)).Nodup) (view : String) (store : σ)
    (cache : DocumentCache) (settings : Settings) (current : Date) :
    d.clearComputed.materialize view store cache settings current
      = d.materialize view store cache settings current := by
  unfold materialize
  have hview : d.clearComputed.view? view = d.view? view := rfl
  rw [hview, computeWith_clearComputed hids]
  cases d.view? view with
  | none => rfl
  | some v =>
    -- the links are those of the pages that the relations have left in the cache
    have hunseen : (d.computeWith store cache (settings.date current)).1.Unseen d
      (·.clear d.computedIds) := unseen_clearComputed hids rfl
    exact congrArg (fun shown => Except.ok (shown, _)) (ComputedColumns.materialize_map hunseen v _)

end Store

/-! ### Documents that differ in such cells only -/

/-- Two documents that differ at most in stored cells for computed properties. -/
structure SameButComputed (d d' : Document) : Prop where
  properties : d'.properties = d.properties
  rows : List.Forall₂ (Row.SameButComputed d.properties) d.rows d'.rows
  views : d'.views = d.views

theorem clear_eq_of_sameButComputed {r r' : Row} (h : r.SameButComputed d.properties r') :
    r'.clear d.computedIds = r.clear d.computedIds := by
  have hcells : (r'.clear d.computedIds).cells = (r.clear d.computedIds).cells := by
    apply IdMap.ext_get?
    intro property
    rw [Row.get?_clear, Row.get?_clear]
    split
    · rfl
    · next hmem =>
      refine h.cells property fun p hp hid => ?_
      cases hcomputed : p.isComputed with
      | false => rfl
      | true => exact absurd (mem_computedIds.2 ⟨p, hp, hid, hcomputed⟩) hmem
  show (⟨r'.id, (r'.clear d.computedIds).cells, r'.createdAt, r'.updatedAt⟩ : Row) = _
  rw [hcells, h.id, h.createdAt, h.updatedAt]
  rfl

/-- Without the cells of computed columns they are the same document. -/
theorem clearComputed_eq (h : d.SameButComputed d') : d'.clearComputed = d.clearComputed := by
  have hids : d'.computedIds = d.computedIds := by
    unfold computedIds
    rw [h.properties]
  have hrows : d'.rows.map (·.clear d.computedIds) = d.rows.map (·.clear d.computedIds) := by
    rw [← List.forall₂_eq_eq_eq, List.forall₂_map_left_iff, List.forall₂_map_right_iff]
    exact h.rows.flip.imp fun r' r hrow => clear_eq_of_sameButComputed hrow
  unfold clearComputed
  rw [hids, hrows, h.properties, h.views]

/-- Documents that differ at most in stored cells for computed properties have the same views, with the
same computed columns, groups, footers and looks, or fail with the same error; the same pages
are in the cache afterwards. -/
theorem materialize_sameButComputed {σ : Type} [PageStore σ]
    (hids : (d.properties.map (·.id)).Nodup) (h : d.SameButComputed d') (view : String) (store : σ)
    (cache : DocumentCache) (settings : Settings) (current : Date) :
    d'.materialize view store cache settings current
      = d.materialize view store cache settings current := by
  have hids' : (d'.properties.map (·.id)).Nodup := h.properties ▸ hids
  rw [← materialize_clearComputed hids, ← materialize_clearComputed hids', clearComputed_eq h]

/-- A row with a stored value for a formula. -/
def strayRow : Row := ⟨"r", .ofList [("f", .text "old"), ("n", .number 2)], .epoch, .epoch⟩

/-- A number and a formula over it, listed by the value of the formula. -/
def strayDocument : Document where
  properties := [.fresh "f" "Double" (.formula "2 * N"), .fresh "n" "N" (.number none)]
  rows := [strayRow]
  views := [{ View.fresh "v" "All" .table with sorts := [⟨"f", .asc⟩] }]

/-- The value that is stored for the formula is not seen. -/
theorem materialize_strayDocument :
    ({ strayDocument with rows := [strayRow.clear ["f"]] } : Document).materialize "v"
        MemoryStore.empty .empty .standard .epoch
      = strayDocument.materialize "v" MemoryStore.empty .empty .standard .epoch := by
  have hrow : strayRow.SameButComputed strayDocument.properties (strayRow.clear ["f"]) := by
    refine ⟨rfl, rfl, rfl, fun property hstored => ?_⟩
    rw [Row.get?_clear, if_neg]
    intro hmem
    cases List.mem_singleton.1 hmem
    have := hstored (.fresh "f" "Double" (.formula "2 * N")) List.mem_cons_self rfl
    cases this
  have hids : (strayDocument.properties.map (·.id)).Nodup := by decide
  have hdocument : strayDocument.SameButComputed { strayDocument with rows := [strayRow.clear ["f"]] } :=
    ⟨rfl, .cons hrow .nil, rfl⟩
  exact materialize_sameButComputed hids hdocument "v" MemoryStore.empty .empty .standard .epoch

end Document

end Databook
