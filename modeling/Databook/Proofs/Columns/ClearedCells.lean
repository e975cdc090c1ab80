import Databook.Columns.Computed
import Databook.Proofs.Columns.Links
import Databook.Proofs.Document.Lookup
import Databook.Proofs.IdMap
import Mathlib.Data.List.Nodup

/-!
# Stored cells of computed columns

A document should store nothing for a computed column, but a text that is loaded may. Such cells have no
influence on the columns of the document: `Document.clearComputed` takes them out, and links, rollups
and formulas are the same without them (`links_clearComputed`, `rollupValues_clearComputed`,
`formulaValues_clearComputed`).

What carries this is that links and rollups have a value for every row (`CoverRows`): a
formula that names such a column is given this value and never the stored cell.
-/

namespace Databook

open Calendar

/-! ### Taking cells out -/

/-- The row without its stored cells for some properties. -/
def Row.clear (r : Row) (properties : List String) : Row :=
  { r with cells := properties.foldl (·.erase ·) r.cells }

theorem Row.get?_clear (r : Row) (properties : List String) (property : String) :
    (r.clear properties).cells.get? property
      = if property ∈ properties then none else r.cells.get? property :=
  IdMap.get?_foldl_erase properties r.cells property

theorem Row.cell_clear {r : Row} {properties : List String} {property : String}
    (h : property ∉ properties) : (r.clear properties).cell property = r.cell property := by
  unfold Row.cell
  rw [Row.get?_clear, if_neg h]

@[simp] theorem Row.id_clear (r : Row) (properties : List String) : (r.clear properties).id = r.id :=
  rfl

theorem Property.kind_of_relation? {p : Property} {r : Relation} (h : p.relation? = some r) :
    p.kind = .relation r := by
  unfold relation? at h
  split at h
  · next hkind =>
    cases h
    exact hkind
  · cases h

namespace Document

/-- The ids of the computed properties. -/
def computedIds (d : Document) : List String := (d.properties.filter (·.isComputed)).map (·.id)

/-- The document without stored cells for computed properties. -/
def clearComputed (d : Document) : Document :=
  { d with rows := d.rows.map (·.clear d.computedIds) }

variable {d : Document} {row : Row} {p : Property}

theorem mem_computedIds {property : String} :
    property ∈ d.computedIds ↔ ∃ p ∈ d.properties, p.id = property ∧ p.isComputed = true := by
  unfold computedIds
  simp only [List.mem_map, List.mem_filter]
  constructor
  · rintro ⟨p, ⟨hp, hcomputed⟩, rfl⟩
    exact ⟨p, hp, rfl, hcomputed⟩
  · rintro ⟨p, hp, rfl, hcomputed⟩
    exact ⟨p, ⟨hp, hcomputed⟩, rfl⟩

/-- The cells of stored properties stay. -/
theorem cell_clear_of_stored (hids : (d.properties.map (·.id)).Nodup) (hp : p ∈ d.properties)
    (hstored : p.isComputed = false) (row : Row) :
    (row.clear d.computedIds).cell p.id = row.cell p.id := by
  apply Row.cell_clear
  intro hmem
  obtain ⟨q, hq, hid, hcomputed⟩ := mem_computedIds.1 hmem
  have hqp : q = p := List.inj_on_of_nodup_map hids hq hp hid
  rw [hqp, hstored] at hcomputed
  cases hcomputed

/-! ### Relations and rollups -/

/-- Forward relations are read from stored cells, which stay; back relations are read from the other
document. -/
theorem linksOf_clearComputed (hids : (d.properties.map (·.id)).Nodup) (hp : p ∈ d.properties)
    {r : Relation} (hr : p.kind = .relation r) (other : Option Document) :
    d.clearComputed.linksOf other p r = d.linksOf other p r := by
  unfold linksOf
  cases hside : r.side with
  | forward pair =>
    have hstored : p.isComputed = false := by
      unfold Property.isComputed Relation.isBack
      rw [hr]
      simp only [hside]
    show IdMap.ofList _ = IdMap.ofList _
    rw [clearComputed, List.map_map]
    congr 1
    refine List.map_congr_left fun row _ => ?_
    simp only [Function.comp_apply, cell_clear_of_stored hids hp hstored, Row.id_clear]
  | back property =>
    show d.clearComputed.backLinks other property = d.backLinks other property
    -- they are handed out to the ids of the rows, which stay
    unfold backLinks
    rw [clearComputed, List.map_map]
    rfl

theorem mem_rollups {r : Rollup} :
    (p, r) ∈ d.rollups ↔ p ∈ d.properties ∧ p.rollup? = some r := by
  unfold rollups
  rw [List.mem_filterMap]
  constructor
  · rintro ⟨q, hq, hmap⟩
    obtain ⟨r', hr', hpair⟩ := Option.map_eq_some_iff.1 hmap
    cases hpair
    exact ⟨hq, hr'⟩
  · rintro ⟨hp, hr⟩
    exact ⟨p, hp, by rw [hr]; rfl⟩

theorem links_clearComputed (hids : (d.properties.map (·.id)).Nodup)
    (related : String → Option Document) : d.clearComputed.links related = d.links related := by
  unfold links
  congr 2
  refine List.map_congr_left fun entry hmem => ?_
  obtain ⟨p, r⟩ := entry
  obtain ⟨hp, hrelation⟩ := mem_relations.1 hmem
  simp only [linksOf_clearComputed hids hp (Property.kind_of_relation? hrelation)]

theorem rollupValues_clearComputed (links : Links) (related : String → Option Document) (today : Date) :
    d.clearComputed.rollupValues links related today = d.rollupValues links related today := by
  have hcolumn : ∀ r, d.clearComputed.rollupColumn links related today r
      = d.rollupColumn links related today r := by
    intro r
    unfold rollupColumn
    have htarget : d.clearComputed.rollupTarget? related r = d.rollupTarget? related r := rfl
    rw [htarget]
    cases d.rollupTarget? related r with
    | none =>
      simp only [clearComputed, List.map_map]
      rfl
    | some target =>
      simp only [clearComputed, List.map_map]
      rfl
  unfold rollupValues
  simp only [hcolumn]
  rfl

end Document

/-! ### Values for all rows -/

/-- Does each of the columns have a value for each of the rows? -/
def CoverRows (columns : IdMap (IdMap α)) (rows : List Row) : Prop :=
  ∀ property values, columns.get? property = some values →
    ∀ row ∈ rows, (values.get? row.id).isSome = true

theorem isSome_get?_ofRows (value : Row → α) {rows : List Row} {row : Row} (h : row ∈ rows) :
    ((IdMap.ofList (rows.map fun row => (row.id, value row))).get? row.id).isSome = true :=
  IdMap.isSome_get?_ofList (List.mem_map.2 ⟨row, h, rfl⟩)

theorem CoverRows.map {columns : IdMap (IdMap α)} {rows : List Row} (h : CoverRows columns rows)
    (f : α → β) : CoverRows (columns.map fun values => values.map f) rows := by
  intro property values hvalues row hrow
  rw [IdMap.get?_map] at hvalues
  obtain ⟨held, hheld, rfl⟩ := Option.map_eq_some_iff.1 hvalues
  rw [IdMap.get?_map, Option.isSome_map]
  exact h property held hheld row hrow

theorem CoverRows.merge {columns columns' : IdMap (IdMap α)} {rows : List Row}
    (h : CoverRows columns rows) (h' : CoverRows columns' rows) :
    CoverRows (columns.merge columns') rows := by
  intro property values hvalues
  rw [IdMap.get?_merge] at hvalues
  rcases Option.or_eq_some_iff.1 hvalues with hvalues | ⟨-, hvalues⟩
  · exact h' property values hvalues
  · exact h property values hvalues

namespace Document

variable {d : Document} {row : Row} {p : Property} {related related' : String → Option Document}
  {links : Links} {today : Date}

theorem coverRows_links (related : String → Option Document) :
    CoverRows (d.links related).values d.rows := by
  intro property values hvalues row hrow
  obtain ⟨⟨p, r⟩, -, hpair⟩ := List.mem_map.1 (IdMap.mem_of_get?_ofList hvalues)
  cases hpair
  cases hside : r.side with
  | forward pair =>
    simp only [linksOf, hside]
    exact isSome_get?_ofRows _ hrow
  | back property =>
    simp only [linksOf, hside]
    rw [get?_backLinks, if_pos (List.mem_map_of_mem hrow)]
    rfl

theorem coverRows_rollupValues : CoverRows (d.rollupValues links related today) d.rows := by
  intro property values hvalues row hrow
  obtain ⟨⟨p, r⟩, -, hpair⟩ := List.mem_map.1 (IdMap.mem_of_get?_ofList hvalues)
  cases hpair
  unfold rollupColumn
  split
  · exact isSome_get?_ofRows _ hrow
  · exact isSome_get?_ofRows _ hrow

theorem isSome_get?_links (related : String → Option Document) (hp : p ∈ d.properties) {r : Relation}
    (hr : p.kind = .relation r) :
    ((d.links related).values.get? p.id).isSome = true := by
  have hmem : (p, r) ∈ d.relations := mem_relations.2 ⟨hp, by rw [Property.relation?, hr]⟩
  exact IdMap.isSome_get?_ofList (List.mem_map.2 ⟨(p, r), hmem, rfl⟩)

theorem isSome_get?_rollupValues (hp : p ∈ d.properties) {r : Rollup} (hr : p.kind = .rollup r) :
    ((d.rollupValues links related today).get? p.id).isSome = true := by
  have hmem : (p, r) ∈ d.rollups := mem_rollups.2 ⟨hp, by rw [Property.rollup?, hr]⟩
  exact IdMap.isSome_get?_ofList (List.mem_map.2 ⟨(p, r), hmem, rfl⟩)

/-- Every relation and every rollup has a computed value for every row. -/
theorem isSome_computed? (hp : p ∈ d.properties) (hrow : row ∈ d.rows)
    (hkind : (∃ r, p.kind = .relation r) ∨ ∃ r, p.kind = .rollup r) :
    (computed? ((d.links related).columns.merge (d.rollupValues links related' today)) p.id
      row.id).isSome = true := by
  have hcover : CoverRows ((d.links related).columns.merge (d.rollupValues links related' today))
      d.rows := ((coverRows_links related).map Cell.list).merge coverRows_rollupValues
  have hcolumn : (((d.links related).columns.merge (d.rollupValues links related' today)).get?
      p.id).isSome = true := by
    rw [IdMap.get?_merge, Option.isSome_or, Bool.or_eq_true]
    rcases hkind with ⟨r, hr⟩ | ⟨r, hr⟩
    · refine .inr ?_
      unfold Links.columns
      rw [IdMap.get?_map, Option.isSome_map]
      exact isSome_get?_links related hp hr
    · exact .inl (isSome_get?_rollupValues hp hr)
  obtain ⟨values, hvalues⟩ := Option.isSome_iff_exists.1 hcolumn
  unfold computed?
  rw [hvalues]
  exact hcover p.id values hvalues row hrow

/-! ### Formulas -/

/-- Formulas see a computed column with its computed value. -/
theorem seenValue_clear (hids : (d.properties.map (·.id)).Nodup) (hp : p ∈ d.properties)
    {columns : ColumnValues}
    (hcolumns : ((∃ r, p.kind = .relation r) ∨ ∃ r, p.kind = .rollup r) →
      (computed? columns p.id row.id).isSome = true) :
    p.seenValue (row.clear d.computedIds) columns = p.seenValue row columns := by
  cases hcomputed : p.isComputed with
  | false =>
    unfold Property.seenValue
    rw [cell_clear_of_stored hids hp hcomputed, Row.id_clear]
  | true =>
    -- the stored cell only stands in where there is no computed value
    have hvalue : ∀ stored stored' : Cell,
        ((∃ r, p.kind = .relation r) ∨ ∃ r, p.kind = .rollup r) →
        (computed? columns p.id row.id).getD stored = (computed? columns p.id row.id).getD stored' := by
      intro stored stored' hkind
      obtain ⟨value, hvalue⟩ := Option.isSome_iff_exists.1 (hcolumns hkind)
      rw [hvalue]
      rfl
    unfold Property.isComputed at hcomputed
    unfold Property.seenValue
    cases hkind : p.kind with
    | formula expression => rfl
    | rollup r => exact hvalue _ _ (.inr ⟨r, hkind⟩)
    | relation r => exact hvalue _ _ (.inl ⟨r, hkind⟩)
    | _ =>
      rw [hkind] at hcomputed
      cases hcomputed

theorem contextOf_congr {row row' : Row} {columns : ColumnValues} {properties : List Property}
    (h : ∀ p ∈ properties, p.seenValue row columns = p.seenValue row' columns)
    (context : Formula.Context) :
    contextOf row columns context properties = contextOf row' columns context properties := by
  induction properties generalizing context with
  | nil => rfl
  | cons p ps ih =>
    obtain ⟨hp, hps⟩ := List.forall_mem_cons.1 h
    rw [contextOf, contextOf, hp]
    exact ih hps _

/-- A row without the stored cells of computed columns gives its formulas the same context. -/
theorem rowContext_clearComputed (hids : (d.properties.map (·.id)).Nodup) (hrow : row ∈ d.rows) :
    d.clearComputed.rowContext (row.clear d.computedIds)
        ((d.links related).columns.merge (d.rollupValues links related' today))
      = d.rowContext row ((d.links related).columns.merge (d.rollupValues links related' today)) :=
  contextOf_congr (fun _ hp => seenValue_clear hids hp (isSome_computed? hp hrow)) .empty

theorem formulaValues_clearComputed (hids : (d.properties.map (·.id)).Nodup) :
    d.clearComputed.formulaValues
        ((d.links related).columns.merge (d.rollupValues links related' today)) today
      = d.formulaValues ((d.links related).columns.merge (d.rollupValues links related' today))
        today := by
  have hrow : ∀ row ∈ d.rows, ∀ plan : FormulaPlan,
      plan.evalRow d.clearComputed
          ((d.links related).columns.merge (d.rollupValues links related' today)) today
          (row.clear d.computedIds)
        = plan.evalRow d ((d.links related).columns.merge (d.rollupValues links related' today)) today
          row := by
    intro row hrow plan
    unfold FormulaPlan.evalRow
    rw [rowContext_clearComputed hids hrow]
    rfl
  show d.clearComputed.rows.foldl _ _ = d.rows.foldl _ _
  rw [clearComputed, List.foldl_map]
  refine List.foldl_ext _ _ _ fun result row hmem => ?_
  have hstate := hrow row hmem (FormulaPlan.ofProperties d.properties)
  unfold clearComputed at hstate
  simp only [hstate, Row.id_clear]

end Document

end Databook
