import Databook.View.Materialized
import Databook.Proofs.Query.Group
import Databook.Proofs.Query.Sorted

/-!
# Materialized views fit together

Filters, groups, footers and looks all speak of the same rows, those whose ids the view lists, and of the
same values, those of `ComputedColumns.cell` (`MaterializedView.Consistent`). This holds for every view
and whatever the computed columns are (`ComputedColumns.materialize_consistent`); which rows are listed,
and in which order, is settled by the filters and sorts.

The cells of a column that a view is sorted by need not be ordered consistently. What a sort does with such
rows is open: it may put them in any order, or fail. So the sort is a parameter of which only
`IsStableSort` is known (`ComputedColumns.materializeBy`), and the parts of a view agree in whatever order
its rows have come (`ComputedColumns.consistent_arrange`).
-/

namespace Databook

/-- Is `style` the look of the first format whose test a cell passes? -/
def Property.Looks (p : Property) (c : Cell) (style : CellStyle) : Prop :=
  ∃ before format after, p.formats = before ++ format :: after ∧
    (∀ earlier ∈ before, earlier.operator.passes p.kind c earlier.value = false) ∧
    format.operator.passes p.kind c format.value = true ∧ format.style = style

/-- Does a row pass every filter on a property that there is? -/
def ComputedColumns.Passes (c : ComputedColumns) (d : Document) (filters : List Filter) (row : Row) :
    Prop :=
  ∀ f ∈ filters, ∀ p ∈ d.properties, p.id = f.property →
    f.operator.passes p.kind (c.cell p row) f.value = true

namespace MaterializedView

/-- The look that a view notes down for a cell. -/
def style? (m : MaterializedView) (row property : String) : Option CellStyle :=
  (m.styles.get? row).bind (·.get? property)

/-- The rows of a document that a view lists, in the order of the view. -/
def rows (m : MaterializedView) (d : Document) : List Row := m.rowIds.filterMap d.row?

/-- The parts of a view agree on its rows and on the values of their cells. -/
structure Consistent (m : MaterializedView) (c : ComputedColumns) (d : Document) (v : View)
    (noValueLabel : String) : Prop where
  nodup : m.rowIds.Nodup
  listed : ∀ id, id ∈ m.rowIds ↔ ∃ row ∈ d.rows, row.id = id ∧ c.Passes d v.filters row
  rows : (m.rows d).map (·.id) = m.rowIds
  isSome_groups : m.groups.isSome = true ↔ ∃ p ∈ d.properties, v.settings.groupBy = some p.id
  groups : ∀ p ∈ d.properties, v.settings.groupBy = some p.id →
    m.groups = some (groupRows p noValueLabel (c.cell p) (m.rows d))
  grouped : ∀ groups, m.groups = some groups →
    (∀ id, (∃ g ∈ groups, id ∈ g.rowIds) ↔ id ∈ m.rowIds) ∧ ∀ g ∈ groups, g.rowIds.Sublist m.rowIds
  summaries : ∀ property, m.summaries.get? property
    = (v.summaries.get? property).bind fun a =>
        (d.property? property).map fun p => p.summaryText a ((m.rows d).map (c.cell p))
  styles : ∀ row property style, m.style? row property = some style
    ↔ ∃ r ∈ d.rows, ∃ p ∈ d.properties, r.id = row ∧ p.id = property ∧ row ∈ m.rowIds ∧
        p.Looks (c.cell p r) style

end MaterializedView

/-- The look of a cell is that of the first format whose test it passes. -/
theorem Property.styleOf?_eq_some_iff {p : Property} {c : Cell} {style : CellStyle} :
    p.styleOf? c = some style ↔ p.Looks c style := by
  unfold styleOf? Looks
  rw [Option.map_eq_some_iff]
  constructor
  · rintro ⟨format, hfind, hstyle⟩
    obtain ⟨hpasses, before, after, hsplit, hbefore⟩ := List.find?_eq_some_iff_append.1 hfind
    exact ⟨before, format, after, hsplit, by simpa using hbefore, hpasses, hstyle⟩
  · rintro ⟨before, format, after, hsplit, hbefore, hpasses, hstyle⟩
    refine ⟨format, List.find?_eq_some_iff_append.2 ⟨hpasses, before, after, hsplit, ?_⟩, hstyle⟩
    simpa using hbefore

namespace ComputedColumns

variable {c : ComputedColumns} {d : Document} {v : View}

/-! ### Rows -/

theorem passesAll_iff (hids : (d.properties.map (·.id)).Nodup) {filters : List Filter} {row : Row} :
    passesAll filters d.properties (c.cellOf d row) = true ↔ c.Passes d filters row := by
  unfold passesAll Passes
  rw [List.all_eq_true]
  refine forall₂_congr fun f _ => ?_
  have hfind : d.properties.find? (·.id == f.property) = d.property? f.property := rfl
  rw [Filter.passes, hfind, cellOf]
  cases hproperty : d.property? f.property with
  | none =>
    refine iff_of_true rfl fun p hp hid => ?_
    rw [(Document.property?_eq_some_iff hids).2 ⟨hp, hid⟩] at hproperty
    cases hproperty
  | some p =>
    obtain ⟨hp, hid⟩ := (Document.property?_eq_some_iff hids).1 hproperty
    refine ⟨fun hpasses q hq hqid => ?_, fun hpasses => hpasses p hp hid⟩
    obtain rfl := List.inj_on_of_nodup_map hids hq hp (hqid.trans hid.symm)
    exact hpasses

theorem mem_kept_iff (hids : (d.properties.map (·.id)).Nodup) {row : Row} :
    row ∈ c.kept d v ↔ row ∈ d.rows ∧ c.Passes d v.filters row := by
  rw [kept, List.mem_filter, passesAll_iff hids]

/-- Filtering drops rows and sorting moves them; neither brings an id in again. -/
theorem nodup_of_perm {rows : List Row} (hrows : (d.rows.map (·.id)).Nodup)
    (hperm : rows.Perm (c.kept d v)) : (rows.map (·.id)).Nodup :=
  (hperm.map Row.id).nodup_iff.2 (hrows.sublist (List.filter_sublist.map Row.id))

/-- The rows are found again by their ids. -/
theorem filterMap_row? (hrows : (d.rows.map (·.id)).Nodup) {rows : List Row}
    (hmem : ∀ row ∈ rows, row ∈ d.rows) : (rows.map (·.id)).filterMap d.row? = rows := by
  rw [List.filterMap_map]
  refine (List.filterMap_congr fun row hrow => ?_).trans List.filterMap_some
  exact (Document.row?_eq_some_iff hrows).2 ⟨hmem row hrow, rfl⟩

/-! ### Looks -/

/-- The looks of a column are noted down under its id. -/
theorem get?_foldl_rows {rows : List Row} (hrows : (rows.map (·.id)).Nodup) (property : String)
    (f : Row → Option CellStyle) (start : IdMap (IdMap CellStyle)) (id key : String) :
    ((rows.foldl (fun styles row =>
        match f row with
        | some style =>
          styles.insert row.id (((styles.get? row.id).getD .empty).insert property style)
        | none => styles) start).get? id).bind (·.get? key)
      = (if key = property then (rows.find? (·.id == id)).bind f else none).or
          ((start.get? id).bind (·.get? key)) := by
  induction rows generalizing start with
  | nil => simp
  | cons row rows ih =>
    obtain ⟨hrow, hrows⟩ := List.nodup_cons.1 hrows
    rw [List.foldl_cons, ih hrows, List.find?_cons]
    have hwritten : ∀ style, _ := IdMap.get?_insert_within start row.id property id key
    by_cases hid : row.id = id
    -- the looks of the row are written first, and no other row writes under its id
    · have hrest : rows.find? (·.id == id) = none := find?_key_eq_none (hid ▸ hrow)
      rw [hrest, beq_iff_eq.2 hid, Option.bind_none, ite_self, Option.none_or, Option.bind_some]
      cases hstyle : f row with
      | none => simp
      | some style =>
        refine (hwritten style).trans ?_
        by_cases hkey : key = property <;> simp [hid, hkey]
    · rw [beq_eq_false_iff_ne.2 hid]
      cases hstyle : f row with
      | none => rfl
      | some style =>
        have hother : ¬(id = row.id ∧ key = property) := fun h => hid h.1.symm
        rw [hwritten style, if_neg hother]

theorem get?_foldl_properties {rows : List Row} (hrows : (rows.map (·.id)).Nodup)
    {properties : List Property} (hids : (properties.map (·.id)).Nodup)
    (start : IdMap (IdMap CellStyle)) (id key : String) :
    ((properties.foldl (fun styles p =>
        rows.foldl (fun styles row =>
            match p.styleOf? (c.cell p row) with
            | some style =>
              styles.insert row.id (((styles.get? row.id).getD .empty).insert p.id style)
            | none => styles)
          styles) start).get? id).bind (·.get? key)
      = ((properties.find? (·.id == key)).bind fun p =>
          (rows.find? (·.id == id)).bind fun row => p.styleOf? (c.cell p row)).or
          ((start.get? id).bind (·.get? key)) := by
  induction properties generalizing start with
  | nil => rfl
  | cons p ps ih =>
    obtain ⟨hp, hps⟩ := List.nodup_cons.1 hids
    rw [List.foldl_cons, ih hps, get?_foldl_rows hrows, List.find?_cons, ← Option.or_assoc]
    congr 1
    by_cases hkey : p.id = key
    -- the later columns have other ids, so they leave the looks of this one
    · have hrest : ps.find? (·.id == key) = none := find?_key_eq_none (hkey ▸ hp)
      rw [hrest, beq_iff_eq.2 hkey, if_pos hkey.symm]
      rfl
    · rw [beq_eq_false_iff_ne.2 hkey, if_neg (Ne.symm hkey), Option.or_none]

theorem get?_styles (hids : (d.properties.map (·.id)).Nodup) {rows : List Row}
    (hrows : (rows.map (·.id)).Nodup) {id key : String} {style : CellStyle} :
    ((c.styles d rows).get? id).bind (·.get? key) = some style
      ↔ ∃ row ∈ rows, ∃ p ∈ d.properties, row.id = id ∧ p.id = key ∧ p.Looks (c.cell p row) style := by
  have hheld : ((c.styles d rows).get? id).bind (·.get? key) = _ :=
    get?_foldl_properties hrows hids .empty id key
  rw [hheld]
  simp only [IdMap.get?_empty, Option.bind_none, Option.or_none, Option.bind_eq_some_iff,
    find?_key_eq_some_iff hids, find?_key_eq_some_iff hrows, Property.styleOf?_eq_some_iff]
  constructor
  · rintro ⟨p, ⟨hp, hkey⟩, row, ⟨hrow, hid⟩, hlooks⟩
    exact ⟨row, hrow, p, hp, hid, hkey, hlooks⟩
  · rintro ⟨row, hrow, p, hp, hid, hkey, hlooks⟩
    exact ⟨p, ⟨hp, hkey⟩, row, ⟨hrow, hid⟩, hlooks⟩

/-! ### The whole view -/

theorem get?_footers {rows : List Row} {id : String} :
    (c.footers d v rows).get? id
      = (v.summaries.get? id).bind fun a =>
          (d.property? id).map fun p => p.summaryText a (rows.map (c.cell p)) := by
  rw [← IdMap.get?_ofList_filterMap_entries v.summaries fun id a =>
    (d.property? id).map fun p => p.summaryText a (rows.map (c.cell p))]
  simp only [Option.map_map]
  rfl

variable {rows : List Row} (hids : (d.properties.map (·.id)).Nodup)
  (hrows : (d.rows.map (·.id)).Nodup) (hperm : rows.Perm (c.kept d v))

include hids

theorem groups_eq_some_iff (noValueLabel : String) {groups : List RowGroup} :
    (c.arrange d v noValueLabel rows).groups = some groups
      ↔ ∃ p ∈ d.properties, v.settings.groupBy = some p.id ∧
          groups = groupRows p noValueLabel (c.cell p) rows := by
  show c.groups d v noValueLabel rows = some groups ↔ _
  unfold ComputedColumns.groups
  simp only [bind, pure, Option.bind_eq_some_iff, Option.some_inj, Document.property?_eq_some_iff hids]
  constructor
  · rintro ⟨id, hid, p, ⟨hp, rfl⟩, rfl⟩
    exact ⟨p, hp, hid, rfl⟩
  · rintro ⟨p, hp, hid, rfl⟩
    exact ⟨p.id, hid, p, ⟨hp, rfl⟩, rfl⟩

include hperm

theorem mem_iff_of_perm {row : Row} : row ∈ rows ↔ row ∈ d.rows ∧ c.Passes d v.filters row :=
  hperm.mem_iff.trans (mem_kept_iff hids)

theorem mem_rowIds_iff {noValueLabel id : String} :
    id ∈ (c.arrange d v noValueLabel rows).rowIds
      ↔ ∃ row ∈ d.rows, row.id = id ∧ c.Passes d v.filters row := by
  show id ∈ rows.map (·.id) ↔ _
  rw [List.mem_map]
  refine exists_congr fun row => ?_
  rw [mem_iff_of_perm hids hperm, and_assoc, and_comm (a := row.id = id)]

include hrows

theorem rows_arrange (noValueLabel : String) : (c.arrange d v noValueLabel rows).rows d = rows :=
  filterMap_row? hrows fun _ hrow => ((mem_iff_of_perm hids hperm).1 hrow).1

theorem style?_eq_some_iff {noValueLabel row property : String} {style : CellStyle} :
    (c.arrange d v noValueLabel rows).style? row property = some style
      ↔ ∃ r ∈ d.rows, ∃ p ∈ d.properties, r.id = row ∧ p.id = property ∧
          row ∈ (c.arrange d v noValueLabel rows).rowIds ∧ p.Looks (c.cell p r) style := by
  refine (get?_styles hids (nodup_of_perm hrows hperm)).trans ⟨?_, ?_⟩
  · rintro ⟨r, hr, p, hp, hid, hkey, hlooks⟩
    exact ⟨r, ((mem_iff_of_perm hids hperm).1 hr).1, p, hp, hid, hkey, List.mem_map.2 ⟨r, hr, hid⟩,
      hlooks⟩
  -- the view lists the id, and the only row that has it is the row given
  · rintro ⟨r, hr, p, hp, hid, hkey, hlisted, hlooks⟩
    obtain ⟨r', hr', hid'⟩ := List.mem_map.1 hlisted
    obtain rfl := List.inj_on_of_nodup_map hrows ((mem_iff_of_perm hids hperm).1 hr').1 hr
      (hid'.trans hid.symm)
    exact ⟨r', hr', p, hp, hid, hkey, hlooks⟩

/-- The parts of a view agree with each other, whatever the order of its rows. -/
theorem consistent_arrange (noValueLabel : String) :
    (c.arrange d v noValueLabel rows).Consistent c d v noValueLabel := by
  have hshown := rows_arrange hids hrows hperm noValueLabel
  have hnodup := nodup_of_perm hrows hperm
  have hgroups : ∀ p ∈ d.properties, v.settings.groupBy = some p.id →
      (c.arrange d v noValueLabel rows).groups = some (groupRows p noValueLabel (c.cell p) rows) :=
    fun p hp hgroup => (groups_eq_some_iff hids noValueLabel).2 ⟨p, hp, hgroup, rfl⟩
  refine ⟨hnodup, fun id => mem_rowIds_iff hids hperm, ?_, ?_, ?_, ?_, ?_,
    fun row property style => style?_eq_some_iff hids hrows hperm⟩
  · rw [hshown]
    rfl
  · rw [Option.isSome_iff_exists]
    constructor
    · rintro ⟨groups, hsome⟩
      obtain ⟨p, hp, hgroup, -⟩ := (groups_eq_some_iff hids noValueLabel).1 hsome
      exact ⟨p, hp, hgroup⟩
    · rintro ⟨p, hp, hgroup⟩
      exact ⟨_, hgroups p hp hgroup⟩
  · rwa [hshown]
  · intro groups hsome
    obtain ⟨p, -, -, rfl⟩ := (groups_eq_some_iff hids noValueLabel).1 hsome
    exact ⟨fun id => exists_group_iff hnodup, fun g hg => rowIds_sublist hnodup hg⟩
  · intro property
    rw [hshown]
    exact get?_footers

omit hids hrows hperm

/-! ### Sorts that may fail -/

/-- Are the cells of each column that a view is sorted by ordered consistently, among its rows? -/
def Sortable (c : ComputedColumns) (d : Document) (v : View) : Prop :=
  ∀ k ∈ v.sorts, ConsistentOn (· ∈ (c.kept d v).map (c.cellOf d · k.property)) Cell.order

/-- Materialize a view by a sort of rows; there is none if the sort fails. -/
def materializeBy (c : ComputedColumns)
    (sort : (Row → Row → Ordering) → List Row → Option (List Row)) (d : Document) (v : View)
    (noValueLabel : String) : Option MaterializedView :=
  (sort (rowOrder (c.cellOf d) v.sorts) (c.kept d v)).map (c.arrange d v noValueLabel)

include hids hrows

/-- A view is materialized by any stable sort if its columns can be sorted, and all of these sorts give the
same view. Whenever there is a view, also in an order that is open, its parts agree with each other. Views
with one list of filters and one list of sorts list the same rows, or fail together. -/
theorem materialize_consistent {sort : (Row → Row → Ordering) → List Row → Option (List Row)}
    (hsort : IsStableSort sort) (noValueLabel : String) :
    (c.Sortable d v →
      c.materializeBy sort d v noValueLabel = some (c.materialize d v noValueLabel)) ∧
    (∀ m, c.materializeBy sort d v noValueLabel = some m → m.Consistent c d v noValueLabel) ∧
    ∀ (v' : View) (label : String), v'.filters = v.filters → v'.sorts = v.sorts →
      (c.materializeBy sort d v' label).map (·.rowIds)
        = (c.materializeBy sort d v noValueLabel).map (·.rowIds) := by
  refine ⟨fun hsortable => ?_, fun m hm => ?_, fun v' label hfilters hsorts => ?_⟩
  · have hconsistent : ConsistentOn (· ∈ c.kept d v) (rowOrder (c.cellOf d) v.sorts) :=
      consistentOn_rows hsortable
    rw [materializeBy, hsort.eq_some_stableSort hconsistent]
    rfl
  · obtain ⟨rows, hsome, rfl⟩ := Option.map_eq_some_iff.1 hm
    exact consistent_arrange hids hrows (hsort.perm hsome) noValueLabel
  · have hkept : c.kept d v' = c.kept d v := by
      unfold kept
      rw [hfilters]
    unfold materializeBy
    rw [hkept, hsorts, Option.map_map, Option.map_map]
    rfl

end ComputedColumns

/-! ### A board -/

section Board

/-- Titles, in bold where they are not empty, states, and a copy of the titles. -/
def board : Document where
  properties :=
    [{ Property.fresh "t" "Title" .text with
        formats := [⟨.isEmpty, .null, ⟨none, none, false, .empty⟩⟩,
          ⟨.isNotEmpty, .null, ⟨none, none, true, .empty⟩⟩] },
     .fresh "s" "State" (.select [.fresh "open" "Open" 0, .fresh "done" "Done" 1]),
     .fresh "f" "Copy" (.formula "Title")]
  rows :=
    [⟨"a", .ofList [("s", .text "done"), ("t", .text "Write")], .epoch, .epoch⟩,
     ⟨"b", .ofList [("s", .text "open")], .epoch, .epoch⟩,
     ⟨"c", .ofList [("s", .text "lost"), ("t", .text "Read")], .epoch, .epoch⟩]
  views := []

/-- The tasks with a title by their state, which is not always an option, with a filter and a footer of
a column that is gone. -/
def boardView : View where
  id := "v"
  name := "Board"
  type := .board
  sorts := [⟨"t", .desc⟩]
  filters := [⟨"f", .isNotEmpty, .null⟩, ⟨"gone", .isEmpty, .null⟩]
  settings := { ViewSettings.none with groupBy := some "s" }
  summaries := .ofList [("gone", .count), ("t", .countValues)]

/-- What is computed for the board. -/
def boardColumns : ComputedColumns := board.computed (fun _ => none) default

/-- The titles, one of which is missing, are ordered consistently. -/
theorem sortable_board : boardColumns.Sortable board boardView := by
  refine List.forall_mem_singleton.2 ((Cell.consistentOn_isOf .word).mono fun c hc => ?_)
  have htitles : ∀ row ∈ board.rows, (boardColumns.cellOf board row "t").IsOf .word :=
    List.forall_mem_cons.2 ⟨trivial, List.forall_mem_cons.2 ⟨trivial, List.forall_mem_singleton.2 trivial⟩⟩
  obtain ⟨row, hrow, rfl⟩ := List.mem_map.1 hc
  exact htitles row (List.mem_of_mem_filter hrow)

theorem materialize_consistent_board :
    (board.properties.map (·.id)).Nodup ∧ (board.rows.map (·.id)).Nodup ∧
    IsStableSort (fun cmp (rows : List Row) => some (stableSort cmp rows)) ∧
    boardColumns.Sortable board boardView ∧
    boardColumns.materializeBy (fun cmp rows => some (stableSort cmp rows)) board boardView "None"
      = some (boardColumns.materialize board boardView "None") ∧
    (boardColumns.materialize board boardView "None").Consistent boardColumns board boardView "None" ∧
    (boardColumns.materialize board { boardView with type := .table, settings := .none }
        "Other").rowIds
      = (boardColumns.materialize board boardView "None").rowIds := by
  obtain ⟨hgiven, hconsistent, hsame⟩ := ComputedColumns.materialize_consistent (c := boardColumns)
    (d := board) (v := boardView) (by decide) (by decide) isStableSort_stableSort "None"
  have hboard := hgiven sortable_board
  exact ⟨by decide, by decide, isStableSort_stableSort, sortable_board, hboard, hconsistent _ hboard,
    Option.some_inj.1 (hsame _ "Other" rfl rfl)⟩

end Board

end Databook
