import Databook.Document.Index
import Databook.Proofs.IdMap
import Mathlib.Data.List.Basic
import Mathlib.Data.List.Induction

/-!
# What is listed under an id

An index that has been filled row by row lists under each id the rows that name it, once each and in
their order (`RowIndex.get?_ofRows`). When its lists are handed out, the first who asks with an id gets
the list of that id, and all later ones get nothing: among several members with one id only the first
counts (`RowIndex.filterMap_handOut_erase`), and in a map from ids only an id that is asked for once has
its list (`RowIndex.get?_ofList_handOut`).
-/

namespace Databook

/-- The rows that name an id, once each. -/
def namers (idsOf : Row → List String) (rows : List Row) (id : String) : List String :=
  ((rows.filter fun row => (idsOf row).contains id).map (·.id)).eraseDups

/-- A member that comes last is dropped if it was there before. -/
theorem eraseDups_concat (ids : List String) (id : String) :
    (ids ++ [id]).eraseDups = RowIndex.enlist ids.eraseDups id := by
  rw [List.eraseDups_append, RowIndex.enlist]
  by_cases h : id ∈ ids <;> simp [h, List.removeAll, List.eraseDups_cons]

namespace RowIndex

/-! ### Filling an index -/

theorem mem_enlist (rows : List String) (row : String) : row ∈ enlist rows row := by
  unfold enlist
  split
  · next h => exact List.contains_iff_mem.1 h
  · simp

theorem enlist_enlist (rows : List String) (row : String) :
    enlist (enlist rows row) row = enlist rows row :=
  if_pos (List.contains_iff_mem.2 (mem_enlist rows row))

/-- To be listed under an id twice is to be listed there once. -/
theorem get?_add (index : RowIndex) (ids : List String) (row id : String) :
    (add index ids row).get? id
      = if id ∈ ids then some (enlist ((index.get? id).getD []) row) else index.get? id := by
  unfold add
  induction ids generalizing index with
  | nil => simp
  | cons first ids ih =>
    rw [List.foldl_cons, ih, IdMap.get?_insert]
    by_cases hfirst : id = first
    · subst hfirst
      by_cases hrest : id ∈ ids <;> simp [hrest, enlist_enlist]
    · simp [hfirst]

theorem namers_concat (idsOf : Row → List String) (rows : List Row) (last : Row) (id : String) :
    namers idsOf (rows ++ [last]) id
      = if id ∈ idsOf last then enlist (namers idsOf rows id) last.id else namers idsOf rows id := by
  unfold namers
  rw [List.filter_append, List.map_append]
  by_cases h : id ∈ idsOf last
  · rw [if_pos h, ← eraseDups_concat]
    simp [h]
  · simp [h]

/-- Under each id there are the rows that name it, if there are any. -/
theorem get?_ofRows (idsOf : Row → List String) (rows : List Row) (id : String) :
    (ofRows idsOf rows).get? id
      = if namers idsOf rows id = [] then none else some (namers idsOf rows id) := by
  induction rows using List.reverseRecOn with
  | nil => rfl
  | append_singleton rows last ih =>
    have hstep : ofRows idsOf (rows ++ [last]) = add (ofRows idsOf rows) (idsOf last) last.id :=
      List.foldl_append
    have hlisted : ((ofRows idsOf rows).get? id).getD [] = namers idsOf rows id := by
      rw [ih]
      split
      · next hnone => exact hnone.symm
      · rfl
    rw [hstep, get?_add, namers_concat, hlisted]
    by_cases hnamed : id ∈ idsOf last
    · rw [if_pos hnamed, if_pos hnamed, if_neg (List.ne_nil_of_mem (mem_enlist _ _))]
    · rw [if_neg hnamed, if_neg hnamed, ih]

theorem getD_get?_ofRows (idsOf : Row → List String) (rows : List Row) (id : String) :
    ((ofRows idsOf rows).get? id).getD [] = namers idsOf rows id := by
  rw [get?_ofRows]
  split
  · next hnone => exact hnone.symm
  · rfl

/-- Of rows nothing but their ids and the ids that they name is seen. -/
theorem ofRows_map {idsOf : Row → List String} {rows : List Row} {f : Row → Row}
    (hid : ∀ row ∈ rows, (f row).id = row.id) (hnamed : ∀ row ∈ rows, idsOf (f row) = idsOf row) :
    ofRows idsOf (rows.map f) = ofRows idsOf rows := by
  unfold ofRows
  rw [List.foldl_map]
  refine List.foldl_ext _ _ _ fun index row hrow => ?_
  rw [hid row hrow, hnamed row hrow]

/-! ### Handing out its lists -/

section HandOut

variable {idOf : α → String}

/-- The list of an id that has been taken is as good as not asked for. -/
theorem filterMap_handOut_erase {f : α × Option (List String) → Option β}
    (hf : ∀ a, f (a, none) = none) (index : RowIndex) (id : String) (l : List α) :
    (handOut idOf (index.erase id) l).filterMap f
      = (handOut idOf index (l.filter (idOf · != id))).filterMap f := by
  induction l generalizing index with
  | nil => rfl
  | cons a l ih =>
    rw [handOut, List.filterMap_cons, IdMap.get?_erase]
    by_cases ha : idOf a = id
    · subst ha
      rw [if_pos rfl, hf, IdMap.erase_erase, ih, List.filter_cons_of_neg (by simp)]
    · rw [if_neg ha, IdMap.erase_comm, ih, List.filter_cons_of_pos (by simpa using ha), handOut,
        List.filterMap_cons]

/-- Handed out to ids, the list of an id is there afterwards if the id has asked for it once. -/
theorem get?_ofList_handOut (index : RowIndex) (ids : List String) (key : String) :
    (IdMap.ofList ((handOut id index ids).map fun (id, rows?) => (id, rows?.getD []))).get? key
      = if key ∈ ids then some (if 1 < ids.count key then [] else (index.get? key).getD [])
        else none := by
  rw [IdMap.get?_ofList]
  induction ids generalizing index with
  | nil => rfl
  | cons first ids ih =>
    rw [handOut, List.map_cons, List.reverse_cons, List.lookup_append, ih, IdMap.lookup_entry,
      IdMap.get?_erase, List.count_cons, id_eq]
    by_cases hfirst : key = first
    · subst hfirst
      rw [if_pos rfl, if_pos rfl, if_pos List.mem_cons_self, Option.getD_none, ite_self]
      by_cases hrest : key ∈ ids
      · have hcount := List.count_pos_iff.2 hrest
        rw [if_pos hrest, beq_self_eq_true, if_pos rfl, if_pos (by omega), Option.some_or]
      · rw [if_neg hrest, List.count_eq_zero_of_not_mem hrest, Option.none_or, beq_self_eq_true]
        rfl
    · simp [hfirst, Ne.symm hfirst]

end HandOut

end RowIndex

end Databook
