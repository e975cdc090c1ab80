import Databook.Document.Basic

/-!
# Rows by the ids that they name

A `RowIndex` lists rows under the ids that they name. It is filled row by row (`RowIndex.ofRows`), and
its lists are handed out one after the other (`RowIndex.handOut`): a list that has been taken is not
there for the next one who asks.
-/

namespace Databook

/-- The ids of rows by the ids that the rows name. -/
abbrev RowIndex := IdMap (List String)

namespace RowIndex

/-- Put a row at the end of a list, unless it is there. -/
def enlist (rows : List String) (row : String) : List String :=
  if rows.contains row then rows else rows ++ [row]

/-- List a row under each of some ids. -/
def add (index : RowIndex) (ids : List String) (row : String) : RowIndex :=
  ids.foldl (fun index id => index.insert id (enlist ((index.get? id).getD []) row)) index

/-- The index of some rows. -/
def ofRows (idsOf : Row → List String) (rows : List Row) : RowIndex :=
  rows.foldl (fun index row => add index (idsOf row) row.id) .empty

/-- Give each member of a list the rows that are listed under its id, which are taken out. -/
def handOut (idOf : α → String) (index : RowIndex) : List α → List (α × Option (List String))
  | [] => []
  | a :: rest => (a, index.get? (idOf a)) :: handOut idOf (index.erase (idOf a)) rest

end RowIndex

end Databook
