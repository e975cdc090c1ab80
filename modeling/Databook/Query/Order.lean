import Databook.Document.Basic
import Databook.Text.Casing

/-!
# The order of cells and rows

`Cell.order` compares two cells. Nothing comes first; numbers, truth values and lists are compared
with their like, and all other pairs as texts. Texts are compared without regard to case, and with
regard to it when they are equal otherwise.

`sortRows` sorts rows by several properties, the first of them being the most important. Rows that
compare as equal keep their order (`stableSort`). The comparison of a column with cells of several
kinds need not be an order: 9 comes before 10, 10 before the text `5`, and that before 9.
-/

namespace Databook

open Text

/-- Compare texts without, then with regard to case. -/
def textOrder (a b : String) : Ordering :=
  (compare (toLower a) (toLower b)).then (compare a b)

/-- Compare numbers. NaN is equal to every number. -/
def numberOrder (x y : Float) : Ordering :=
  if x < y then .lt else if y < x then .gt else .eq

/-- Compare cells. -/
def Cell.order (a b : Cell) : Ordering :=
  match a, b with
  | .null, .null => .eq
  | .null, _ => .lt
  | _, .null => .gt
  | .number x, .number y => numberOrder x y
  | .bool x, .bool y => compare x y
  | .list x, .list y => textOrder (join "," x) (join "," y)
  | a, b => textOrder a.display b.display

/-- Turn a comparison around for the descending direction. -/
def SortDirection.orient (direction : SortDirection) (o : Ordering) : Ordering :=
  match direction with
  | asc => o
  | desc => o.swap

/-- Compare rows by the properties of a list of sorts. -/
def rowOrder (valueOf : Row → String → Cell) (sorts : List SortKey) (a b : Row) : Ordering :=
  match sorts with
  | [] => .eq
  | s :: sorts =>
    (s.direction.orient ((valueOf a s.property).order (valueOf b s.property))).then
      (rowOrder valueOf sorts a b)

/-! ### Sorting -/

section Sorting

variable {α : Type u} (cmp : α → α → Ordering)

/-- Put a value into a list that is kept backwards, behind the values that it comes before. -/
def insertBack (a : α) : List α → List α
  | [] => [a]
  | b :: bs => if cmp a b == .lt then b :: insertBack a bs else a :: b :: bs

/-- Sort by inserting one value after the other, from the back. -/
def insertionSort (l : List α) : List α :=
  (l.foldl (fun sorted a => insertBack cmp a sorted) []).reverse

/-- Sort by a comparison. If it is consistent among the values, they come to stand in its order and
those that compare as equal keep theirs, as with every stable sort. If it is not, only up to 20 values
have a settled order, that of insertion. The order of a longer list is open, and a sort may fail on
it; what is given here is then one order of many. -/
def stableSort (l : List α) : List α :=
  if l.length ≤ 20 then insertionSort cmp l else l.mergeSort fun a b => (cmp a b).isLE

end Sorting

/-- Sort rows. `valueOf` gives the cells of a row by property id. The order of more than 20 rows is
settled only if the cells of each property are ordered consistently (see `stableSort`). -/
def sortRows (valueOf : Row → String → Cell) (sorts : List SortKey) (rows : List Row) : List Row :=
  stableSort (rowOrder valueOf sorts) rows

end Databook
