import Databook.Document.Basic
import Databook.Display.Number
import Databook.Calendar.DateText

/-!
# Summaries of columns

`Aggregation.apply` sums up a list of cells as a cell; rollups use it as it is. A footer shows the
same as text (`Property.summaryText`). Null means that there was nothing to sum up.

Numbers are summed up over the cells that have a strict number. Dates are compared as texts, which
is their order as long as they are written alike.
-/

namespace Databook

open Calendar

namespace Aggregation

/-- The summaries that a type of property can show in a footer. -/
def forType : PropertyType → List Aggregation
  | .number =>
    [count, countValues, countUnique, sum, average, min, max, range, percentEmpty, percentNotEmpty]
  | .date => [count, countValues, countUnique, min, max, range, percentEmpty, percentNotEmpty]
  | .relation | .rollup | .pageLink => [count, percentEmpty, percentNotEmpty]
  | .text | .select | .multiSelect | .checkbox | .url | .formula =>
    [count, countValues, countUnique, percentEmpty, percentNotEmpty]

/-- Round to a whole number; a half goes up. -/
def roundHalfUp (x : Float) : Float := (x + 0.5).floor

/-- The share of `part` in `whole`, as a whole number of hundredths. -/
def percentage (part whole : Nat) : Float :=
  roundHalfUp (Float.ofNat part * 100 / Float.ofNat whole)

/-- The least text of a list. -/
def earliest? : List String → Option String
  | [] => none
  | t :: ts => some (ts.foldl (fun m u => if u < m then u else m) t)

/-- The greatest text of a list. -/
def latest? : List String → Option String
  | [] => none
  | t :: ts => some (ts.foldl (fun m u => if m < u then u else m) t)

/-- The summary of dates; only `min`, `max` and `range` come here. -/
def ofDates (a : Aggregation) (cells : List Cell) : Cell :=
  let texts := (cells.filter (!·.isEmpty)).map Cell.display
  match earliest? texts, latest? texts with
  | some first, some last =>
    match a with
    | min => .text first
    | max => .text last
    | _ =>
      match Date.readHead? first, Date.readHead? last with
      | some a, some b => .number (Float.ofInt (b.daysFrom a))
      | _, _ => .null
  | _, _ => .null

/-- The summary of numbers. -/
def ofNumbers (a : Aggregation) : List Float → Cell
  | [] => .null
  | x :: xs =>
    let total := xs.foldl (· + ·) x
    let least := xs.foldl (fun m y => if y < m then y else m) x
    let most := xs.foldl (fun m y => if m < y then y else m) x
    .number <| match a with
      | sum => total
      | average => total / Float.ofNat (xs.length + 1)
      | min => least
      | max => most
      | _ => most - least

/-- The summary of cells; with `dates` they are those of a date property. -/
def apply (a : Aggregation) (dates : Bool) (cells : List Cell) : Cell :=
  let filled := cells.filter (!·.isEmpty)
  match a with
  | count => .number (Float.ofNat cells.length)
  | countValues => .number (Float.ofNat filled.length)
  | countUnique => .number (Float.ofNat (filled.map Cell.serialized).eraseDups.length)
  | percentEmpty =>
    if cells.isEmpty then .null
    else .number (percentage (cells.length - filled.length) cells.length)
  | percentNotEmpty =>
    if cells.isEmpty then .null else .number (percentage filled.length cells.length)
  | showValues =>
    if filled.isEmpty then .null else .text (Text.join ", " (filled.map Cell.display))
  | min | max | range =>
    if dates then a.ofDates cells else a.ofNumbers (cells.filterMap Cell.number?)
  | sum | average => a.ofNumbers (cells.filterMap Cell.number?)

end Aggregation

/-- The number of a summary as a footer shows it. -/
def Property.summaryNumber (p : Property) (a : Aggregation) (x : Float) : String :=
  match a with
  | .count | .countValues | .countUnique => Cell.numberText x
  | .percentEmpty | .percentNotEmpty => Cell.numberText x ++ "%"
  | .range =>
    if p.type = .date then Cell.numberText x ++ (if x == 1 then " day" else " days")
    else p.numberText x
  | .average =>
    match p.numberFormat? with
    | none => Cell.numberText ((x * 100).round / 100)
    | some _ => p.numberText x
  | .sum | .min | .max | .showValues => p.numberText x

/-- The text of a summary in a footer: a dash if there is nothing to sum up. -/
def Property.summaryText (p : Property) (a : Aggregation) (cells : List Cell) : String :=
  match a.apply (p.type = .date) cells with
  | .null => "-"
  | .number x => if cells.isEmpty && a ≠ .count then "-" else p.summaryNumber a x
  | c => c.display

/-- The footer of a column over stored cells. -/
def Property.storedSummary (p : Property) (a : Aggregation) (column : String) (rows : List Row) :
    String :=
  p.summaryText a (rows.map (·.cell column))

end Databook
