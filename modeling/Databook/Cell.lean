import Databook.Text.Search
import Databook.Decimal.Layout
import Databook.Decimal.Numeral
import Databook.Decimal.Remainder
import Databook.Json.Text

/-!
# Cells

A `Cell` is the value of one property for one row: a text, a number, a truth value, a list of texts
or nothing. Stored and computed values have the same type.

The rest of the library looks at cells through a few readings: `display` is the text that users see,
`toNumber` the loose number that formulas calculate with, `number?` the strict one that summaries
add up, `isTruthy` the truth value and `ids` the rows or options that a cell names. `toJson` and
`ofJson` are its form in stored documents.
-/

namespace Databook

open Text Decimal

/-- The value of one property for one row. -/
inductive Cell where
  | text (s : String)
  | number (x : Float)
  | bool (b : Bool)
  | list (items : List String)
  | null
deriving BEq, Inhabited

/-- Values of columns: property id, then row id. -/
abbrev ColumnValues := IdMap (IdMap Cell)

namespace Cell

/-! ### Numbers as texts -/

/-- Is it a whole number that is written with all its digits? -/
def isWhole (x : Float) : Bool := isInteger x && x.abs < 9e15

/-- A number as users type it: `10` rather than `10.0`. -/
def numberText (x : Float) : String :=
  if x.isNaN then "NaN"
  else if x.isInf then (if 0 < x then "Infinity" else "-Infinity")
  else match isWhole x, truncate? x with
    | true, some n => toString n
    | _, _ => Layout.display.write x

/-- The number that a text stands for. Blank text is 0 and what is no number is NaN; letters other
than that of an exponent are only allowed in the word `Infinity`. -/
def readNumber (s : String) : Float :=
  let t := trim s
  if t = "" then 0
  else if t = "Infinity" || t = "+Infinity" then 1 / 0
  else if t = "-Infinity" then -1 / 0
  else if t.toList.any fun c => c.isAlpha && c != 'e' && c != 'E' then 0 / 0
  else (readFloat? t).getD (0 / 0)

/-! ### Readings of a cell -/

def isText : Cell → Bool
  | text _ => true
  | _ => false

def isNull : Cell → Bool
  | null => true
  | _ => false

/-- Nothing, the empty text and the empty list are empty. -/
def isEmpty : Cell → Bool
  | null => true
  | text s => s.isEmpty
  | list items => items.isEmpty
  | number _ | bool _ => false

/-- The loose number of a cell: nothing is 0 and text that is no number is NaN. -/
def toNumber : Cell → Float
  | null => 0
  | bool b => if b then 1 else 0
  | number x => x
  | text s => readNumber s
  | list items => readNumber (join "," items)

/-- The strict number of a cell: only finite numbers and texts of them have one. -/
def number? : Cell → Option Float
  | number x => if x.isFinite then some x else none
  | text s =>
    if isAllBlank s then none
    else
      let x := readNumber s
      if x.isFinite then some x else none
  | _ => none

def isTruthy : Cell → Bool
  | null => false
  | bool b => b
  | number x => x != 0 && !x.isNaN
  | text s => !s.isEmpty
  | list items => !items.isEmpty

/-- The text that stands for a cell when it is shown, compared or joined to other texts. -/
def display : Cell → String
  | null => ""
  | text s => s
  | number x => numberText x
  | bool b => if b then "true" else "false"
  | list items => join ", " items

/-- Lists become their text; all else stays. -/
def flatten : Cell → Cell
  | list items => text (join ", " items)
  | c => c

/-- The rows or options that a cell names. A text is a single id. -/
def ids : Cell → List String
  | list items => items
  | text s => if s.isEmpty then [] else [s]
  | _ => []

/-! ### Stored form -/

/-- The JSON form of a number: an integer if it is whole, and null if it is not finite. -/
def numberJson (x : Float) : Json :=
  match isWhole x, truncate? x with
  | true, some n => .number (.integer n)
  | _, _ => if x.isFinite then .number (.double x) else .null

/-- The JSON form of a cell. -/
def toJson : Cell → Json
  | null => .null
  | bool b => .bool b
  | text s => .string s
  | list items => .ofTexts items
  | number x => numberJson x

/-- The item of a list that a JSON value stands for: nothing for null, a string itself, and the text
of anything else. -/
def itemOfJson? : Json → Option String
  | .null => none
  | .string s => some s
  | j => some j.compact

/-- The cell that a JSON value stands for. An object becomes its text. -/
def ofJson : Json → Cell
  | .null => null
  | .bool b => bool b
  | .number n => number n.toFloat
  | .string s => text s
  | .array items => list (items.filterMap itemOfJson?)
  | .object fields => text (Json.object fields).compact

/-- The JSON text of a cell, by which values are told apart. -/
def serialized (c : Cell) : String := c.toJson.compact

end Cell

end Databook
