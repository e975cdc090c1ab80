import Databook.Text.Search

/-!
# Reading decimal numerals

A numeral is a sign, digits with at most one point, and perhaps an exponent; at least one digit
stands beside the point. `Numeral.read?` accepts nothing else and `Numeral.toFloat` is the double
nearest to the number written.
-/

namespace Databook.Decimal

/-- The value of a list of decimal digits. -/
def digitsValue (cs : List Char) : Nat :=
  cs.foldl (fun n c => 10 * n + (c.toNat - '0'.toNat)) 0

/-- A numeral taken apart: `±whole.fraction e exponent`. -/
structure Numeral where
  negative : Bool
  whole : List Char
  fraction : List Char
  exponent : Int

namespace Numeral

/-- A sign, which may be missing, and what follows it. -/
def sign : List Char → Bool × List Char
  | '-' :: cs => (true, cs)
  | '+' :: cs => (false, cs)
  | cs => (false, cs)

/-- An exponent that takes up the whole text, or no text at all. -/
def exponent? : List Char → Option Int
  | [] => some 0
  | c :: cs =>
    if c == 'e' || c == 'E' then
      let (negative, digits) := sign cs
      if digits.isEmpty || !digits.all Char.isDigit then none
      else some (if negative then -digitsValue digits else digitsValue digits)
    else none

/-- Read a numeral that takes up the whole text. -/
def read? (cs : List Char) : Option Numeral :=
  let (negative, cs) := sign cs
  let (whole, cs) := cs.span Char.isDigit
  let (fraction, cs) := match cs with
    | '.' :: cs => cs.span Char.isDigit
    | cs => ([], cs)
  if whole.isEmpty && fraction.isEmpty then none
  else (exponent? cs).map fun exponent => { negative, whole, fraction, exponent }

/-- The nearest double to `coefficient * 10 ^ exponent`. A number whose leading digit lies above
10 ^ 400 or below 10 ^ -400 is not worked out: it is an infinity or zero. -/
def scale (coefficient : Nat) (exponent : Int) : Float :=
  let size : Int := (Nat.toDigits 10 coefficient).length + exponent
  if coefficient = 0 || size < -400 then 0
  else if 400 < size then 1 / 0
  else Float.ofScientific coefficient (exponent < 0) exponent.natAbs

/-- The double nearest to a numeral. -/
def toFloat (n : Numeral) : Float :=
  let magnitude := scale (digitsValue (n.whole ++ n.fraction)) (n.exponent - n.fraction.length)
  if n.negative then -magnitude else magnitude

end Numeral

/-- The double that a numeral text stands for. -/
def readFloat? (s : String) : Option Float := (Numeral.read? s.toList).map Numeral.toFloat

end Databook.Decimal
