import Databook.Decimal.Shortest

/-!
# Number layouts

A double is written with its shortest digits in several places of the library, and the places
differ only in where the point goes and how an exponent is written. Those decisions are the fields
of a `Layout`; `Layout.write` is the one printer.

* `display` — what users read: always positional, no point in a whole number.
* `jsonNumber` — doubles inside JSON text: `100.0`, `1e-7`, `1e+21`.
* `yamlNumber` — the same inside YAML text, with `1e21` for `1e+21`.
-/

namespace Databook.Decimal

open Float.Model (UnpackedFloat)

/-- How the shortest digits of a double are laid out. -/
structure Layout where
  /-- Positional if the point is after the digit of this index, counted from the first digit. -/
  isPositional : Int → Bool
  /-- What follows a whole number written positionally. -/
  wholeTail : String
  /-- What stands before a non-negative exponent. -/
  plus : String
  notANumber : String
  infinity : String

/-- The digits with the point after the first `point` of them; zeros fill up on either side. -/
def positional (digits : List Char) (point : Int) (wholeTail : String) : List Char :=
  if point ≤ 0 then
    ['0', '.'] ++ List.replicate (-point).toNat '0' ++ digits
  else if digits.length ≤ point then
    digits ++ List.replicate (point.toNat - digits.length) '0' ++ wholeTail.toList
  else
    digits.take point.toNat ++ '.' :: digits.drop point.toNat

/-- The digits with the point after the first of them, and an exponent. -/
def scientific (digits : List Char) (exponent : Int) (plus : String) : List Char :=
  digits.take 1 ++ (if digits.length ≤ 1 then [] else '.' :: digits.drop 1) ++ 'e' ::
    (if exponent < 0 then ['-'] else plus.toList) ++ Nat.toDigits 10 exponent.natAbs

/-- The text of a non-negative decimal. -/
def Layout.writeDecimal (l : Layout) (d : Scaled) : List Char :=
  let digits := Nat.toDigits 10 d.coefficient
  let point : Int := digits.length + d.exponent
  if l.isPositional point then positional digits point l.wholeTail
  else scientific digits (point - 1) l.plus

/-- The text of a double. -/
def Layout.write (l : Layout) (x : Float) : String :=
  let signed : UnpackedFloat.Sign → List Char → String
    | .negative, cs => String.ofList ('-' :: cs)
    | .positive, cs => String.ofList cs
  match x.toModel.unpack with
  | .notANumber => l.notANumber
  | .infinity sign => signed sign l.infinity.toList
  | .zero sign => signed sign (l.writeDecimal ⟨0, 0⟩)
  | .finite sign m e _ => signed sign (l.writeDecimal (Shortest.ofFinite m e))

/-- Plain decimal text without exponents, `0.0000001` and `1000000000000000000000`. -/
def Layout.display : Layout where
  isPositional _ := true
  wholeTail := ""
  plus := ""
  notANumber := "NaN"
  infinity := "inf"

/-- Doubles in JSON text: positional from `0.00001` to below `1e+16`, and never without a point or
an exponent. -/
def Layout.jsonNumber : Layout where
  isPositional point := -5 < point && point ≤ 16
  wholeTail := ".0"
  plus := "+"
  notANumber := "null"
  infinity := "null"

/-- Doubles in YAML text. -/
def Layout.yamlNumber : Layout where
  isPositional point := -5 < point && point ≤ 16
  wholeTail := ".0"
  plus := ""
  notANumber := ".nan"
  infinity := ".inf"

end Databook.Decimal
