import Databook.Decimal.Power
import Databook.Decimal.Numeral
import Databook.Json.Token

/-!
# YAML scalars

What a scalar without quotes stands for: nothing, a truth value, a number or else a text. A text
that would be taken for one of the others has to be written with quotes (`needsQuotes`).
-/

namespace Databook.Yaml

open Decimal

/-- The ways to write a scalar: without quotes, in single or double quotes, or as a block of lines
behind a bar or an angle bracket. -/
inductive Style where
  | plain | single | double | literal | folded
deriving DecidableEq

/-- Is the scalar a word for nothing? -/
def isNull (s : String) : Bool := ["~", "null", "Null", "NULL"].contains s

/-- The truth value that a scalar stands for. -/
def bool? (s : String) : Option Bool :=
  if ["true", "True", "TRUE"].contains s then some true
  else if ["false", "False", "FALSE"].contains s then some false
  else none

/-! ### Numbers -/

/-- The value of digits of a base, of which there is at least one. -/
def digitsIn? (base : Nat) (cs : List Char) : Option Nat := do
  guard !cs.isEmpty
  let digits ← cs.mapM Json.hexValue?
  guard (digits.all (· < base))
  return digits.foldl (fun n digit => base * n + digit) 0

/-- The value of a number in base 16, 8 or 2. -/
def radixNumber? : List Char → Option Nat
  | '0' :: 'x' :: cs => digitsIn? 16 cs
  | '0' :: 'o' :: cs => digitsIn? 8 cs
  | '0' :: 'b' :: cs => digitsIn? 2 cs
  | _ => none

/-- Is it a number in base 16, 8 or 2 that fits into 128 bits, one of them for a negative sign? -/
def isRadixNumber : List Char → Bool
  | '-' :: cs => (radixNumber? cs).any (· ≤ 2 ^ 127)
  | '+' :: cs => (radixNumber? cs).any (· < 2 ^ 128)
  | cs => (radixNumber? cs).any (· < 2 ^ 128)

/-- A text without a sign in front. -/
def unsigned : List Char → List Char
  | '+' :: cs | '-' :: cs => cs
  | cs => cs

/-- Are they several digits of which the first is a zero? That is no number, but close to one. -/
def hasLeadingZero (s : String) : Bool :=
  let cs := unsigned s.toList
  1 < cs.length && cs.head? == some '0' && cs.all Char.isDigit

/-- The numbers that are no decimal ones. -/
def specialNumbers : List String :=
  [".inf", ".Inf", ".INF", "+.inf", "+.Inf", "+.INF", "-.inf", "-.Inf", "-.INF", ".nan", ".NaN",
    ".NAN"]

/-- Does the scalar stand for a number? -/
def isNumber (s : String) : Bool :=
  specialNumbers.contains s || isRadixNumber s.toList ||
    (!hasLeadingZero s && (readFloat? s).any Float.isFinite)

/-! ### Texts -/

/-- Would the text be taken for something else, or nearly so, if it stood without quotes? -/
def needsQuotes (s : String) : Bool :=
  s.isEmpty || isNull s || (bool? s).isSome || isNumber s || hasLeadingZero s

end Databook.Yaml
